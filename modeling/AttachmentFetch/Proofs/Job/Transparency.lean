import AttachmentFetch.Proofs.Job.Replay
import AttachmentFetch.Proofs.Store.Atomicity

/-! Retries leave no trace. What failed attempts have done to the rows of an attachment, and
to its files, the attempt that succeeds undoes or overwrites: a run that succeeds ends as
one execution does in which all calls come out as they did in the last attempt. -/
namespace AttachmentFetch

deriving instance DecidableEq for ServiceCall

namespace Database

def timeless (db : Database) : Database :=
  { db with attachments := db.attachments.map (·.map ({ · with updatedAt := 0 })) }

theorem timeless_done {db after after' : Database} {id : AttachmentId} {message : MessageId}
    {part : String} {stored now now' : Int64} {count count' : Nat}
    (updated : db.updateAttachment id message (Repository.doneRow part stored now) =
      .ok (count, after))
    (updated' : db.updateAttachment id message (Repository.doneRow part stored now') =
      .ok (count', after')) : after.timeless = after'.timeless := by
  obtain ⟨rows, tables, rfl, -⟩ := updateAttachment_ok updated
  obtain ⟨rows', tables', rfl, -⟩ := updateAttachment_ok updated'
  obtain rfl : rows = rows' := Option.some.inj (tables.symm.trans tables')
  simp only [timeless, Option.map_some, List.map_map]
  congr 3
  funext row
  simp only [Function.comp, revise]
  split <;> rfl

end Database

/-- From one scene to the other content was stored for an attachment: the rows are what one
update has made of them, the part holds the content, and nothing lies unfinished beside it. -/
structure StoredOnce (repository : Repository) (task : DownloadTask) (bytes : Bytes)
    (start after : Scene Backend) : Prop where
  rows : ∃ stored now count, int64? bytes.length = some stored ∧ count ≠ 0 ∧
    start.rest.database.updateAttachment task.attachment task.message
        (Repository.doneRow (repository.partFile task.message task.attachment) stored now) =
      .ok (count, after.rest.database)
  part : repository.part? after.disk task.message task.attachment = some bytes
  complete : after.disk.file?
    (after.disk.target (repository.unfinishedFile task.message task.attachment)) = none

namespace StoredOnce
variable {repository : Repository} {task : DownloadTask} {bytes : Bytes}
  {start middle after : Scene Backend}

theorem unique {start' after' : Scene Backend}
    (stored : StoredOnce repository task bytes start after)
    (stored' : StoredOnce repository task bytes start' after')
    (same : start'.rest.database = start.rest.database) :
    after'.rest.database.timeless = after.rest.database.timeless ∧
      repository.part? after'.disk task.message task.attachment =
        repository.part? after.disk task.message task.attachment := by
  obtain ⟨size, now, count, fits, -, updated⟩ := stored.rows
  obtain ⟨size', now', count', fits', -, updated'⟩ := stored'.rows
  obtain rfl : size = size' := Option.some.inj (fits.symm.trans fits')
  rw [same] at updated'
  exact ⟨Database.timeless_done updated' updated, stored'.part.trans stored.part.symm⟩

end StoredOnce

namespace DownloadJob
variable {repository : Repository} {settings : DownloadSettings} {task : DownloadTask}
  {start after : Scene Backend} {seen : List (Sighting Backend)}

theorem Effect.tables_of_error {error : AttemptError}
    (effect : Effect repository settings task start seen (.error error) after) :
    after.rest.database = start.rest.database ∨
      ∃ now count, start.rest.database.updateAttachment task.attachment task.message
        ({ · with state := AttachmentState.started.name, updatedAt := now }) =
          .ok (count, after.rest.database) := by
  generalize result_eq : (Except.error error : Except AttemptError Unit) = result at effect
  cases effect with
  | unmarked _ same => exact .inl same.database
  | undelivered _ begun writes =>
    rw [writes.database]
    exact .inr begun.1
  | @inserted _ _ result _ _ _ _ _ _ begun writes inserting clears =>
    cases result with
    | ok => cases result_eq
    | error =>
      rw [clears.database, (Repository.insertContent_error inserting).1, writes.database]
      exact .inr begun.1

theorem Effect.headings {error : AttemptError}
    (effect : Effect repository settings task start seen (.error error) after) :
    after.rest.database.headings = start.rest.database.headings := by
  rcases effect.tables_of_error with same | ⟨now, count, begun⟩
  · rw [same]
  · exact Database.headings_updated begun fun _ => rfl

end DownloadJob

end AttachmentFetch
