import AttachmentFetch.Proofs.Job.Effect
import AttachmentFetch.Proofs.Store.Insertion
import AttachmentFetch.Proofs.Store.Registration
import Mathlib.Data.List.Basic

/-! What a finished row promises. However registrations and downloads follow one
another and whatever fails in them, a row that says its content is stored names the
part, and the part holds what was last stored. -/
namespace AttachmentFetch

def ServiceCall.stored? (attachment : AttachmentId) : ServiceCall → Option Bytes
  | insertContent _ other content (.ok ()) =>
    if other = attachment then some content.bytes else none
  | _ => none

/-- The content that was stored last for an attachment. -/
def lastStored (history : List (Sighting ρ)) (attachment : AttachmentId) : Option Bytes :=
  (history.filterMap (·.call.stored? attachment)).getLast?

/-- Scenes that come about from an empty database by registrations and downloads, one
at a time, with what has been seen of the downloads. In between, only what the server
has, what is going to fail and what was logged may change. -/
inductive Reachable (repository : Repository) :
    Scene Backend → List (Sighting Backend) → Prop
  | start {scene} (empty : scene.rest.database = ⟨true, some [], some []⟩) :
    Reachable repository scene []
  | elsewhere {scene next history} (reached : Reachable repository scene history)
    (database : next.rest.database = scene.rest.database)
    (nodes : next.disk.nodes = scene.disk.nodes)
    (workingDirectory : next.disk.workingDirectory = scene.disk.workingDirectory) :
    Reachable repository next history
  | register {scene history} (pointer : Pointer) (reached : Reachable repository scene history) :
    Reachable repository ((Client.register pointer).on scene).2 history
  | fetch {scene history} (settings : DownloadSettings) (backoff : Duration) (task : DownloadTask)
    (reached : Reachable repository scene history) :
    Reachable repository (Client.fetch ⟨repository, settings, backoff⟩ task scene).2
      (history ++ sightings repository.services settings backoff task scene)

/-- The part of a row holds the content that was stored last, and the row says so. -/
structure Backed (repository : Repository) (disk : Disk) (history : List (Sighting Backend))
    (row : AttachmentRow) : Prop where
  partFile : row.partFile = some (repository.partFile row.message row.id)
  content : ∃ bytes stored, lastStored history row.id = some bytes ∧
    disk.content? (repository.partFile row.message row.id) = some bytes ∧
    row.storedSize = some stored ∧ stored.toInt = bytes.length

/-- An attachment has one message, and finished rows are backed by their parts. -/
structure Sound (repository : Repository) (scene : Scene Backend)
    (history : List (Sighting Backend)) : Prop where
  owner : ∀ rows, scene.rest.database.attachments = some rows →
    ∀ row ∈ rows, ∀ other ∈ rows, row.id = other.id → row.message = other.message
  backed : ∀ rows, scene.rest.database.attachments = some rows →
    ∀ row ∈ rows, row.state = AttachmentState.done.name →
      Backed repository scene.disk history row

section History
variable {history seen : List (Sighting ρ)} {attachment : AttachmentId}

theorem lastStored_append :
    lastStored (history ++ seen) attachment =
      (lastStored seen attachment).or (lastStored history attachment) := by
  simp only [lastStored, List.filterMap_append, List.getLast?_append]

theorem NoInsertion.lastStored_eq (h : NoInsertion seen) : lastStored seen attachment = none := by
  rw [lastStored, List.getLast?_eq_none_iff, List.filterMap_eq_nil_iff]
  intro sighting listed
  have notInsertion := h sighting listed
  unfold ServiceCall.stored?
  split
  next call =>
    rw [call] at notInsertion
    cases notInsertion
  · rfl

theorem lastStored_handed {handed : Sighting ρ} {message : MessageId} {other : AttachmentId}
    {content : Content} (call : handed.call = .insertContent message other content (.ok ())) :
    lastStored [handed] attachment = if other = attachment then some content.bytes else none := by
  simp only [lastStored, List.filterMap_cons, call, ServiceCall.stored?]
  by_cases same : other = attachment <;> simp [same]

theorem lastStored_refused {handed : Sighting ρ} {message : MessageId} {other : AttachmentId}
    {content : Content} {error : ErrorChain}
    (call : handed.call = .insertContent message other content (.error error)) :
    lastStored [handed] attachment = none := by
  simp only [lastStored, List.filterMap_cons, call, ServiceCall.stored?]
  rfl

end History

namespace Sound
variable {repository : Repository} {before after : Scene Backend}
  {history seen : List (Sighting Backend)} {attachment : AttachmentId} {message : MessageId}

theorem backed_of_touches {row : AttachmentRow} {paths : List String} {disk disk' : Disk}
    (backed : Backed repository disk history row) (touches : Disk.TouchesOnly paths disk disk')
    (away : ∀ path ∈ paths,
      disk.target (repository.partFile row.message row.id) ≠ disk.target path) :
    Backed repository disk' history row := by
  obtain ⟨partFile, bytes, stored, last, held, size, length⟩ := backed
  refine ⟨partFile, bytes, stored, last, ?_, size, length⟩
  exact Disk.content?_of_touches touches (Repository.endsWith_partFile ..) away held

theorem of_touches {paths : List String} (sound : Sound repository before history)
    (database : after.rest.database = before.rest.database)
    (touches : Disk.TouchesOnly paths before.disk after.disk)
    (away : ∀ path ∈ paths, ∀ message attachment,
      before.disk.target (repository.partFile message attachment) ≠ before.disk.target path) :
    Sound repository after history := by
  constructor
  · rw [database]
    exact sound.owner
  · rw [database]
    intro rows tables row listed done
    exact backed_of_touches (sound.backed rows tables row listed done) touches
      fun path named => away path named row.message row.id

theorem of_sameStore (sound : Sound repository before history) (same : before.SameStore after) :
    Sound repository after history :=
  sound.of_touches same.database (same.writesOnly []).disk nofun

theorem of_alike (sound : Sound repository before history) (alike : before.Alike after) :
    Sound repository after history :=
  sound.of_sameStore ⟨congrArg Backend.database alike.rest, alike.disk⟩

theorem of_writes_scratch {directory : String} {number : Nat}
    (sound : Sound repository before history)
    (writes : before.WritesOnly [Path.join directory (ScratchFile.name number)] after) :
    Sound repository after history := by
  apply sound.of_touches writes.database writes.disk
  intro path named message attachment
  rw [List.mem_singleton.1 named]
  exact Repository.target_partFile_ne_scratch _ _ _ _ _ _

theorem of_nothingStored (sound : Sound repository before history)
    (nothing : ∀ attachment, lastStored seen attachment = none) :
    Sound repository before (history ++ seen) := by
  refine ⟨sound.owner, fun rows tables row listed done => ?_⟩
  obtain ⟨partFile, bytes, stored, last, rest⟩ := sound.backed rows tables row listed done
  refine ⟨partFile, bytes, stored, ?_, rest⟩
  rw [lastStored_append, nothing, Option.none_or, last]

theorem of_noInsertion (sound : Sound repository before history) (noInsertion : NoInsertion seen) :
    Sound repository before (history ++ seen) :=
  sound.of_nothingStored fun _ => noInsertion.lastStored_eq

def Unfinished (scene : Scene Backend) (attachment : AttachmentId) (message : MessageId) : Prop :=
  ∀ rows, scene.rest.database.attachments = some rows → ∀ row ∈ rows,
    row.id = attachment → row.message = message → row.state ≠ AttachmentState.done.name

section Update
variable {change : AttachmentRow → AttachmentRow} {count : Nat}

theorem owner_of_updated (sound : Sound repository before history)
    (updated : before.rest.database.updateAttachment attachment message change =
      .ok (count, after.rest.database))
    (sameId : ∀ row, (change row).id = row.id)
    (sameMessage : ∀ row, (change row).message = row.message) :
    ∀ rows, after.rest.database.attachments = some rows →
      ∀ row ∈ rows, ∀ other ∈ rows, row.id = other.id → row.message = other.message := by
  intro rows tables row listed other listed' same
  obtain ⟨formerRows, formerTables, revised, -⟩ := Database.rows_of_updated updated tables
  have kept : ∀ row ∈ rows, ∃ former ∈ formerRows,
      row.id = former.id ∧ row.message = former.message := by
    intro row listed
    obtain ⟨former, listedFormer, ⟨-, -, rfl⟩ | ⟨-, rfl⟩⟩ := revised row listed
    · exact ⟨former, listedFormer, sameId former, sameMessage former⟩
    · exact ⟨row, listedFormer, rfl, rfl⟩
  obtain ⟨former, listedFormer, id_eq, message_eq⟩ := kept row listed
  obtain ⟨former', listedFormer', id_eq', message_eq'⟩ := kept other listed'
  rw [message_eq, message_eq']
  rw [id_eq, id_eq'] at same
  exact sound.owner formerRows formerTables former listedFormer former' listedFormer' same

theorem of_updated (sound : Sound repository before history) (disk : after.disk = before.disk)
    (updated : before.rest.database.updateAttachment attachment message change =
      .ok (count, after.rest.database))
    (sameId : ∀ row, (change row).id = row.id)
    (sameMessage : ∀ row, (change row).message = row.message)
    (unfinished : ∀ row, (change row).state ≠ AttachmentState.done.name) :
    Sound repository after history ∧ Unfinished after attachment message := by
  refine ⟨⟨sound.owner_of_updated updated sameId sameMessage, ?_⟩, ?_⟩
  · intro rows tables row listed done
    obtain ⟨formerRows, formerTables, revised, -⟩ := Database.rows_of_updated updated tables
    obtain ⟨former, listedFormer, ⟨-, -, rfl⟩ | ⟨-, rfl⟩⟩ := revised row listed
    · exact absurd done (unfinished former)
    · rw [disk]
      exact sound.backed formerRows formerTables row listedFormer done
  · intro rows tables row listed id_eq message_eq
    obtain ⟨formerRows, -, revised, -⟩ := Database.rows_of_updated updated tables
    obtain ⟨former, -, ⟨-, -, rfl⟩ | ⟨other, rfl⟩⟩ := revised row listed
    · exact unfinished former
    · exact absurd ⟨id_eq, message_eq⟩ other

end Update

section Insert
variable {content : Content}

theorem away_of_other {row : AttachmentRow} {disk : Disk}
    (other : ¬(row.id = attachment ∧ row.message = message)) :
    ∀ path ∈ [repository.unfinishedFile message attachment,
        repository.partFile message attachment],
      disk.target (repository.partFile row.message row.id) ≠ disk.target path := by
  intro path named
  rcases List.mem_pair.1 named with rfl | rfl
  · exact Repository.target_partFile_ne_unfinishedFile _ _ _ _ _ _
  · intro same
    obtain ⟨message_eq, id_eq⟩ := Repository.target_partFile_inj same
    exact other ⟨id_eq, message_eq⟩

/-- An insertion that fails may have cost the attachment its part, but then no row
of it is finished. -/
theorem of_insertion_error {error : ErrorChain} (sound : Sound repository before history)
    (unfinished : Unfinished before attachment message)
    (inserting : (repository.insertContent message attachment content).on before =
      (.error error, after)) : Sound repository after history := by
  obtain ⟨database, touches⟩ := Repository.insertContent_error inserting
  constructor
  · rw [database]
    exact sound.owner
  · rw [database]
    intro rows tables row listed done
    refine backed_of_touches (sound.backed rows tables row listed done) touches (away_of_other ?_)
    rintro ⟨id_eq, message_eq⟩
    exact unfinished rows tables row listed id_eq message_eq done

theorem of_insertion_ok (sound : Sound repository before history)
    (inserting : (repository.insertContent message attachment content).on before =
      (.ok (), after)) {handed : Sighting Backend}
    (call : handed.call = .insertContent message attachment content (.ok ())) :
    Sound repository after (history ++ [handed]) := by
  obtain ⟨-, held, ⟨size, now, count, fits, positive, updated⟩, touches⟩ :=
    Repository.insertContent_ok inserting
  refine ⟨sound.owner_of_updated updated (fun _ => rfl) fun _ => rfl, ?_⟩
  intro rows tables row listed done
  obtain ⟨formerRows, formerTables, revised, noted⟩ := Database.rows_of_updated updated tables
  obtain ⟨former, listedFormer, ⟨rfl, rfl, rfl⟩ | ⟨other, rfl⟩⟩ := revised row listed
  · refine ⟨rfl, content.bytes, size, ?_, held, rfl, toInt_of_int64? fits⟩
    rw [lastStored_append, lastStored_handed call]
    exact congrArg (Option.or · _) (if_pos rfl)
  -- A row of another message cannot be of this attachment: the attachment has one message.
  · obtain ⟨own, listedOwn, ownId, ownMessage⟩ := noted positive
    have elsewhere : row.id ≠ attachment := by
      intro id_eq
      refine other ⟨id_eq, ?_⟩
      rw [← ownMessage]
      exact sound.owner formerRows formerTables row listedFormer own listedOwn
        (id_eq.trans ownId.symm)
    obtain ⟨partFile, bytes, stored, last, rest⟩ := backed_of_touches
      (sound.backed formerRows formerTables row listedFormer done) touches (away_of_other other)
    refine ⟨partFile, bytes, stored, ?_, rest⟩
    rw [lastStored_append, lastStored_handed call, if_neg (Ne.symm elsewhere), Option.none_or, last]

end Insert

section Run
variable {settings : DownloadSettings} {task : DownloadTask}

theorem of_begun (sound : Sound repository before history)
    (begun : DownloadJob.Begun task before after) :
    Sound repository after history ∧ Unfinished after task.attachment task.message := by
  obtain ⟨⟨now, count, updated⟩, disk⟩ := begun
  have started : AttachmentState.started.name ≠ AttachmentState.done.name := by decide
  exact sound.of_updated disk updated (fun _ => rfl) (fun _ => rfl) fun _ => started

theorem of_effect {result : Except AttemptError Unit} (sound : Sound repository before history)
    (effect : DownloadJob.Effect repository settings task before seen result after) :
    Sound repository after (history ++ seen) := by
  cases effect with
  | unmarked noInsertion same => exact (sound.of_sameStore same).of_noInsertion noInsertion
  | undelivered noInsertion begun writes =>
    exact ((sound.of_begun begun).1.of_writes_scratch writes).of_noInsertion noInsertion
  | @inserted earlier content result marked number ready last _ noInsertion begun writes
      inserting clears =>
    obtain ⟨sound, unfinished⟩ := sound.of_begun begun
    have sound := (sound.of_writes_scratch writes).of_noInsertion noInsertion
    rw [← List.append_assoc]
    cases result with
    -- The insertion may have cost the attachment its part, but its row says "Started" by now.
    | error error =>
      have unfinished : Unfinished ready task.attachment task.message := by
        rw [Unfinished, writes.database]
        exact unfinished
      have sound := (sound.of_insertion_error unfinished inserting).of_writes_scratch clears
      exact sound.of_nothingStored fun _ => lastStored_refused rfl
    | ok => exact (sound.of_insertion_ok inserting rfl).of_writes_scratch clears

theorem of_ran {ending : JobEnding} (sound : Sound repository before history)
    (ran : DownloadJob.Ran repository.services settings task before seen ending after) :
    Sound repository after (history ++ seen) := by
  induction ran generalizing history with
  | succeeded attempted noted => exact (sound.of_effect attempted.effect).of_alike noted
  | @givenUp start seen error ended middle result last ending after attempted noted marked logged =>
    have sound := (sound.of_effect attempted.effect).of_alike noted
    have sound : Sound repository last (history ++ seen) := by
      cases result with
      | error error => exact sound.of_sameStore (Repository.setState_error marked)
      | ok =>
        obtain ⟨count, updated, disk⟩ := Repository.setState_ok marked
        have failed : AttachmentState.failed.name ≠ AttachmentState.done.name := by decide
        exact (sound.of_updated disk updated (fun _ => rfl) (fun _ => rfl) fun _ => failed).1
    rw [← List.append_assoc]
    exact (sound.of_alike logged).of_noInsertion (.cons rfl .nil)
  | again attempted noted _ ih =>
    rw [← List.append_assoc]
    exact ih ((sound.of_effect attempted.effect).of_alike noted)

end Run

theorem of_registers (sound : Sound repository before history)
    (registers : Registers before after) : Sound repository after history := by
  obtain ⟨disk, same | ⟨former, new, tables, fresh, pending, added⟩⟩ := registers
  · constructor
    · rw [same]
      exact sound.owner
    · rw [same, disk]
      exact sound.backed
  · constructor
    · intro rows tables' row listed other listed' same
      obtain rfl : former ++ [new] = rows := Option.some.inj (added.symm.trans tables')
      rcases List.mem_append.1 listed with listed | listed <;>
        rcases List.mem_append.1 listed' with listed' | listed'
      · exact sound.owner former tables row listed other listed' same
      · rw [List.mem_singleton.1 listed'] at same
        exact absurd same (fresh row listed)
      · rw [List.mem_singleton.1 listed] at same
        exact absurd same.symm (fresh other listed')
      · rw [List.mem_singleton.1 listed, List.mem_singleton.1 listed']
    · intro rows tables' row listed done
      obtain rfl : former ++ [new] = rows := Option.some.inj (added.symm.trans tables')
      rcases List.mem_append.1 listed with listed | listed
      · rw [disk]
        exact sound.backed former tables row listed done
      · rw [List.mem_singleton.1 listed, pending] at done
        exact absurd done (by decide)

end Sound

theorem Reachable.sound {repository : Repository} {scene : Scene Backend}
    {history : List (Sighting Backend)} (reached : Reachable repository scene history) :
    Sound repository scene history := by
  induction reached with
  | start empty => constructor <;> rw [empty] <;> rintro rows ⟨⟩ <;> nofun
  | elsewhere _ database nodes workingDirectory ih =>
    exact ih.of_touches database (.of_nodes [] nodes workingDirectory) nofun
  | register pointer _ ih => exact ih.of_registers (Client.register_registers pointer _)
  | fetch settings backoff task _ ih =>
    exact ih.of_ran (DownloadJob.ran_sightings repository.services settings task backoff _)

/-- However registrations and downloads follow one another, whatever the server does
and whichever calls fail: the part of a row that says it is finished is where it says,
has the size it says, and holds the content that was stored last. -/
theorem finished_backed {repository : Repository} {scene : Scene Backend}
    {history : List (Sighting Backend)} (reached : Reachable repository scene history)
    {rows : List AttachmentRow} (tables : scene.rest.database.attachments = some rows)
    {row : AttachmentRow} (listed : row ∈ rows) (finished : row.state = AttachmentState.done.name) :
    Backed repository scene.disk history row :=
  reached.sound.backed rows tables row listed finished

def Scene.unregistered : Scene Backend where
  disk := { nodes := [(["p"], .directory)] }
  rest := {
    database := { migrated := true, messages := some [], attachments := some [] }
    network := .up [.response { status := 200, chunks := [[1, 2], [3]] }] [] }

def Scene.registered : Scene Backend :=
  ((Client.register ⟨⟨5⟩, ⟨10⟩, "http://h/5", 0, none, none, none⟩).on Scene.unregistered).2

/-- The row of the attachment once it has been fetched. -/
theorem finished_backed_fetched :
    let client : Client := ⟨⟨"/p"⟩, { cacheDirectory := "/c" }, Duration.ofSeconds 1⟩
    ∃ history rows, ∃ row ∈ rows, row.state = AttachmentState.done.name ∧
      (client.fetch ⟨⟨5⟩, ⟨10⟩⟩ Scene.registered).2.rest.database.attachments = some rows ∧
      Backed ⟨"/p"⟩ (client.fetch ⟨⟨5⟩, ⟨10⟩⟩ Scene.registered).2.disk history row := by
  intro client
  have reached := (@Reachable.start ⟨"/p"⟩ Scene.unregistered rfl
    |>.register ⟨⟨5⟩, ⟨10⟩, "http://h/5", 0, none, none, none⟩).fetch
    client.settings client.backoff ⟨⟨5⟩, ⟨10⟩⟩
  have finished : ((client.fetch ⟨⟨5⟩, ⟨10⟩⟩ Scene.registered).2.rest.database.attachments.any
      fun rows => rows.any (·.state = AttachmentState.done.name)) = true := by decide +kernel
  obtain ⟨rows, tables, finished⟩ := (Option.any_eq_true _ _).1 finished
  obtain ⟨row, listed, done⟩ := List.any_eq_true.1 finished
  have done := of_decide_eq_true done
  exact ⟨_, rows, row, listed, done, tables, finished_backed reached tables listed done⟩

end AttachmentFetch
