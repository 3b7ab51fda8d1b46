import AttachmentFetch.Proofs.Job.Chain
import AttachmentFetch.Proofs.Store.Apart
import AttachmentFetch.Proofs.Together

/-! Stores that agree about one attachment. Whatever else they hold, what is done there for
the attachment comes to the same, as long as nothing fails. -/
namespace AttachmentFetch

def AttachmentRow.timeless (row : AttachmentRow) : AttachmentRow := { row with updatedAt := 0 }

namespace Database

def has (db : Database) (task : DownloadTask) : Bool :=
  (db.attachments.getD []).any fun row => row.id = task.attachment && row.message = task.message

def timelessRowsOf (db : Database) (id : AttachmentId) : Option (List AttachmentRow) :=
  (db.rowsOf id).map (·.map AttachmentRow.timeless)

section Rows
variable {db after : Database} {id : AttachmentId} {message : MessageId}
  {change settled : AttachmentRow → AttachmentRow} {count : Nat} {task : DownloadTask}

theorem timelessRowsOf_of_some {rows : List AttachmentRow} (tables : db.attachments = some rows)
    (id : AttachmentId) :
    db.timelessRowsOf id = some ((rows.filter (·.id = id)).map AttachmentRow.timeless) := by
  rw [timelessRowsOf, rowsOf, tables]
  rfl

theorem has_eq (db : Database) (task : DownloadTask) :
    db.has task = ((db.timelessRowsOf task.attachment).getD []).any (·.message = task.message) := by
  unfold has
  cases tables : db.attachments with
  | none => rw [timelessRowsOf, rowsOf, tables]; rfl
  | some rows =>
    rw [timelessRowsOf_of_some tables]
    simp only [Option.getD_some, List.any_map, List.any_filter]
    rfl

theorem has_of_headings (same : after.headings = db.headings) (task : DownloadTask) :
    after.has task = db.has task := by
  have told (db : Database) : db.has task = (db.headings.getD []).any fun heading =>
      heading.1 = task.attachment && heading.2.1 = task.message := by
    unfold has headings
    cases db.attachments with
    | none => rfl
    | some rows =>
      simp only [Option.getD_some, Option.map_some, List.any_map]
      rfl
  rw [told, told, same]

/-- What an update makes of the rows of an attachment, if it makes the same of each whenever
it was that the row has changed. -/
theorem timelessRowsOf_updated
    (updated : db.updateAttachment id message change = .ok (count, after))
    (sameId : ∀ row, (change row).id = row.id)
    (settles : ∀ row, (change row).timeless = settled row.timeless) :
    after.timelessRowsOf id =
      (db.timelessRowsOf id).map (·.map (revise id message settled)) := by
  rw [timelessRowsOf, timelessRowsOf, rowsOf_updated updated sameId, Option.map_map,
    Option.map_map]
  congr 1
  funext rows
  simp only [Function.comp, List.map_map]
  congr 1
  funext row
  simp only [Function.comp, revise, apply_ite AttachmentRow.timeless, settles]
  rfl

end Rows
end Database

/-- Contents that are the same, if both can be read to their ends. -/
def Content.Matches (content content' : Content) : Prop :=
  content.failure = none → content'.failure = none → content.bytes = content'.bytes

def Scene.facing (network : Http.Network) (scene : Scene Backend) : Scene Backend :=
  { scene with rest := { scene.rest with network } }

def Backend.Calm (backend : Backend) : Prop :=
  ∀ fault ∈ backend.databaseFaults, fault = none

def Scene.asked (scene : Scene Backend) : Scene Backend :=
  { scene with rest := { scene.rest with databaseFaults := scene.rest.databaseFaults.tail } }

theorem Backend.Calm.asked {scene : Scene Backend} (calm : scene.rest.Calm) :
    scene.asked.rest.Calm :=
  fun fault listed => calm fault (List.mem_of_mem_tail listed)

structure Scene.SameNetwork (before after : Scene Backend) : Prop where
  network : after.rest.network = before.rest.network
  calm : before.rest.Calm → after.rest.Calm

namespace Scene.SameNetwork

instance : Std.Refl SameNetwork where
  refl _ := ⟨rfl, id⟩

instance : Trans SameNetwork SameNetwork SameNetwork where
  trans h h' := ⟨h'.network.trans h.network, h'.calm ∘ h.calm⟩

theorem of_rest {before after : Scene Backend} (same : after.rest = before.rest) :
    SameNetwork before after :=
  ⟨congrArg Backend.network same, fun calm => same ▸ calm⟩

theorem onDisk (call : Disk.Call α) : Step.Keeps SameNetwork (Scene.onDisk call) :=
  fun _ => of_rest rfl

theorem query (call : Database → Except ErrorChain (α × Database)) :
    Step.Keeps SameNetwork (Backend.query call) := by
  rintro ⟨disk, clock, log, database, faults, network⟩
  rw [Backend.query, Step.on_onRest]
  unfold Step.on
  dsimp only
  rcases faults with _ | ⟨_ | fault, faults⟩
  · cases call database <;> exact ⟨rfl, id⟩
  · cases call database <;> exact ⟨rfl, Backend.Calm.asked⟩
  · exact ⟨rfl, Backend.Calm.asked⟩

end Scene.SameNetwork

theorem Backend.query_on {scene : Scene Backend} (calm : scene.rest.Calm)
    (call : Database → Except ErrorChain (α × Database)) :
    (query call).on scene =
      match call scene.rest.database with
      | .ok (value, db) => (.ok value, scene.asked.withTables db)
      | .error error => (.error error, scene.asked) := by
  obtain ⟨disk, clock, log, database, faults, network⟩ := scene
  rw [query, Step.on_onRest]
  unfold Step.on
  dsimp only
  rcases faults with _ | ⟨_ | fault, faults⟩
  · cases call database <;> rfl
  · cases call database <;> rfl
  · cases calm _ List.mem_cons_self

namespace Repository

theorem clearAway_network (path : String) :
    Step.Keeps Scene.SameNetwork (clearAway path : Step (Scene Backend) ε Unit) := by
  intro scene
  obtain ⟨after, cleared, -, rest⟩ := clearAway_on (ε := ε) path scene
  rw [cleared]
  exact .of_rest rest

theorem writePart_network (unfinished part : String) (content : Content) :
    Step.Keeps Scene.SameNetwork (writePart unfinished part content id) := by
  refine .bind (.onDisk _) fun file => .bind (fun _ => Std.Refl.refl _) fun _ =>
    .bind (.onDisk _) fun _ => ?_
  cases content.failure with
  | some failure => exact fun _ => Std.Refl.refl _
  | none => exact .bind (.onDisk _) fun _ => .bind (.onDisk _) fun _ => .pure _

variable (repository : Repository) (message : MessageId) (attachment : AttachmentId)

theorem deliver_network (content : Content) :
    Step.Keeps Scene.SameNetwork (repository.deliver message attachment content id) := by
  refine .bind (.query _) fun owned => ?_
  dsimp only
  split
  · exact fun _ => Std.Refl.refl _
  refine .bind (.mapError _ (.onDisk _)) fun _ => .bind (.outcome (writePart_network _ _ _)) ?_
  rintro (error | written)
  · exact .bind (clearAway_network _) fun _ _ => Std.Refl.refl _
  · exact .pure _

theorem publish_network (written : Nat) :
    Step.Keeps Scene.SameNetwork (repository.publish message attachment written) := by
  have publishing : Step.Keeps Scene.SameNetwork
      (publishDone attachment message (repository.partFile message attachment) written) := by
    intro scene
    rw [publishDone, Step.bind_of_ok (Step.on_get scene)]
    dsimp only
    split
    · exact Std.Refl.refl _
    · exact Scene.SameNetwork.query _ scene
  refine .bind (.outcome publishing) ?_
  rintro (error | _ | count)
  · exact .bind (clearAway_network _) fun _ _ => Std.Refl.refl _
  · exact .bind (clearAway_network _) fun _ _ => Std.Refl.refl _
  · exact .pure _

theorem insertContent_network (content : Content) :
    Step.Keeps Scene.SameNetwork (repository.insertContent message attachment content) :=
  .bind (deliver_network repository message attachment content) fun written =>
    publish_network repository message attachment written

/-- What belongs to an attachment is the same in both scenes, up to the times at which its
rows have changed. -/
structure AlikeAt (repository : Repository) (id : AttachmentId)
    (one other : Scene Backend) : Prop where
  rows : other.rest.database.timelessRowsOf id = one.rest.database.timelessRowsOf id
  part : ∀ message,
    repository.part? other.disk message id = repository.part? one.disk message id
  unfinished : ∀ message,
    repository.unfinished? other.disk message id = repository.unfinished? one.disk message id

/-- Two stores agree about the attachment of a task, which they have or do not have. The
network is the same, and nothing befalls a query. -/
structure Agree (repository : Repository) (task : DownloadTask) (owned : Bool)
    (one other : Scene Backend) : Prop extends
    repository.AlikeAt task.attachment one other where
  network : other.rest.network = one.rest.network
  calm : one.rest.Calm
  calm' : other.rest.Calm
  owned : one.rest.database.has task = owned

theorem Unaffected.alikeAt {repository : Repository} {id : AttachmentId}
    {before after : Scene Backend} (same : repository.Unaffected id before after) :
    repository.AlikeAt id before after :=
  ⟨congrArg (·.map (·.map AttachmentRow.timeless)) same.rows, same.part, same.unfinished⟩

namespace AlikeAt
variable {repository : Repository} {id : AttachmentId} {first second third : Scene Backend}

theorem symm (h : repository.AlikeAt id first second) : repository.AlikeAt id second first :=
  ⟨h.rows.symm, fun message => (h.part message).symm, fun message => (h.unfinished message).symm⟩

theorem trans (h : repository.AlikeAt id first second)
    (h' : repository.AlikeAt id second third) : repository.AlikeAt id first third :=
  ⟨h'.rows.trans h.rows, fun message => (h'.part message).trans (h.part message),
    fun message => (h'.unfinished message).trans (h.unfinished message)⟩

end AlikeAt

namespace Agree
variable {repository : Repository} {task : DownloadTask} {owned : Bool}
  {one other one' other' : Scene Backend}

theorem of_unaffected {before after : Scene Backend} (calm : before.rest.Calm)
    (calm' : after.rest.Calm)
    (same : repository.Unaffected task.attachment before after) (network : Http.Network) :
    repository.Agree task (before.rest.database.has task) (before.facing network)
      (after.facing network) where
  network := rfl
  calm := calm
  calm' := calm'
  owned := rfl
  toAlikeAt := ⟨same.alikeAt.rows, same.part, same.unfinished⟩

theorem asked (agree : repository.Agree task owned one other) :
    repository.Agree task owned one.asked other.asked :=
  ⟨⟨agree.rows, agree.part, agree.unfinished⟩, agree.network, agree.calm.asked,
    agree.calm'.asked, agree.owned⟩

theorem facing (agree : repository.Agree task owned one other) (network : Http.Network) :
    repository.Agree task owned (one.facing network) (other.facing network) :=
  ⟨⟨agree.rows, agree.part, agree.unfinished⟩, rfl, agree.calm, agree.calm', agree.owned⟩

theorem owned' (agree : repository.Agree task owned one other) :
    other.rest.database.has task = owned := by
  rw [← agree.owned, Database.has_eq, Database.has_eq, agree.rows]

/-- Steps to the side on either side, which change nothing that the stores agree about. -/
theorem aside (agree : repository.Agree task owned one other) (rest : one'.rest = one.rest)
    (same : repository.Unaffected task.attachment one one') (rest' : other'.rest = other.rest)
    (same' : repository.Unaffected task.attachment other other') :
    repository.Agree task owned one' other' where
  network := by rw [rest, rest', agree.network]
  calm := rest ▸ agree.calm
  calm' := rest' ▸ agree.calm'
  owned := by rw [rest, agree.owned]
  rows := by rw [rest, rest', agree.rows]
  part message := by rw [same.part, same'.part, agree.part]
  unfinished message := by rw [same.unfinished, same'.unfinished, agree.unfinished]

theorem alike (agree : repository.Agree task owned one other) (noted : one.Alike one')
    (noted' : other.Alike other') : repository.Agree task owned one' other' := by
  have same {before after : Scene Backend} (noted : before.Alike after) :
      repository.Unaffected task.attachment before after := by
    refine ⟨?_, fun _ => ?_, fun _ => ?_⟩
    · rw [noted.rest]
    · rw [noted.disk]
    · rw [noted.disk]
  exact agree.aside noted.rest (same noted) noted'.rest (same noted')

theorem scratch (agree : repository.Agree task owned one other) {directory path path' : String}
    (inside : ScratchFile.InDirectory directory path)
    (inside' : ScratchFile.InDirectory directory path')
    (writes : one.WritesFiles [path] one') (writes' : other.WritesFiles [path'] other') :
    repository.Agree task owned one' other' := by
  obtain ⟨number, rfl⟩ := inside
  obtain ⟨number', rfl⟩ := inside'
  exact agree.aside writes.rest (.of_scratch writes.writesOnly) writes'.rest
    (.of_scratch writes'.writesOnly)

theorem updated (agree : repository.Agree task owned one other) {message : MessageId}
    {change change' : AttachmentRow → AttachmentRow} {count count' : Nat} {db db' : Database}
    (made : one.rest.database.updateAttachment task.attachment message change = .ok (count, db))
    (made' : other.rest.database.updateAttachment task.attachment message change' =
      .ok (count', db'))
    (settled : AttachmentRow → AttachmentRow) (keeps : ∀ row, (settled row).heading = row.heading)
    (settles : ∀ row, (change row).timeless = settled row.timeless)
    (settles' : ∀ row, (change' row).timeless = settled row.timeless) :
    db.has task = owned ∧
      db'.timelessRowsOf task.attachment = db.timelessRowsOf task.attachment := by
  have heading {change : AttachmentRow → AttachmentRow}
      (settles : ∀ row, (change row).timeless = settled row.timeless) (row : AttachmentRow) :
      (change row).heading = row.heading :=
    (congrArg AttachmentRow.heading (settles row)).trans (keeps row.timeless)
  have sameId := fun row => congrArg Prod.fst (heading settles row)
  have sameId' := fun row => congrArg Prod.fst (heading settles' row)
  constructor
  · rw [Database.has_of_headings (Database.headings_updated made (heading settles)), agree.owned]
  · rw [Database.timelessRowsOf_updated made' sameId' settles', agree.rows,
      Database.timelessRowsOf_updated made sameId settles]

end Agree

section Calls
variable {repository : Repository} {task : DownloadTask} {owned : Bool}
  {one other : Scene Backend} {excused : ErrorChain → Prop}

theorem Agree.tables (agree : repository.Agree task owned one other) :
    (one.rest.database.attachments = none ∧ other.rest.database.attachments = none) ∨
      ∃ rows rows', one.rest.database.attachments = some rows ∧
        other.rest.database.attachments = some rows' := by
  have same := agree.rows
  cases tables : one.rest.database.attachments with
  | none =>
    cases tables' : other.rest.database.attachments with
    | none => exact .inl ⟨rfl, rfl⟩
    | some rows' =>
      rw [Database.timelessRowsOf_of_some tables'] at same
      rw [Database.timelessRowsOf, Database.rowsOf, tables] at same
      cases same
  | some rows =>
    cases tables' : other.rest.database.attachments with
    | none =>
      rw [Database.timelessRowsOf_of_some tables] at same
      rw [Database.timelessRowsOf, Database.rowsOf, tables'] at same
      cases same
    | some rows' => exact .inr ⟨rows, rows', rfl, rfl⟩

def pointerOf : Option AttachmentRow → Except ErrorChain (Option Pointer)
  | none => .ok none
  | some row => row.toPointer.map some

theorem findRow_on {scene : Scene Backend} (calm : scene.rest.Calm)
    (attachment : AttachmentId) : (findRow attachment).on scene =
      ((scene.rest.database.findAttachment attachment).mapError DatabaseError.chain,
        scene.asked) := by
  rw [findRow, Backend.query_on calm]
  cases scene.rest.database.findAttachment attachment <;> rfl

theorem findPointer_on {scene : Scene Backend} (calm : scene.rest.Calm)
    (attachment : AttachmentId) : (findPointer attachment).on scene =
      (((scene.rest.database.timelessRowsOf attachment).elim
          (.error (DatabaseError.noSuchTable "attachment").chain)
          (fun rows => pointerOf rows.head?)).mapError
        (·.context s!"failed to load attachment {attachment}"), scene.asked) := by
  have asked := findRow_on calm attachment
  rw [Database.findAttachment, Database.attachmentRows] at asked
  rw [findPointer, Step.on_mapError]
  cases tables : scene.rest.database.attachments with
  | none =>
    rw [tables] at asked
    rw [Step.bind_of_error asked, Database.timelessRowsOf, Database.rowsOf, tables]
    rfl
  | some rows =>
    rw [tables] at asked
    rw [Step.bind_of_ok asked, Database.timelessRowsOf_of_some tables, Option.elim_some,
      List.head?_map, List.head?_filter]
    cases rows.find? (·.id = attachment) with
    | none => rfl
    | some row =>
      have same : row.timeless.toPointer = row.toPointer := rfl
      dsimp only [Option.map_some, pointerOf]
      rw [same, Step.on_bind, Step.on_reads]
      cases row.toPointer <;> rfl

theorem setState_on {scene : Scene Backend} (calm : scene.rest.Calm)
    (state : AttachmentState) (attachment : AttachmentId) (message : MessageId) :
    (setState state attachment message).on scene =
      match scene.rest.database.updateAttachment attachment message
        ({ · with state := state.name, updatedAt := Backend.now scene }) with
      | .ok (_, db) => (.ok (), scene.asked.withTables db)
      | .error error => (.error (error.chain.context
          s!"failed to set attachment {attachment} to {state.name}"), scene.asked) := by
  rw [setState, Step.bind_of_ok (Step.on_get scene), Step.on_bind, Step.on_mapError,
    Backend.query_on calm]
  cases scene.rest.database.updateAttachment attachment message
    ({ · with state := state.name, updatedAt := Backend.now scene }) <;> rfl

theorem setState_agree (agree : repository.Agree task owned one other) (state : AttachmentState) :
    Step.Together excused (repository.Agree task owned)
      (fun _ _ => repository.Agree task owned)
      (setState state task.attachment task.message)
      (setState state task.attachment task.message) one other := by
  have marked := setState_on agree.calm state task.attachment task.message
  have marked' := setState_on agree.calm' state task.attachment task.message
  rcases agree.tables with ⟨tables, tables'⟩ | ⟨rows, rows', tables, tables'⟩
  · rw [Database.updateAttachment, Database.attachmentRows, tables] at marked
    rw [Database.updateAttachment, Database.attachmentRows, tables'] at marked'
    exact .failed marked marked' agree.asked
  · rw [Database.updateAttachment_of_rows tables] at marked
    rw [Database.updateAttachment_of_rows tables'] at marked'
    obtain ⟨_, made, -⟩ := setState_ok marked
    obtain ⟨_, made', -⟩ := setState_ok marked'
    obtain ⟨owned, rows⟩ := agree.updated made made' ({ · with state := state.name })
      (fun _ => rfl) (fun _ => rfl) fun _ => rfl
    exact .ended marked marked'
      ⟨⟨rows, agree.part, agree.unfinished⟩, agree.network, agree.calm.asked,
        agree.calm'.asked, owned⟩

theorem owns_on {scene : Scene Backend} (calm : scene.rest.Calm)
    (task : DownloadTask) : (owns task.message task.attachment).on scene =
      (scene.rest.database.attachments.elim (.error (DatabaseError.noSuchTable "attachment").chain)
        (fun _ => .ok (scene.rest.database.has task)), scene.asked) := by
  rw [owns, Backend.query_on calm, Database.attachmentRows, Database.has]
  cases scene.rest.database.attachments <;> rfl

theorem insertContent_agree (agree : repository.Agree task owned one other)
    {content content' : Content} (same : content.Matches content') :
    Step.Together (fun _ => owned = true) (repository.Agree task owned)
      (fun _ _ => repository.Agree task owned)
      (repository.insertContent task.message task.attachment content)
      (repository.insertContent task.message task.attachment content') one other := by
  cases owned with
  | false =>
    have asked := owns_on agree.calm task
    have asked' := owns_on agree.calm' task
    rw [agree.owned] at asked
    rw [agree.owned'] at asked'
    rcases agree.tables with ⟨tables, tables'⟩ | ⟨rows, rows', tables, tables'⟩
    · rw [tables] at asked
      rw [tables'] at asked'
      exact .failed (Step.bind_of_error (Step.bind_of_error asked))
        (Step.bind_of_error (Step.bind_of_error asked')) agree.asked
    · rw [tables] at asked
      rw [tables'] at asked'
      exact .failed (Step.bind_of_error (Step.bind_of_ok asked))
        (Step.bind_of_error (Step.bind_of_ok asked')) agree.asked
  | true =>
    refine .of_ok (fun _ => rfl) fun _ _ after after' inserted inserted' => ?_
    obtain ⟨whole, held, ⟨stored, now, count, fits, -, made⟩, touches⟩ := insertContent_ok inserted
    obtain ⟨whole', held', ⟨stored', now', count', fits', -, made'⟩, touches'⟩ :=
      insertContent_ok inserted'
    have bytes := same whole whole'
    obtain rfl : stored = stored' := by
      rw [bytes, fits'] at fits
      exact (Option.some.inj fits).symm
    have passes := (insertContent_network repository _ _ _).related inserted
    have passes' := (insertContent_network repository _ _ _).related inserted'
    obtain ⟨owned, rows⟩ := agree.updated made made'
      (fun row => (doneRow (repository.partFile task.message task.attachment) stored 0 row))
      (fun _ => rfl) (fun _ => rfl) fun _ => rfl
    refine ⟨⟨rows, ?part, ?unfinished⟩, ?network, passes.calm agree.calm,
      passes'.calm agree.calm', owned⟩
    case network => rw [passes.network, passes'.network, agree.network]
    case part =>
      intro message
      by_cases own : message = task.message
      · rw [own, part?, part?, (Disk.content?_eq_some.1 held).2, (Disk.content?_eq_some.1 held').2,
          bytes]
      · rw [part?_of_touches_other touches fun here => own here.1,
          part?_of_touches_other touches' fun here => own here.1, agree.part]
    case unfinished =>
      intro message
      by_cases own : message = task.message
      · rw [own, unfinished?, unfinished?, insertContent_clears inserted,
          insertContent_clears inserted']
      · rw [unfinished?_of_touches_other touches fun here => own here.1,
          unfinished?_of_touches_other touches' fun here => own here.1, agree.unfinished]

end Calls

end Repository

end AttachmentFetch
