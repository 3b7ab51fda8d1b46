import AttachmentFetch.Proofs.Backend
import AttachmentFetch.Store.Repository

/-! What the calls on the database make of its rows. A call that fails leaves
them as they are; no call on a row gives it to another message. -/
namespace AttachmentFetch

namespace Database

/-- A row once the rows of an attachment and message have been changed. -/
def revise (id : AttachmentId) (message : MessageId) (change : AttachmentRow → AttachmentRow)
    (row : AttachmentRow) : AttachmentRow :=
  if row.id = id ∧ row.message = message then change row else row

section Update
variable {db after : Database} {id attachment : AttachmentId} {message owner : MessageId}
  {change : AttachmentRow → AttachmentRow} {count : Nat} {rows : List AttachmentRow}

theorem mem_revised {row : AttachmentRow} (h : row ∈ rows.map (revise id message change)) :
    ∃ former ∈ rows, (former.id = id ∧ former.message = message ∧ row = change former) ∨
      (¬(former.id = id ∧ former.message = message) ∧ row = former) := by
  obtain ⟨former, listed, rfl⟩ := List.mem_map.1 h
  refine ⟨former, listed, ?_⟩
  unfold revise
  split
  next own => exact .inl ⟨own.1, own.2, rfl⟩
  next other => exact .inr ⟨other, rfl⟩

theorem updateAttachment_of_rows (tables : db.attachments = some rows) :
    db.updateAttachment id message change =
      .ok (rows.countP fun row => row.id = id ∧ row.message = message,
        { db with attachments := some (rows.map (revise id message change)) }) := by
  unfold updateAttachment attachmentRows
  simp only [tables, bind, Except.bind, pure, Except.pure, Bool.decide_and, Bool.and_eq_true,
    decide_eq_true_eq]
  rfl

theorem updateAttachment_ok (h : db.updateAttachment id message change = .ok (count, after)) :
    ∃ rows, db.attachments = some rows ∧
      after = { db with attachments := some (rows.map (revise id message change)) } ∧
      (count ≠ 0 → ∃ row ∈ rows, row.id = id ∧ row.message = message) := by
  cases tables : db.attachments with
  | none =>
    rw [updateAttachment, attachmentRows, tables] at h
    cases h
  | some rows =>
    rw [updateAttachment_of_rows tables] at h
    cases h
    refine ⟨rows, rfl, rfl, fun positive => ?_⟩
    simpa using List.countP_pos_iff.1 (Nat.pos_of_ne_zero positive)

theorem rows_of_updated (h : db.updateAttachment id message change = .ok (count, after))
    (tables : after.attachments = some rows) :
    ∃ formerRows, db.attachments = some formerRows ∧
      (∀ row ∈ rows, ∃ former ∈ formerRows,
        (former.id = id ∧ former.message = message ∧ row = change former) ∨
          (¬(former.id = id ∧ former.message = message) ∧ row = former)) ∧
      (count ≠ 0 → ∃ former ∈ formerRows, former.id = id ∧ former.message = message) := by
  obtain ⟨formerRows, formerTables, rfl, noted⟩ := updateAttachment_ok h
  injection tables with revised
  subst revised
  exact ⟨formerRows, formerTables, fun row listed => mem_revised listed, noted⟩

theorem updateAttachment_none
    (h : db.updateAttachment id message change = .ok (0, after)) : after = db := by
  obtain ⟨rows, tables, rfl, -⟩ := updateAttachment_ok h
  rw [updateAttachment_of_rows tables] at h
  injection h with h
  injection h with none
  have same : rows.map (revise id message change) = rows := by
    refine (List.map_congr_left fun row listed => if_neg ?_).trans rows.map_id
    simpa using List.countP_eq_zero.1 none row listed
  rw [same, ← tables]

section Overwrite
variable {change' : AttachmentRow → AttachmentRow}
  (sameId : ∀ row, (change row).id = row.id)
  (sameMessage : ∀ row, (change row).message = row.message)
include sameId sameMessage

end Overwrite

/-- Whether a message is the one that the first row of an attachment names. -/
def Owner (db : Database) (attachment : AttachmentId) (message : MessageId) : Prop :=
  ∃ row, db.findAttachment attachment = .ok (some row) ∧ row.message = message

theorem find_revised (sameId : ∀ row, (change row).id = row.id)
    (attachment : AttachmentId) :
    (rows.map (revise id message change)).find? (·.id = attachment) =
      (rows.find? (·.id = attachment)).map (revise id message change) := by
  rw [List.find?_map]
  congr 2
  funext row
  simp only [Function.comp, revise]
  split
  · rw [sameId]
  · rfl

theorem findAttachment_eq {row : AttachmentRow} :
    db.findAttachment attachment = .ok (some row) ↔
      ∃ rows, db.attachments = some rows ∧ rows.find? (·.id = attachment) = some row := by
  unfold findAttachment attachmentRows
  cases db.attachments with
  | none => simp [bind, Except.bind]
  | some rows => simp [bind, Except.bind, pure, Except.pure]

theorem findAttachment_updated {row : AttachmentRow}
    (updated : db.updateAttachment id message change = .ok (count, after))
    (sameId : ∀ row, (change row).id = row.id)
    (found : db.findAttachment attachment = .ok (some row)) :
    after.findAttachment attachment = .ok (some (revise id message change row)) := by
  obtain ⟨rows, tables, found⟩ := findAttachment_eq.1 found
  obtain ⟨rows', tables', rfl, -⟩ := updateAttachment_ok updated
  obtain rfl : rows = rows' := Option.some.inj (tables.symm.trans tables')
  apply findAttachment_eq.2
  refine ⟨_, rfl, ?_⟩
  rw [find_revised sameId, found, Option.map_some]

theorem findAttachment_id {row : AttachmentRow}
    (found : db.findAttachment attachment = .ok (some row)) : row.id = attachment := by
  obtain ⟨rows, -, found⟩ := findAttachment_eq.1 found
  simpa using List.find?_some found

theorem Owner.revised (owned : db.Owner attachment owner)
    (updated : db.updateAttachment id message change = .ok (count, after))
    (sameId : ∀ row, (change row).id = row.id)
    (sameMessage : ∀ row, (change row).message = row.message) : after.Owner attachment owner := by
  obtain ⟨row, found, rfl⟩ := owned
  refine ⟨_, findAttachment_updated updated sameId found, ?_⟩
  unfold revise
  split
  · exact sameMessage row
  · rfl

theorem Owner.find_updated (owned : db.Owner attachment message)
    (updated : db.updateAttachment attachment message change = .ok (count, after))
    (sameId : ∀ row, (change row).id = row.id) :
    ∃ row, after.findAttachment attachment = .ok (some (change row)) := by
  obtain ⟨row, found, rfl⟩ := owned
  have revised := findAttachment_updated updated sameId found
  rw [revise, if_pos ⟨findAttachment_id found, rfl⟩] at revised
  exact ⟨row, revised⟩

end Update

end Database

namespace Repository
variable {scene after : Scene Backend}

theorem findRow_ok {attachment : AttachmentId} {row : Option AttachmentRow}
    (h : (findRow attachment).on scene = (.ok row, after)) :
    scene.rest.database.findAttachment attachment = .ok row ∧ scene.SameStore after := by
  obtain ⟨database, called, same, disk⟩ := Backend.query_ok h
  cases found : scene.rest.database.findAttachment attachment <;> rw [found] at called <;>
    cases called
  exact ⟨rfl, same, disk⟩

theorem findRow_keeps (attachment : AttachmentId) :
    Step.Keeps Scene.SameStore (findRow attachment) := by
  intro scene
  rcases ran : (findRow attachment).on scene with ⟨error | row, after⟩
  · obtain ⟨database, disk⟩ := Backend.query_error ran
    exact ⟨database, disk⟩
  · exact (findRow_ok ran).2

theorem findPointer_keeps (attachment : AttachmentId) :
    Step.Keeps Scene.SameStore (findPointer attachment) := by
  refine .mapError _ (.bind (findRow_keeps attachment) fun row => ?_)
  cases row with
  | none => exact .pure _
  | some row => exact .bind (fun _ => Std.Refl.refl _) fun _ => .pure _

theorem toPointer_id {row : AttachmentRow} {pointer : Pointer} (h : row.toPointer = .ok pointer) :
    pointer.id = row.id := by
  unfold AttachmentRow.toPointer at h
  split at h <;> cases h
  rfl

theorem findPointer_id {attachment : AttachmentId} {pointer : Pointer}
    (h : (findPointer attachment).on scene = (.ok (some pointer), after)) :
    pointer.id = attachment := by
  obtain ⟨row, middle, found, h⟩ := Step.bind_ok (Step.mapError_ok h)
  cases row with
  | none => cases h
  | some row =>
    obtain ⟨pointer', middle, pointed, h⟩ := Step.bind_ok h
    cases h
    rw [Step.on_reads] at pointed
    injection pointed with pointed
    rw [toPointer_id pointed]
    exact Database.findAttachment_id (findRow_ok found).1

theorem updated_ok {attachment : AttachmentId} {message : MessageId}
    {change : AttachmentRow → AttachmentRow} {count : Nat}
    (h : (Backend.query fun db => (db.updateAttachment attachment message change).mapError
      DatabaseError.chain).on scene = (.ok count, after)) :
    scene.rest.database.updateAttachment attachment message change =
        .ok (count, after.rest.database) ∧
      after.disk = scene.disk := by
  obtain ⟨database, called, rfl, disk⟩ := Backend.query_ok h
  refine ⟨?_, disk⟩
  cases updated : scene.rest.database.updateAttachment attachment message change <;>
    rw [updated] at called <;> cases called
  rfl

theorem setState_ok {state : AttachmentState} {attachment : AttachmentId} {message : MessageId}
    (h : (setState state attachment message).on scene = (.ok (), after)) :
    ∃ count, scene.rest.database.updateAttachment attachment message
        ({ · with state := state.name, updatedAt := Backend.now scene }) =
        .ok (count, after.rest.database) ∧
      after.disk = scene.disk := by
  obtain ⟨_, _, now, h⟩ := Step.bind_ok h
  cases now
  obtain ⟨count, middle, updated, h⟩ := Step.bind_ok h
  cases h
  exact ⟨count, updated_ok (Step.mapError_ok updated)⟩

theorem setState_error {state : AttachmentState} {attachment : AttachmentId} {message : MessageId}
    {error : ErrorChain}
    (h : (setState state attachment message).on scene = (.error error, after)) :
    scene.SameStore after := by
  rw [setState, Step.bind_of_ok (Step.on_get scene)] at h
  rcases Step.bind_error h with h | ⟨count, middle, -, h⟩
  · obtain ⟨cause, -, h⟩ := Step.mapError_error h
    obtain ⟨database, disk⟩ := Backend.query_error h
    exact ⟨database, disk⟩
  · cases h

theorem setState_disk {state : AttachmentState} {attachment : AttachmentId} {message : MessageId}
    {result : Except ErrorChain Unit}
    (h : (setState state attachment message).on scene = (result, after)) :
    after.disk = scene.disk := by
  cases result with
  | error => exact (setState_error h).disk
  | ok =>
    obtain ⟨-, -, disk⟩ := setState_ok h
    exact disk

def doneRow (part : String) (stored now : Int64) (row : AttachmentRow) : AttachmentRow :=
  { row with
    state := AttachmentState.done.name
    partFile := some part
    storedSize := some stored
    updatedAt := now }

theorem publishDone_ok {attachment : AttachmentId} {message : MessageId} {part : String}
    {written count : Nat}
    (h : (publishDone attachment message part written).on scene = (.ok count, after)) :
    ∃ stored, int64? written = some stored ∧
      scene.rest.database.updateAttachment attachment message
        (doneRow part stored (Backend.now scene)) = .ok (count, after.rest.database) ∧
      after.disk = scene.disk := by
  rw [publishDone, Step.bind_of_ok (Step.on_get scene)] at h
  dsimp only at h
  split at h
  · cases h
  next stored fits => exact ⟨stored, fits, updated_ok h⟩

theorem publishDone_error {attachment : AttachmentId} {message : MessageId} {part : String}
    {written : Nat} {error : ErrorChain}
    (h : (publishDone attachment message part written).on scene = (.error error, after)) :
    scene.SameStore after := by
  rw [publishDone, Step.bind_of_ok (Step.on_get scene)] at h
  dsimp only at h
  split at h
  · cases h
    exact Std.Refl.refl _
  · obtain ⟨database, disk⟩ := Backend.query_error h
    exact ⟨database, disk⟩

end Repository

end AttachmentFetch
