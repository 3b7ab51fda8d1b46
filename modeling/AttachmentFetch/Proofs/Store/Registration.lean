import AttachmentFetch.Client
import AttachmentFetch.Proofs.Backend

/-! What a registration adds: at most one row, of an attachment that had none, whose
download has yet to begin. -/
namespace AttachmentFetch

structure Registers (before after : Scene Backend) : Prop where
  disk : after.disk = before.disk
  rows : after.rest.database.attachments = before.rest.database.attachments ∨
    ∃ rows row, before.rest.database.attachments = some rows ∧
      (∀ other ∈ rows, other.id ≠ row.id) ∧ row.state = AttachmentState.pending.name ∧
      after.rest.database.attachments = some (rows ++ [row])

namespace Database
variable {db after : Database}

theorem insertMessage_ok {row : MessageRow} (h : db.insertMessage row = .ok after) :
    after.attachments = db.attachments := by
  unfold insertMessage messageRows at h
  cases tables : db.messages with
  | none =>
    rw [tables] at h
    cases h
  | some rows =>
    simp only [tables, bind, Except.bind, pure, Except.pure, Except.ok.injEq] at h
    rw [← h]
    split <;> rfl

theorem insertAttachment_ok {row : AttachmentRow} (h : db.insertAttachment row = .ok after) :
    ∃ rows, db.attachments = some rows ∧ (∀ other ∈ rows, other.id ≠ row.id) ∧
      after.attachments = some (rows ++ [row]) := by
  unfold insertAttachment attachmentRows at h
  cases tables : db.attachments with
  | none =>
    rw [tables] at h
    cases h
  | some rows =>
    simp only [tables, bind, Except.bind] at h
    split at h
    · cases h
    next new =>
      simp only [pure, Except.pure] at h
      split at h
      · cases h
      · cases h
        refine ⟨rows, rfl, fun other listed same => new ?_, rfl⟩
        exact List.any_eq_true.2 ⟨other, listed, by simp [same]⟩

end Database

theorem AttachmentRow.ofPointer_pending {pointer : Pointer} {now : Int64} {row : AttachmentRow}
    (h : ofPointer pointer now = .ok row) : row.state = AttachmentState.pending.name := by
  unfold ofPointer at h
  split at h
  · cases h
    rfl
  · cases h

namespace Repository
variable {scene after : Scene Backend} {text : String}
  {call : Database → Except DatabaseError Database}

theorem recorded_ok
    (h : (Backend.query fun db =>
      inContext text (((call db).mapError DatabaseError.chain).map ((), ·))).on scene =
        (.ok (), after)) :
    call scene.rest.database = .ok after.rest.database ∧ after.disk = scene.disk := by
  obtain ⟨database, called, rfl, disk⟩ := Backend.query_ok h
  refine ⟨?_, disk⟩
  cases made : call scene.rest.database with
  | error =>
    rw [made] at called
    cases called
  | ok database =>
    rw [made] at called
    injection called with called
    exact congrArg Except.ok (congrArg Prod.snd called)

theorem insertMessage_rows (message : MessageId) (scene : Scene Backend) :
    ((insertMessage message).on scene).2.disk = scene.disk ∧
      ((insertMessage message).on scene).2.rest.database.attachments =
        scene.rest.database.attachments := by
  rw [insertMessage, Step.bind_of_ok (Step.on_get scene)]
  dsimp only
  generalize inserting : (Backend.query _).on scene = ran
  rcases ran with ⟨error | _, after⟩
  · obtain ⟨database, disk⟩ := Backend.query_error inserting
    exact ⟨disk, congrArg Database.attachments database⟩
  · obtain ⟨inserted, disk⟩ := recorded_ok inserting
    exact ⟨disk, Database.insertMessage_ok inserted⟩

theorem insertRow_registers {row : AttachmentRow}
    (pending : row.state = AttachmentState.pending.name) (text : String) (scene : Scene Backend) :
    Registers scene ((Backend.query fun db => inContext text
      (((db.insertAttachment row).mapError DatabaseError.chain).map ((), ·))).on scene).2 := by
  generalize inserting : (Backend.query _).on scene = ran
  rcases ran with ⟨error | _, after⟩
  · obtain ⟨database, disk⟩ := Backend.query_error inserting
    exact ⟨disk, .inl (congrArg Database.attachments database)⟩
  · obtain ⟨inserted, disk⟩ := recorded_ok inserting
    obtain ⟨rows, tables, new, added⟩ := Database.insertAttachment_ok inserted
    exact ⟨disk, .inr ⟨rows, row, tables, new, pending, added⟩⟩

theorem insertPointer_registers (pointer : Pointer) (scene : Scene Backend) :
    Registers scene ((insertPointer pointer).on scene).2 := by
  rw [insertPointer, Step.bind_of_ok (Step.on_get scene)]
  dsimp only
  cases made : AttachmentRow.ofPointer pointer (Backend.now scene) with
  | error error =>
    rw [Step.bind_of_error (Step.on_reads (fun _ => Except.error error) scene)]
    exact ⟨rfl, .inl rfl⟩
  | ok row =>
    rw [Step.bind_of_ok (Step.on_reads (fun _ => Except.ok row) scene)]
    exact insertRow_registers (AttachmentRow.ofPointer_pending made) _ scene

end Repository

theorem Client.register_registers (pointer : Pointer) (scene : Scene Backend) :
    Registers scene ((Client.register pointer).on scene).2 := by
  obtain ⟨disk, rows⟩ := Repository.insertMessage_rows pointer.message scene
  rcases recorded : (Repository.insertMessage pointer.message).on scene with ⟨error | _, middle⟩
  · rw [Client.register, Step.bind_of_error recorded]
    rw [recorded] at disk rows
    exact ⟨disk, .inl rows⟩
  · rw [Client.register, Step.bind_of_ok recorded]
    rw [recorded] at disk rows
    obtain ⟨disk', rows'⟩ := Repository.insertPointer_registers pointer middle
    rw [rows] at rows'
    exact ⟨disk'.trans disk, rows'⟩

end AttachmentFetch
