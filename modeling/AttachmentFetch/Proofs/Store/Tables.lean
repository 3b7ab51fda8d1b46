import AttachmentFetch.Client
import AttachmentFetch.Proofs.Store.Insertion

/-! Other tables. What a job does hangs on little of the tables: on the pointers in their
rows, and not on the state of a download or on when it last changed. So what comes out well
comes out the same on other tables with the same pointers. -/
namespace AttachmentFetch

/-- The scene with other tables. -/
def Scene.withTables (db : Database) (scene : Scene Backend) : Scene Backend :=
  { scene with rest := { scene.rest with database := db } }

/-- The step comes to the same whatever the tables are, and leaves them as they are. -/
def IgnoresTables (step : Step (Scene Backend) ε α) : Prop :=
  ∀ db scene, step.on (scene.withTables db) = ((step.on scene).1, (step.on scene).2.withTables db)

namespace IgnoresTables

theorem result {step : Step (Scene Backend) ε α} {scene after : Scene Backend}
    {result : Except ε α} (h : IgnoresTables step) (ran : step.on scene = (result, after))
    (db : Database) : step.on (scene.withTables db) = (result, after.withTables db) := by
  rw [h, ran]

theorem pure (value : α) : IgnoresTables (Pure.pure value : Step (Scene Backend) ε α) :=
  fun _ _ => rfl

theorem throw (error : ε) : IgnoresTables (throw error : Step (Scene Backend) ε α) :=
  fun _ _ => rfl

theorem given (result : Except ε α) : IgnoresTables (Step.reads fun _ => result) :=
  fun _ _ => rfl

theorem onDisk (call : Disk.Call α) : IgnoresTables (Scene.onDisk call) :=
  fun _ _ => rfl

theorem bind {first : Step (Scene Backend) ε α} {next : α → Step (Scene Backend) ε β}
    (h : IgnoresTables first) (h' : ∀ value, IgnoresTables (next value)) :
    IgnoresTables (first >>= next) := by
  intro db scene
  rw [Step.on_bind, Step.on_bind, h]
  rcases first.on scene with ⟨error | value, middle⟩
  · rfl
  · exact h' value db middle

theorem mapError {step : Step (Scene Backend) ε α} (f : ε → ε') (h : IgnoresTables step) :
    IgnoresTables (step.mapError f) := by
  intro db scene
  rw [Step.on_mapError, Step.on_mapError, h]

theorem outcome {step : Step (Scene Backend) ε α} (h : IgnoresTables step) :
    IgnoresTables (step.outcome : Step (Scene Backend) ε' (Except ε α)) := by
  intro db scene
  rw [Step.on_outcome, Step.on_outcome, h]

end IgnoresTables

namespace Transfer

end Transfer

def AttachmentRow.heading (row : AttachmentRow) :
    AttachmentId × MessageId × Except ErrorChain Pointer :=
  (row.id, row.message, row.toPointer)

namespace Database

def headings (db : Database) :
    Option (List (AttachmentId × MessageId × Except ErrorChain Pointer)) :=
  db.attachments.map (·.map AttachmentRow.heading)

section Headings
variable {db other after : Database} {id : AttachmentId} {message : MessageId}
  {change : AttachmentRow → AttachmentRow} {count : Nat} {rows : List AttachmentRow}

theorem headings_updated (updated : db.updateAttachment id message change = .ok (count, after))
    (keeps : ∀ row, (change row).heading = row.heading) :
    after.headings = db.headings := by
  obtain ⟨rows, tables, rfl, -⟩ := updateAttachment_ok updated
  have revised : AttachmentRow.heading ∘ revise id message change = AttachmentRow.heading := by
    funext row
    simp only [Function.comp, revise]
    split
    · exact keeps row
    · rfl
  simp only [headings, tables, Option.map_some, List.map_map, revised]

end Headings

end Database

namespace Repository
variable {scene after : Scene Backend} {db : Database} {attachment : AttachmentId}
  {message : MessageId}

variable {repository : Repository} {content : Content}

end Repository

end AttachmentFetch
