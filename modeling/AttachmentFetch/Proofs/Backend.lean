import AttachmentFetch.Backend
import AttachmentFetch.Proofs.Scene

/-! What calls leave of a scene with a database: a query that fails leaves all of
it, and a call on the disk leaves the tables. -/
namespace AttachmentFetch

namespace Backend
variable {call : Database → Except ErrorChain (α × Database)} {scene after : Scene Backend}

theorem query_ok {value : α} (h : (query call).on scene = (.ok value, after)) :
    ∃ database, call scene.rest.database = .ok (value, database) ∧
      after.rest.database = database ∧ after.disk = scene.disk := by
  rw [query, Step.on_onRest] at h
  unfold Step.on at h
  dsimp only at h
  split at h
  · cases h
  · split at h
    next database called =>
      cases h
      exact ⟨database, called, rfl, rfl⟩
    · cases h

theorem query_error {error : ErrorChain} (h : (query call).on scene = (.error error, after)) :
    after.rest.database = scene.rest.database ∧ after.disk = scene.disk := by
  rw [query, Step.on_onRest] at h
  unfold Step.on at h
  dsimp only at h
  split at h
  · cases h
    exact ⟨rfl, rfl⟩
  · split at h
    · cases h
    · cases h
      exact ⟨rfl, rfl⟩

def Spared (scene : Scene Backend) : Prop :=
  scene.rest.databaseFaults.head?.join = none

theorem query_of_spared (spared : Spared scene)
    (call : Database → Except ErrorChain (α × Database)) :
    ((query call).on scene).1 = (call scene.rest.database).map Prod.fst := by
  obtain ⟨disk, clock, log, database, faults, network⟩ := scene
  rw [query, Step.on_onRest]
  unfold Step.on
  dsimp only
  split
  next => cases spared
  next => cases call database <;> rfl

theorem spared_of_ok {value : α} (h : (query call).on scene = (.ok value, after)) :
    Spared scene := by
  obtain ⟨disk, clock, log, database, faults, network⟩ := scene
  rcases faults with _ | ⟨_ | fault, rest⟩
  · rfl
  · rfl
  · cases h

end Backend

structure Scene.SameStore (before after : Scene Backend) : Prop where
  database : after.rest.database = before.rest.database
  disk : after.disk = before.disk

namespace Scene.SameStore

instance : Std.Refl SameStore where
  refl _ := ⟨rfl, rfl⟩

instance : Trans SameStore SameStore SameStore where
  trans h h' := ⟨h'.database.trans h.database, h'.disk.trans h.disk⟩

end Scene.SameStore

structure Scene.WritesOnly (paths : List String) (before after : Scene Backend) : Prop where
  database : after.rest.database = before.rest.database
  disk : Disk.TouchesOnly paths before.disk after.disk

namespace Scene.WritesOnly
variable {paths : List String}

instance : Std.Refl (WritesOnly paths) where
  refl _ := ⟨rfl, Std.Refl.refl _⟩

theorem trans {first second third : Scene Backend} (h : WritesOnly paths first second)
    (h' : WritesOnly paths second third) : WritesOnly paths first third :=
  ⟨h'.database.trans h.database, h.disk.trans h'.disk⟩

instance : Trans (WritesOnly paths) (WritesOnly paths) (WritesOnly paths) where
  trans := trans

end Scene.WritesOnly

theorem Scene.WritesFiles.writesOnly {paths : List String} {before after : Scene Backend}
    (h : WritesFiles paths before after) : WritesOnly paths before after :=
  ⟨congrArg Backend.database h.rest, h.disk⟩

theorem Scene.SameStore.writesOnly {before after : Scene Backend} (h : SameStore before after)
    (paths : List String) : WritesOnly paths before after :=
  ⟨h.database, h.disk ▸ Std.Refl.refl _⟩

/-- An attachment whose download has yet to begin, and a server that has it. -/
def Scene.served : Scene Backend where
  disk := { nodes := [(["p"], .directory)] }
  rest := {
    database := {
      migrated := true
      messages := some [⟨⟨10⟩, 0⟩]
      attachments := some [{
        id := ⟨5⟩
        message := ⟨10⟩
        url := "http://h/5"
        size := 0
        key := none
        digest := none
        contentType := none
        state := "Pending"
        partFile := none
        storedSize := none
        updatedAt := 0 }] }
    network := .up [.response { status := 200, chunks := [[1, 2], [3]] }] [] }

end AttachmentFetch
