import AttachmentFetch.Proofs.Disk.Directory
import AttachmentFetch.Proofs.Store.Part

/-! Where directories may be new. Only making a directory makes one; a scratch file is made
below directories that were asked for, and all else on the disk stays. -/
namespace AttachmentFetch.Disk

/-- From one disk to another directories are new only where some paths lead. -/
structure MakesOnly (paths : List String) (before after : Disk) : Prop where
  workingDirectory : after.workingDirectory = before.workingDirectory
  made : ∀ place, after.node? place = some .directory →
    before.node? place = some .directory ∨ ∃ path ∈ paths, place = before.target path

namespace MakesOnly
variable {paths : List String} {before middle after : Disk} {place : Place}

theorem of_nodes (paths : List String) (nodes : after.nodes = before.nodes)
    (workingDirectory : after.workingDirectory = before.workingDirectory) :
    MakesOnly paths before after where
  workingDirectory := workingDirectory
  made place h := .inl (by rwa [node?, nodes] at h)

instance : Std.Refl (MakesOnly paths) where
  refl _ := of_nodes paths rfl rfl

theorem trans (first : MakesOnly paths before middle) (second : MakesOnly paths middle after) :
    MakesOnly paths before after where
  workingDirectory := second.workingDirectory.trans first.workingDirectory
  made place h := by
    rcases second.made place h with h | ⟨path, listed, rfl⟩
    · exact first.made place h
    · refine .inr ⟨path, listed, ?_⟩
      rw [target, target, first.workingDirectory]

instance : Trans (MakesOnly paths) (MakesOnly paths) (MakesOnly paths) where
  trans := trans

theorem mono {more : List String} (makes : MakesOnly paths before after)
    (subset : ∀ path ∈ paths, path ∈ more) : MakesOnly more before after where
  workingDirectory := makes.workingDirectory
  made place h := (makes.made place h).imp_right fun ⟨path, listed, here⟩ =>
    ⟨path, subset path listed, here⟩

theorem put_file (paths : List String) (inside : place ≠ []) (content : Bytes) :
    MakesOnly paths before (before.put place (.file content)) where
  workingDirectory := rfl
  made other h := by
    rw [node?_put _ inside] at h
    split at h
    · cases h
    · exact .inl h

theorem put_directory {path : String} (listed : path ∈ paths) (inside : place ≠ [])
    (here : place = before.target path) : MakesOnly paths before (before.put place .directory) where
  workingDirectory := rfl
  made other h := by
    rw [node?_put _ inside] at h
    split at h
    next same => exact .inr ⟨path, listed, same.trans here⟩
    next => exact .inl h

theorem erase (paths : List String) (inside : place ≠ []) :
    MakesOnly paths before (before.erase place) where
  workingDirectory := rfl
  made other h := by
    rw [node?_erase _ inside] at h
    split at h
    · cases h
    · exact .inl h

theorem faultable {call : Disk → Except IoError (α × Disk)}
    (made : ∀ {disk value after}, call disk = .ok (value, after) → MakesOnly paths disk after) :
    Step.Keeps (MakesOnly paths) (Disk.faultable call) := by
  intro disk
  have start : MakesOnly paths disk disk.started := of_nodes paths rfl rfl
  rcases ran : (Disk.faultable call).on disk with ⟨_ | value, after⟩
  · rw [faultable_error ran]
    exact start
  · exact start.trans (made (faultable_ok ran))

end MakesOnly

section Calls

theorem makeDirectory_makes {paths : List String} {path : String} (listed : path ∈ paths) :
    Step.Keeps (MakesOnly paths) (makeDirectory path) := by
  apply MakesOnly.faultable
  intro disk _ after made
  cases found : disk.free path <;> rw [found] at made <;> cases made
  obtain ⟨located, nothing⟩ := free_eq_ok found
  exact .put_directory listed (ne_root_of_none nothing) (locate_eq_target located)

theorem makeDirectories_makes (path : String) :
    Step.Keeps (MakesOnly (Path.directories path)) (makeDirectories path) :=
  makeDirectories_keeps_of fun _ listed => makeDirectory_makes listed

variable (paths : List String)

theorem putNew_makes {disk after : Disk} {path : String} {place : Place}
    (made : (do
      let place ← disk.free path
      return (place, disk.put place (.file [])) : Except IoError (Place × Disk)) =
      .ok (place, after)) : MakesOnly paths disk after := by
  cases found : disk.free path <;> rw [found] at made <;> cases made
  exact .put_file paths (ne_root_of_none (free_eq_ok found).2) []

theorem createNew_makes (path : String) : Step.Keeps (MakesOnly paths) (createNew path) :=
  .faultable (putNew_makes paths)

theorem create_makes (path : String) : Step.Keeps (MakesOnly paths) (create path) := by
  apply MakesOnly.faultable
  intro disk place after made
  split at made
  · cases made
  next content found =>
    obtain ⟨located, node⟩ := find_eq_ok found
    rw [located] at made
    cases made
    exact .put_file paths (ne_root_of_file node) []
  · exact putNew_makes paths made
  · cases made

theorem extend_makes (disk : Disk) (place : Place) (bytes : Bytes) :
    MakesOnly paths disk (disk.extend place bytes) := by
  unfold extend
  split
  next content found => exact .put_file paths (ne_root_of_file found) _
  next => exact Std.Refl.refl disk

theorem append_makes (place : Place) (bytes : Bytes) :
    Step.Keeps (MakesOnly paths) (append place bytes) := by
  intro disk
  unfold append Step.on
  dsimp only
  split
  next faults _ =>
    have start : MakesOnly paths disk { disk with faults } := .of_nodes paths rfl rfl
    exact start.trans (extend_makes paths _ place _)
  next =>
    have start : MakesOnly paths disk disk.started := .of_nodes paths rfl rfl
    exact start.trans (extend_makes paths _ place _)

theorem started_makes (disk : Disk) : MakesOnly paths disk disk.started :=
  .of_nodes paths rfl rfl

theorem remove_makes (path : String) : Step.Keeps (MakesOnly paths) (remove path) := by
  apply MakesOnly.faultable
  intro disk _ after made
  split at made
  next content found =>
    obtain ⟨located, node⟩ := find_eq_ok found
    rw [located] at made
    cases made
    exact .erase paths (ne_root_of_file node)
  · cases made
  · cases made

theorem makeIn_makes (directory : String) :
    Step.Keeps (MakesOnly (Path.directories directory)) (ScratchFile.makeIn directory) :=
  ScratchFile.makeIn_keeps (makeDirectories_makes directory) (fun _ _ _ => .of_nodes _ rfl rfl)
    (createNew_makes _)

end Calls

theorem node?_of_makes {paths : List String} {before after : Disk} {place : Place}
    (kept : before.node? place = some .directory → after.node? place = some .directory)
    (makes : MakesOnly paths before after) (same : after.file? place = before.file? place) :
    after.node? place = before.node? place ∨
      before.node? place = none ∧ after.node? place = some .directory ∧
        ∃ path ∈ paths, place = before.target path := by
  cases node : after.node? place with
  | none =>
    cases former : before.node? place with
    | none => exact .inl rfl
    | some former' =>
      cases former' with
      | directory => cases node.symm.trans (kept former)
      | file content =>
        rw [file?_eq_some.2 former, file?_eq_some, node] at same
        cases same
  | some node' =>
    cases node' with
    | file content =>
      rw [file?_eq_some.2 node] at same
      exact .inl (file?_eq_some.1 same.symm).symm
    | directory =>
      rcases makes.made place node with former | ⟨path, listed, here⟩
      · exact .inl former.symm
      · cases former : before.node? place with
        | none => exact .inr ⟨rfl, rfl, path, listed, here⟩
        | some former' =>
          cases former' with
          | directory => exact .inl rfl
          | file content =>
            rw [file?_eq_some.2 former, file?_eq_some, node] at same
            cases same

end AttachmentFetch.Disk
