import AttachmentFetch.Disk.Directory
import AttachmentFetch.Proofs.Disk.Target
import AttachmentFetch.Proofs.Step

/-! What each call changes on a disk. Directories are never lost, and only the
files at the paths that a call names are touched. -/
namespace AttachmentFetch.Disk

def file? (disk : Disk) (place : Place) : Option Bytes :=
  match disk.node? place with
  | some (.file content) => some content
  | _ => none

theorem file?_eq_some {disk : Disk} {place : Place} {content : Bytes} :
    disk.file? place = some content ↔ disk.node? place = some (.file content) := by
  unfold file?
  split <;> simp_all

theorem file?_of_node? {disk : Disk} {place : Place}
    (h : ∀ content, disk.node? place ≠ some (.file content)) : disk.file? place = none := by
  unfold file?
  split
  next content found => exact absurd found (h content)
  next => rfl

@[simp] theorem node?_root (disk : Disk) : disk.node? [] = some .directory := rfl

theorem ne_root {disk : Disk} {place : Place} (notDirectory : disk.node? place ≠ some .directory) :
    place ≠ [] := by
  rintro rfl
  exact notDirectory disk.node?_root

theorem ne_root_of_none {disk : Disk} {place : Place} (nothing : disk.node? place = none) :
    place ≠ [] := by
  rintro rfl
  cases nothing

theorem ne_root_of_file {disk : Disk} {place : Place} {content : Bytes}
    (found : disk.node? place = some (.file content)) : place ≠ [] := by
  rintro rfl
  cases found

theorem lookup_filter_ne (entries : List (Place × α)) (place other : Place) :
    (entries.filter (·.1 ≠ place)).lookup other =
      if other = place then none else entries.lookup other := by
  induction entries with
  | nil => simp
  | cons head rest ih =>
    obtain ⟨first, entry⟩ := head
    by_cases met : other = first
    · subst met
      by_cases same : other = place
      · simpa [same] using ih
      · simp [same]
    · have apart : (other == first) = false := by simpa using met
      by_cases same : first = place
      · simpa [same, List.lookup_cons, same ▸ apart] using ih
      · simpa [same, List.lookup_cons, apart] using ih

theorem node?_erase (disk : Disk) {place : Place} (inside : place ≠ []) (other : Place) :
    (disk.erase place).node? other = if other = place then none else disk.node? other := by
  unfold node? erase
  by_cases root : other = []
  · subst root
    simp [Ne.symm inside]
  · simp only [root, if_false]
    exact lookup_filter_ne ..

theorem node?_put (disk : Disk) {place : Place} (inside : place ≠ []) (node : Node)
    (other : Place) :
    (disk.put place node).node? other = if other = place then some node else disk.node? other := by
  have erased := node?_erase disk inside other
  unfold node? at erased ⊢
  by_cases root : other = []
  · subst root
    simp [Ne.symm inside]
  · by_cases same : other = place
    · subst same
      simp [put, root]
    · have apart : (other == place) = false := by simpa using same
      simpa [put, root, same, List.lookup_cons, apart] using erased

/-- From one disk to another only the files at some paths were touched: made,
filled, emptied or removed. Directories may be new. -/
structure TouchesOnly (paths : List String) (before after : Disk) : Prop where
  workingDirectory : after.workingDirectory = before.workingDirectory
  directories : ∀ place, before.node? place = some .directory → after.node? place = some .directory
  files : ∀ place, (∀ path ∈ paths, place ≠ before.target path) →
    after.file? place = before.file? place

namespace TouchesOnly
variable {paths : List String} {before middle after : Disk}

theorem target (touches : TouchesOnly paths before after) (path : String) :
    after.target path = before.target path := by
  rw [Disk.target, Disk.target, touches.workingDirectory]

theorem of_nodes (paths : List String) (nodes : after.nodes = before.nodes)
    (workingDirectory : after.workingDirectory = before.workingDirectory) :
    TouchesOnly paths before after where
  workingDirectory := workingDirectory
  directories place h := by rwa [node?, nodes]
  files place _ := by simp only [file?, node?, nodes]

instance : Std.Refl (TouchesOnly paths) where
  refl _ := of_nodes paths rfl rfl

theorem trans (first : TouchesOnly paths before middle) (second : TouchesOnly paths middle after) :
    TouchesOnly paths before after where
  workingDirectory := second.workingDirectory.trans first.workingDirectory
  directories place h := second.directories place (first.directories place h)
  files place away := by
    rw [second.files place, first.files place away]
    intro path listed
    rw [first.target]
    exact away path listed

instance : Trans (TouchesOnly paths) (TouchesOnly paths) (TouchesOnly paths) where
  trans := trans

theorem mono {more : List String} (touches : TouchesOnly paths before after)
    (subset : ∀ path ∈ paths, path ∈ more) : TouchesOnly more before after where
  workingDirectory := touches.workingDirectory
  directories := touches.directories
  files place away := touches.files place fun path listed => away path (subset path listed)

theorem elsewhere {path : String} (touches : TouchesOnly [path] before after) {place : Place}
    (away : place ≠ before.target path) : after.file? place = before.file? place :=
  touches.files place fun _ listed => List.mem_singleton.1 listed ▸ away

theorem put_file {path : String} {place : Place} (listed : path ∈ paths)
    (here : place = before.target path) (notDirectory : before.node? place ≠ some .directory)
    (content : Bytes) : TouchesOnly paths before (before.put place (.file content)) := by
  have inside := ne_root notDirectory
  constructor
  · rfl
  · intro other h
    rw [node?_put _ inside, if_neg]
    · exact h
    · rintro rfl
      exact notDirectory h
  · intro other away
    have elsewhere : other ≠ place := here ▸ away path listed
    simp only [file?, node?_put _ inside, if_neg elsewhere]

theorem put_directory {place : Place} (nothing : before.node? place = none) :
    TouchesOnly paths before (before.put place .directory) := by
  have inside := ne_root_of_none nothing
  constructor
  · rfl
  · intro other h
    rw [node?_put _ inside]
    split
    · rfl
    · exact h
  · intro other _
    by_cases same : other = place
    · subst same
      simp only [file?, node?_put _ inside, if_pos, nothing]
    · simp only [file?, node?_put _ inside, if_neg same]

theorem erase_file {path : String} {place : Place} {content : Bytes} (listed : path ∈ paths)
    (here : place = before.target path) (found : before.node? place = some (.file content)) :
    TouchesOnly paths before (before.erase place) := by
  have inside := ne_root_of_file found
  constructor
  · rfl
  · intro other h
    rw [node?_erase _ inside, if_neg]
    · exact h
    · rintro rfl
      rw [found] at h
      cases h
  · intro other away
    have elsewhere : other ≠ place := here ▸ away path listed
    simp only [file?, node?_erase _ inside, if_neg elsewhere]

end TouchesOnly

end AttachmentFetch.Disk
