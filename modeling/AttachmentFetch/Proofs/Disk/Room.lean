import AttachmentFetch.Proofs.Disk.Shape
import AttachmentFetch.Proofs.Store.Part

/-! Disks on which nothing goes wrong. What is there can be read and be given new
content, and where there is room for a download, there still is once it has arrived. -/
namespace AttachmentFetch.Disk

/-- Nothing befalls the calls after, if nothing befell those before. -/
def StaysCalm (before after : Disk) : Prop := before.faults = [] → after.faults = []

namespace StaysCalm

instance : Std.Refl StaysCalm where
  refl _ := id

instance : Trans StaysCalm StaysCalm StaysCalm where
  trans h h' := h' ∘ h

end StaysCalm

section Calm
variable {disk : Disk} {path : String}

theorem started_of_calm (calm : disk.faults = []) : disk.started = disk := by
  unfold started
  rw [calm]
  cases disk
  cases calm
  rfl

theorem faultable_of_calm {call : Disk → Except IoError (α × Disk)} (calm : disk.faults = [])
    {value : α} {after : Disk} (made : call disk = .ok (value, after)) :
    (faultable call).on disk = (.ok value, after) := by
  rw [faultable_of_none (by rw [calm]; rfl), started_of_calm calm, made]

theorem faultable_staysCalm {call : Disk → Except IoError (α × Disk)}
    (same : ∀ {disk value after}, call disk = .ok (value, after) → after.faults = disk.faults) :
    Step.Keeps StaysCalm (faultable call) := by
  intro disk calm
  rcases ran : (faultable call).on disk with ⟨_ | _, after⟩
  · rw [faultable_error ran]
    exact congrArg List.tail calm
  · rw [same (faultable_ok ran)]
    exact congrArg List.tail calm

theorem makeDirectory_staysCalm (path : String) : Step.Keeps StaysCalm (makeDirectory path) := by
  apply faultable_staysCalm
  intro disk _ after made
  cases found : disk.free path <;> rw [found] at made <;> cases made
  rfl

theorem makeDirectories_staysCalm (path : String) : Step.Keeps StaysCalm (makeDirectories path) :=
  makeDirectories_keeps_of fun inner _ => makeDirectory_staysCalm inner

theorem putNew_faults {disk after : Disk} {path : String} {place : Place}
    (made : (do
      let place ← disk.free path
      return (place, disk.put place (.file [])) : Except IoError (Place × Disk)) =
      .ok (place, after)) : after.faults = disk.faults := by
  cases found : disk.free path <;> rw [found] at made <;> cases made
  rfl

theorem createNew_staysCalm (path : String) : Step.Keeps StaysCalm (createNew path) :=
  faultable_staysCalm putNew_faults

theorem create_staysCalm (path : String) : Step.Keeps StaysCalm (create path) := by
  apply faultable_staysCalm
  intro disk place after made
  split at made
  · cases made
  · cases located : disk.locate path <;> rw [located] at made <;> cases made
    rfl
  · exact putNew_faults made
  · cases made

theorem append_on (calm : disk.faults = []) (place : Place) (bytes : Bytes) :
    (append place bytes).on disk = (.ok (), disk.extend place bytes) := by
  unfold append Step.on
  dsimp only
  split
  next faults =>
    rw [calm] at faults
    cases faults
  next =>
    have same : disk.started.extend place bytes = disk.extend place bytes := by
      rw [started_of_calm calm]
    exact congrArg (Prod.mk _) same

/-- A file that nothing befalls is written to, or it is not even opened. -/
theorem write_error_of_calm {after : Disk} {content : Bytes} {error : IoError}
    (calm : disk.faults = []) (failed : (write path content).on disk = (.error error, after)) :
    after = disk := by
  rcases Step.bind_error failed with uncreated | ⟨place, middle, created, failed⟩
  · rw [faultable_error uncreated, started_of_calm calm]
  · rw [append_on ((create_staysCalm path).related created calm)] at failed
    cases failed

theorem makeIn_staysCalm (directory : String) :
    Step.Keeps StaysCalm (ScratchFile.makeIn directory) :=
  ScratchFile.makeIn_keeps (makeDirectories_staysCalm directory) (fun _ _ _ calm => calm)
    createNew_staysCalm

end Calm

structure Refilled (path : String) (content : Bytes) (before after : Disk) : Prop where
  shape : SameShape before after
  held : after.content? path = some content

section Refill
variable {disk after : Disk} {path : String} {place : Place} {former content : Bytes}

theorem refilled_of_file (shape : SameShape disk after) (found : disk.content? path = some former)
    (held : after.file? (disk.target path) = some content) : Refilled path content disk after := by
  refine ⟨shape, content?_eq_some.2 ⟨?_, ?_⟩⟩
  · rw [shape.locate, shape.target]
    exact (content?_eq_some.1 found).1
  · rwa [shape.target]

theorem create_of_content (calm : disk.faults = []) (found : disk.content? path = some former) :
    (create path).on disk =
      (.ok (disk.target path), disk.put (disk.target path) (.file [])) := by
  apply faultable_of_calm calm
  simp only [find_of_content? found, (content?_eq_some.1 found).1]
  rfl

theorem append_of_calm (calm : disk.faults = []) (held : disk.file? place = some former)
    (bytes : Bytes) :
    (append place bytes).on disk = (.ok (), disk.put place (.file (former ++ bytes))) := by
  rw [append_on calm, extend, file?_eq_some.1 held]

theorem write_of_content (calm : disk.faults = []) (found : disk.content? path = some former)
    (content : Bytes) :
    ∃ after, (write path content).on disk = (.ok (), after) ∧ Refilled path content disk after := by
  have node := file?_eq_some.1 (content?_eq_some.1 found).2
  have emptied := SameShape.refill node []
  have empty : (disk.put (disk.target path) (.file [])).file? (disk.target path) = some [] := by
    rw [file?_eq_some, node?_put _ (ne_root_of_file node), if_pos rfl]
  have filling := append_of_calm (emptied.faults.trans calm) empty content
  have filled := SameShape.refill (file?_eq_some.1 empty) ([] ++ content)
  refine ⟨_, (Step.bind_of_ok (create_of_content calm found)).trans filling, ?_⟩
  exact refilled_of_file (emptied.trans filled) found (append_ok empty filling)

theorem sync_of_calm (calm : disk.faults = []) (place : Place) :
    (sync place).on disk = (.ok (), disk) :=
  faultable_of_calm calm rfl

theorem read_of_content (calm : disk.faults = []) (found : disk.content? path = some content) :
    (read path).on disk = (.ok content, disk) := by
  apply faultable_of_calm calm
  simp only [find_of_content? found]

theorem openToRead_of_content (calm : disk.faults = [])
    (found : disk.content? path = some content) :
    (openToRead path).on disk = (.ok (disk.target path), disk) := by
  apply faultable_of_calm calm
  simp only [find_of_content? found, (content?_eq_some.1 found).1]
  rfl

theorem drain_of_file (calm : disk.faults = []) (held : disk.file? place = some content) :
    (drain place).on disk = (.ok (content, none), disk) := by
  rcases drain_on held with drained | ⟨fault, listed, -⟩
  · rw [drained, started_of_calm calm]
  · rw [calm] at listed
    cases listed

end Refill

theorem createNew_content {disk after : Disk} {path : String} {place : Place}
    (plain : path.endsWith "/" = false) (made : (createNew path).on disk = (.ok place, after)) :
    after.content? path = some [] := by
  have put := faultable_ok made
  obtain ⟨rfl, empty, touches⟩ := free_put put
  rw [← touches.target] at empty
  refine content?_eq_some.2 ⟨?_, empty⟩
  rw [touches.target]
  refine locate_of_touches touches plain ?_
  cases found : disk.started.free path with
  | error => rw [found] at put; cases put
  | ok place =>
    obtain ⟨located, -⟩ := free_eq_ok found
    rw [locate_eq_target located] at located
    exact located

theorem makeIn_content {directory : String} {disk after : Disk} {file : ScratchFile}
    (made : (ScratchFile.makeIn directory).on disk = (.ok file, after)) :
    after.content? file.path = some [] := by
  obtain ⟨_, number, _, -, -, path, creating⟩ := ScratchFile.makeIn_made made
  exact createNew_content (path ▸ Path.endsWith_join (ScratchFile.isName number) directory) creating

/-- Makes and moves the files of a part, with nothing in them. -/
def rehearsePart (directory unfinished part : String) : Call Unit := do
  makeDirectories directory
  let _ ← create unfinished
  rename unfinished part

def rehearse (cacheDirectory directory unfinished part : String) : Call Unit := do
  let _ ← ScratchFile.makeIn cacheDirectory
  rehearsePart directory unfinished part

theorem rehearsePart_byShape (directory unfinished part : String) :
    ByShape (rehearsePart directory unfinished part) :=
  .bind (makeDirectories_byShape directory) fun _ =>
    .bind (create_byShape unfinished) fun _ => rename_byShape unfinished part

end AttachmentFetch.Disk
