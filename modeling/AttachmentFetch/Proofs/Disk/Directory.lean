import AttachmentFetch.Proofs.Disk.Calls
import AttachmentFetch.ScratchFile

/-! Calls made of several: whole files, directories with those above them, and
scratch files. What is read at a path stays as long as that path is not touched. -/
namespace AttachmentFetch.Disk

section Content
variable {paths : List String} {before after : Disk}

theorem walk_of_touches (touches : TouchesOnly paths before after) {place found : Place}
    {names : List String} (h : before.walk place names = .ok found) :
    after.walk place names = .ok found := by
  induction names generalizing place with
  | nil => exact h
  | cons name rest ih =>
    unfold walk at h ⊢
    split at h
    · cases h
    next short =>
      rw [if_neg short]
      split at h
      · exact h
      · cases h
      · cases h
      next directory =>
        rw [touches.directories _ directory]
        exact ih h

theorem locate_of_touches (touches : TouchesOnly paths before after) {path : String}
    (plain : path.endsWith "/" = false) {place : Place} (h : before.locate path = .ok place) :
    after.locate path = .ok place := by
  unfold locate at h ⊢
  rw [touches.workingDirectory]
  split at h
  · cases h
  next nonempty =>
    rw [if_neg nonempty]
    split at h
    · cases h
    next clean =>
      rw [if_neg clean]
      split at h
      · cases h
      next short =>
        rw [if_neg short]
        split at h
        · cases h
        next walked =>
          simp only [plain] at h
          cases h
          rw [walk_of_touches touches walked]
          simp [plain]

theorem content?_eq_some {disk : Disk} {path : String} {content : Bytes} :
    disk.content? path = some content ↔
      disk.locate path = .ok (disk.target path) ∧
        disk.file? (disk.target path) = some content := by
  constructor
  · intro h
    unfold content? at h
    split at h <;> cases h
    next found =>
      obtain ⟨located, node⟩ := find_eq_ok found
      exact ⟨located, file?_eq_some.2 node⟩
  · rintro ⟨located, node⟩
    rw [file?_eq_some] at node
    simp [content?, find, located, node]

theorem content?_of_located {disk : Disk} {path : String}
    (located : disk.locate path = .ok (disk.target path)) :
    disk.content? path = disk.file? (disk.target path) := by
  refine Option.ext fun content => ?_
  rw [content?_eq_some]
  exact and_iff_right located

theorem find_of_content? {disk : Disk} {path : String} {content : Bytes}
    (h : disk.content? path = some content) : disk.find path = .ok (.file content) := by
  unfold content? at h
  split at h
  next found =>
    cases h
    exact found
  next => cases h

theorem content?_of_touches (touches : TouchesOnly paths before after) {path : String}
    (plain : path.endsWith "/" = false)
    (away : ∀ other ∈ paths, before.target path ≠ before.target other) {content : Bytes}
    (h : before.content? path = some content) : after.content? path = some content := by
  obtain ⟨located, held⟩ := content?_eq_some.1 h
  refine content?_eq_some.2 ⟨?_, ?_⟩
  · rw [touches.target]
    exact locate_of_touches touches plain located
  · rw [touches.target, touches.files _ away]
    exact held

end Content

section Write

theorem write_keeps (path : String) (content : Bytes) :
    Step.Keeps (TouchesOnly [path]) (write path content) := by
  intro disk
  apply Step.Keeps.bind_at (create_keeps path disk)
  intro place middle created
  obtain ⟨here, -, touches⟩ := create_ok created
  exact append_touches (here.trans (touches.target path).symm) content

theorem write_ok {disk after : Disk} {path : String} {content : Bytes}
    (h : (write path content).on disk = (.ok (), after)) :
    after.file? (disk.target path) = some content := by
  obtain ⟨place, middle, created, appended⟩ := Step.bind_ok h
  obtain ⟨rfl, empty, -⟩ := create_ok created
  simpa using append_ok empty appended

end Write

section Directories
variable {R : Disk → Disk → Prop} [Std.Refl R]

theorem alreadyThere_keeps (error : IoError) (path : String) (value : α) :
    Step.Keeps R (do
      if error.kind = .alreadyExists ∧ (← get).isDirectory path then return value
      else throw error : Call α) := by
  intro disk
  rw [Step.bind_of_ok (Step.on_get disk)]
  split <;> exact Std.Refl.refl disk

theorem reach_keeps [Trans R R R] {path : String} (makes : Step.Keeps R (makeDirectory path)) :
    Step.Keeps R (reach path) := by
  unfold reach
  apply Step.Keeps.bind (.outcome makes)
  intro made
  cases made with
  | ok => exact .pure true
  | error error =>
    dsimp only
    split
    · exact .pure false
    · exact alreadyThere_keeps error path true

theorem missing_subset {disk after : Disk} {names more : List String}
    (h : (missing names).on disk = (.ok more, after)) : more ⊆ names := by
  induction names generalizing disk more after with
  | nil =>
    cases h
    exact List.nil_subset _
  | cons path rest ih =>
    obtain ⟨reached, middle, -, h⟩ := Step.bind_ok h
    cases reached with
    | true =>
      cases h
      exact List.nil_subset _
    | false =>
      obtain ⟨more, last, found, ended⟩ := Step.bind_ok h
      cases ended
      exact List.cons_subset_cons path (ih found)

section Make
variable [Trans R R R] {names : List String}
  (makes : ∀ path ∈ names, Step.Keeps R (makeDirectory path))
include makes

theorem missing_keeps : Step.Keeps R (missing names) := by
  induction names with
  | nil => exact .pure []
  | cons path rest ih =>
    unfold missing
    apply Step.Keeps.bind (reach_keeps (makes path List.mem_cons_self))
    intro reached
    split
    · exact .pure []
    · refine .bind (ih fun inner listed => ?_) fun more => .pure (path :: more)
      exact makes inner (List.mem_cons_of_mem _ listed)

theorem makeAll_keeps : Step.Keeps R (makeAll names) := by
  induction names with
  | nil => exact .pure ()
  | cons path rest ih =>
    unfold makeAll
    refine .bind (ih fun inner listed => makes inner (List.mem_cons_of_mem _ listed)) fun _ =>
      .bind (.outcome (makes path List.mem_cons_self)) fun made => ?_
    cases made with
    | ok => exact .pure ()
    | error error => exact alreadyThere_keeps error path ()

end Make

theorem makeDirectories_keeps_of [Trans R R R] {path : String}
    (makes : ∀ inner ∈ Path.directories path, Step.Keeps R (makeDirectory inner)) :
    Step.Keeps R (makeDirectories path) := by
  intro disk
  refine Step.Keeps.bind_at (missing_keeps makes disk) fun more middle found => ?_
  exact makeAll_keeps (fun inner listed => makes inner (missing_subset found listed)) middle

theorem makeDirectories_keeps (paths : List String) (path : String) :
    Step.Keeps (TouchesOnly paths) (makeDirectories path) :=
  makeDirectories_keeps_of fun inner _ => makeDirectory_keeps paths inner

end Directories

end AttachmentFetch.Disk

namespace AttachmentFetch.ScratchFile
variable {directory : String} {disk after : Disk}

theorem isName (number : Nat) : Path.IsName (name number) := by
  refine Path.isName_of_ending (Path.mem_stem_ending (by decide) ?_) (by decide) (by decide)
  intro h
  rw [Nat.toString_eq_repr, Nat.toList_repr] at h
  have := Nat.isDigit_of_mem_toDigits (by decide) (by decide) h
  revert this
  decide

theorem draw_on (directory : String) (disk : Disk) : ∃ number, disk.drawn ≤ number ∧
    (draw directory).on disk =
      (.ok (Path.join directory (name number)), { disk with drawn := number + 1 }) := by
  refine ⟨_, ?_, rfl⟩
  cases found : List.find? _ _ with
  | none => exact Nat.le_refl _
  | some number =>
    obtain ⟨step, -, rfl⟩ := List.mem_map.1 (List.mem_of_find?_eq_some found)
    exact Nat.le_add_right ..

/-- An error is told with a path, and otherwise a scratch file is made as any other. -/
theorem create_on (path : String) (disk : Disk) : (create path).on disk =
    ((Disk.createNew path).mapError (.atPath · (fullPath disk path))).on disk :=
  rfl

theorem makeIn_keeps {R : Disk → Disk → Prop} [Std.Refl R] [Trans R R R]
    (directories : Step.Keeps R (Disk.makeDirectories directory))
    (draws : ∀ disk number, disk.drawn ≤ number → R disk { disk with drawn := number + 1 })
    (creates : ∀ path, Step.Keeps R (Disk.createNew path)) :
    Step.Keeps R (makeIn directory) := by
  refine .bind directories fun _ => .bind (fun disk => ?_) fun path =>
    .bind (fun disk => ?_) fun _ => .pure _
  · obtain ⟨number, later, drawn⟩ := draw_on directory disk
    rw [drawn]
    exact draws disk number later
  · rw [create_on]
    exact (creates path).mapError _ disk

/-- What it takes to make a scratch file: its directory, a name, and a file where nothing is. -/
theorem makeIn_made {file : ScratchFile} (made : (makeIn directory).on disk = (.ok file, after)) :
    ∃ reached number place, (Disk.makeDirectories directory).on disk = (.ok (), reached) ∧
      reached.drawn ≤ number ∧ file.path = Path.join directory (name number) ∧
      (Disk.createNew file.path).on { reached with drawn := number + 1 } = (.ok place, after) := by
  obtain ⟨_, reached, directories, made⟩ := Step.bind_ok made
  obtain ⟨number, later, drawn⟩ := draw_on directory reached
  rw [Step.bind_of_ok drawn] at made
  obtain ⟨place, _, created, ended⟩ := Step.bind_ok made
  cases ended
  rw [create_on] at created
  exact ⟨reached, number, place, directories, later, rfl, Step.mapError_ok created⟩

theorem makeIn_failed {error : IoError}
    (failed : (makeIn directory).on disk = (.error error, after)) :
    (Disk.makeDirectories directory).on disk = (.error error, after) ∨
      ∃ reached number path cause,
        (Disk.makeDirectories directory).on disk = (.ok (), reached) ∧
        (Disk.createNew path).on { reached with drawn := number + 1 } = (.error cause, after) := by
  refine (Step.bind_error failed).imp_right ?_
  rintro ⟨_, reached, directories, failed⟩
  obtain ⟨number, -, drawn⟩ := draw_on directory reached
  rw [Step.bind_of_ok drawn] at failed
  rcases Step.bind_error failed with uncreated | ⟨_, _, _, ended⟩
  · rw [create_on] at uncreated
    obtain ⟨cause, -, uncreated⟩ := Step.mapError_error uncreated
    exact ⟨reached, number, _, cause, directories, uncreated⟩
  · cases ended

theorem makeIn_ok {file : ScratchFile} (made : (makeIn directory).on disk = (.ok file, after)) :
    (∃ number, file.path = Path.join directory (name number)) ∧
      disk.file? (disk.target file.path) = none ∧ Disk.TouchesOnly [file.path] disk after ∧
      after.locate file.path = .ok (after.target file.path) := by
  obtain ⟨reached, number, place, directories, -, path, created⟩ := makeIn_made made
  have touches := (Disk.makeDirectories_keeps [] directory).related directories
  have named : Disk.TouchesOnly [file.path] reached { reached with drawn := number + 1 } :=
    .of_nodes _ rfl rfl
  have creates := (Disk.createNew_keeps file.path).related created
  obtain ⟨rfl, nothing, located⟩ := Disk.createNew_ok created
  refine ⟨⟨number, path⟩, ?_, ((touches.mono nofun).trans named).trans creates, ?_⟩
  · rw [← touches.target, ← touches.files _ nofun]
    apply Disk.file?_of_node?
    intro content held
    exact nomatch nothing.symm.trans held
  · rw [creates.target]
    exact Disk.locate_of_touches creates
      (path ▸ Path.endsWith_join (isName number) directory) located

theorem makeIn_error {error : IoError}
    (failed : (makeIn directory).on disk = (.error error, after)) :
    Disk.TouchesOnly [] disk after := by
  rcases makeIn_failed failed with directories | ⟨reached, number, _, _, directories, uncreated⟩
  · exact (Disk.makeDirectories_keeps [] directory).related directories
  · have touches := (Disk.makeDirectories_keeps [] directory).related directories
    rw [Disk.faultable_error uncreated]
    exact touches.trans (.of_nodes _ rfl rfl)

end AttachmentFetch.ScratchFile
