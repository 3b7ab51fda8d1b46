import AttachmentFetch.Proofs.Disk.Changes

/-! What comes of single calls: which files they touch and, when they succeed,
what is then where. A call that fails changes at most what an append had written. -/
namespace AttachmentFetch.Disk

/-- The disk when the next call has been started: its fault is used up. -/
def started (disk : Disk) : Disk := { disk with faults := disk.faults.tail }

section Started
variable (disk : Disk)

@[simp] theorem node?_started (place : Place) : disk.started.node? place = disk.node? place := rfl

@[simp] theorem file?_started (place : Place) : disk.started.file? place = disk.file? place := rfl

@[simp] theorem target_started (path : String) : disk.started.target path = disk.target path := rfl

theorem walk_congr {other : Disk} (same : ∀ place, other.node? place = disk.node? place)
    (place : Place) (names : List String) : other.walk place names = disk.walk place names := by
  induction names generalizing place with
  | nil => rfl
  | cons name rest ih =>
    unfold walk
    simp only [same, ih]

theorem locate_started (path : String) : disk.started.locate path = disk.locate path := by
  unfold locate
  rw [walk_congr disk (node?_started disk)]
  rfl

theorem find_started (path : String) : disk.started.find path = disk.find path := by
  unfold find
  rw [locate_started]
  rfl

theorem touchesOnly_started (paths : List String) : TouchesOnly paths disk disk.started :=
  .of_nodes paths rfl rfl

end Started

section Faultable
variable {call : Disk → Except IoError (α × Disk)} {disk after : Disk}

theorem faultable_ok {value : α} (h : (faultable call).on disk = (.ok value, after)) :
    call disk.started = .ok (value, after) := by
  unfold faultable Step.on at h
  change _ = _ at h
  dsimp only at h
  split at h
  · cases h
  · split at h
    next made =>
      cases h
      exact made
    next => cases h

theorem faultable_error {error : IoError} (h : (faultable call).on disk = (.error error, after)) :
    after = disk.started := by
  unfold faultable Step.on at h
  dsimp only at h
  split at h
  · cases h
    rfl
  · split at h
    next => cases h
    next =>
      cases h
      rfl

theorem faultable_of_fault {fault : DiskFault} (h : disk.faults.head?.join = some fault) :
    (faultable call).on disk = (.error fault.error, disk.started) := by
  unfold faultable Step.on
  rcases faults : disk.faults with _ | ⟨_ | _, rest⟩ <;> simp_all [started]

theorem faultable_of_none (h : disk.faults.head?.join = none) :
    (faultable call).on disk =
      match call disk.started with
      | .ok (value, after) => (.ok value, after)
      | .error error => (.error error, disk.started) := by
  unfold faultable Step.on
  dsimp only
  split
  next fault rest faults => simp [faults] at h
  next => rfl

/-- What a call touches is what it touches when it succeeds. -/
theorem keeps_of_ok {paths : List String}
    (made : ∀ {disk after value}, (faultable call).on disk = (.ok value, after) →
      TouchesOnly paths disk after) : Step.Keeps (TouchesOnly paths) (faultable call) := by
  intro disk
  rcases ran : (faultable call).on disk with ⟨_ | value, after⟩
  · rw [faultable_error ran]
    exact touchesOnly_started disk paths
  · exact made ran

theorem faultable_keeps {paths : List String}
    (made : ∀ {disk after value}, call disk = .ok (value, after) → TouchesOnly paths disk after) :
    Step.Keeps (TouchesOnly paths) (faultable call) := by
  apply keeps_of_ok
  intro disk after value ran
  exact (touchesOnly_started disk paths).trans (made (faultable_ok ran))

theorem started_of_ok
    (made : ∀ {value after}, (faultable call).on disk = (.ok value, after) →
      after = disk.started) : ((faultable call).on disk).2 = disk.started := by
  rcases ran : (faultable call).on disk with ⟨_ | value, after⟩
  · exact faultable_error ran
  · exact made ran

end Faultable

theorem free_eq_ok {disk : Disk} {path : String} {place : Place} (h : disk.free path = .ok place) :
    disk.locate path = .ok place ∧ disk.node? place = none := by
  unfold free at h
  split at h
  · cases h
  next located =>
    split at h <;> cases h
    next nothing _ => exact ⟨located, nothing⟩

theorem free_parent {disk : Disk} {path : String} {place : Place} (h : disk.free path = .ok place) :
    disk.node? place.dropLast = some .directory := by
  unfold free at h
  split at h
  · cases h
  · split at h <;> cases h
    next parent => exact parent

theorem find_eq_ok {disk : Disk} {path : String} {node : Node} (h : disk.find path = .ok node) :
    disk.locate path = .ok (disk.target path) ∧ disk.node? (disk.target path) = some node := by
  unfold find at h
  split at h
  · cases h
  next place located =>
    obtain rfl := locate_eq_target located
    split at h <;> cases h
    next found => exact ⟨located, found⟩

theorem makeDirectory_keeps (paths : List String) (path : String) :
    Step.Keeps (TouchesOnly paths) (makeDirectory path) := by
  apply faultable_keeps
  intro disk after value made
  cases found : disk.free path with
  | error =>
    rw [found] at made
    cases made
  | ok place =>
    rw [found] at made
    cases made
    exact .put_directory (free_eq_ok found).2

theorem free_put {disk after : Disk} {path : String} {place : Place}
    (made : (do
      let place ← disk.free path
      return (place, disk.put place (.file [])) : Except IoError (Place × Disk)) =
      .ok (place, after)) :
    place = disk.target path ∧ after.file? place = some [] ∧ TouchesOnly [path] disk after := by
  cases found : disk.free path with
  | error =>
    rw [found] at made
    cases made
  | ok free =>
    rw [found] at made
    cases made
    obtain ⟨located, nothing⟩ := free_eq_ok found
    have here := locate_eq_target located
    have inside := ne_root_of_none nothing
    refine ⟨here, ?_, .put_file (by simp) here (by simp [nothing]) []⟩
    rw [file?_eq_some, node?_put _ inside, if_pos rfl]

theorem createNew_keeps (path : String) :
    Step.Keeps (TouchesOnly [path]) (createNew path) :=
  faultable_keeps fun made => (free_put made).2.2

section Create
variable {disk after : Disk} {path : String} {place : Place}

theorem createNew_ok (h : (createNew path).on disk = (.ok place, after)) :
    place = disk.target path ∧ disk.node? place = none ∧ disk.locate path = .ok place := by
  have made := faultable_ok h
  cases found : disk.started.free path with
  | error =>
    rw [found] at made
    cases made
  | ok free =>
    rw [found] at made
    cases made
    obtain ⟨located, nothing⟩ := free_eq_ok found
    rw [locate_started] at located
    exact ⟨locate_eq_target located, nothing, located⟩

theorem createNew_parent (h : (createNew path).on disk = (.ok place, after)) :
    disk.node? place.dropLast = some .directory := by
  have made := faultable_ok h
  cases found : disk.started.free path with
  | error =>
    rw [found] at made
    cases made
  | ok free =>
    rw [found] at made
    cases made
    have parent := free_parent found
    rwa [node?_started] at parent

theorem create_ok (h : (create path).on disk = (.ok place, after)) :
    place = disk.target path ∧ after.file? place = some [] ∧ TouchesOnly [path] disk after := by
  have start := touchesOnly_started disk [path]
  have made := faultable_ok h
  suffices place = disk.started.target path ∧ after.file? place = some [] ∧
      TouchesOnly [path] disk.started after from
    ⟨this.1, this.2.1, start.trans this.2.2⟩
  split at made
  · cases made
  next content found =>
    obtain ⟨located, node⟩ := find_eq_ok found
    rw [located] at made
    cases made
    have inside := ne_root_of_file node
    refine ⟨rfl, ?_, .put_file (by simp) rfl (by rw [node]; simp) []⟩
    rw [file?_eq_some, node?_put _ inside, if_pos rfl]
  · exact free_put made
  · cases made

theorem create_keeps (path : String) : Step.Keeps (TouchesOnly [path]) (create path) :=
  keeps_of_ok fun ran => (create_ok ran).2.2

end Create

section Append
variable {disk : Disk} {path : String} {place : Place}

variable (disk) in
theorem touchesOnly_extend (here : place = disk.target path) (bytes : Bytes) :
    TouchesOnly [path] disk (disk.extend place bytes) := by
  unfold extend
  split
  next content found => exact .put_file (by simp) here (by simp [found]) _
  next => exact Std.Refl.refl disk

theorem file?_extend {content : Bytes} (found : disk.file? place = some content) (bytes : Bytes) :
    (disk.extend place bytes).file? place = some (content ++ bytes) := by
  rw [file?_eq_some] at found
  have inside := ne_root_of_file found
  simp only [extend, found]
  rw [file?_eq_some, node?_put _ inside, if_pos rfl]

theorem append_touches (here : place = disk.target path) (bytes : Bytes) :
    TouchesOnly [path] disk ((append place bytes).on disk).2 := by
  unfold append Step.on
  dsimp only
  split
  next fault faults _ =>
    have start : TouchesOnly [path] disk { disk with faults } := .of_nodes _ rfl rfl
    exact start.trans (touchesOnly_extend { disk with faults } here _)
  next =>
    exact (touchesOnly_started disk [path]).trans (touchesOnly_extend disk.started here _)

theorem append_touches_ok (here : place = disk.target path) {result : Except IoError Unit}
    {after : Disk} {bytes : Bytes} (h : (append place bytes).on disk = (result, after)) :
    TouchesOnly [path] disk after := by
  have touches := append_touches here bytes
  rwa [h] at touches

theorem append_ok {after : Disk} {content bytes : Bytes}
    (found : disk.file? place = some content)
    (h : (append place bytes).on disk = (.ok (), after)) :
    after.file? place = some (content ++ bytes) := by
  unfold append Step.on at h
  dsimp only at h
  split at h
  · cases h
  · cases h
    exact file?_extend (disk.file?_started place ▸ found) bytes

end Append

theorem sync_ok {place : Place} {disk after : Disk} (h : (sync place).on disk = (.ok (), after)) :
    after = disk.started := by
  have made := faultable_ok h
  cases made
  rfl

theorem sync_on (place : Place) (disk : Disk) : ((sync place).on disk).2 = disk.started :=
  started_of_ok fun ran => @sync_ok place disk _ ran

theorem read_ok {disk after : Disk} {path : String} {bytes : Bytes}
    (h : (read path).on disk = (.ok bytes, after)) :
    disk.file? (disk.target path) = some bytes ∧ after = disk.started := by
  have made := faultable_ok h
  split at made <;> cases made
  next found => exact ⟨file?_eq_some.2 (find_eq_ok found).2, rfl⟩

theorem read_on (path : String) (disk : Disk) : ((read path).on disk).2 = disk.started :=
  started_of_ok fun ran => (read_ok ran).2

theorem openToRead_ok {disk after : Disk} {path : String} {place : Place}
    (h : (openToRead path).on disk = (.ok place, after)) :
    place = disk.target path ∧ after = disk.started := by
  have made := faultable_ok h
  split at made
  next found =>
    rw [(find_eq_ok found).1] at made
    cases made
    exact ⟨rfl, rfl⟩
  next => cases made

theorem openToRead_on (path : String) (disk : Disk) :
    ((openToRead path).on disk).2 = disk.started :=
  started_of_ok fun ran => (openToRead_ok ran).2

/-- What is read of a file is all that it holds, or the beginning of it and an error. -/
theorem drain_on {disk : Disk} {place : Place} {content : Bytes}
    (found : disk.file? place = some content) :
    (drain place).on disk = (.ok (content, none), disk.started) ∨
      ∃ fault, some fault ∈ disk.faults ∧ (drain place).on disk =
        (.ok (content.take fault.written, some fault.error), disk.started) := by
  rw [file?_eq_some] at found
  unfold drain Step.on
  simp only [found]
  split
  next fault _ faults =>
    have listed : some fault ∈ disk.faults := by simp [faults]
    exact .inr ⟨fault, listed, rfl⟩
  next => exact .inl rfl

theorem drain_ok {disk after : Disk} {place : Place} {content : Bytes}
    {drained : Bytes × Option IoError} (found : disk.file? place = some content)
    (ran : (drain place).on disk = (.ok drained, after)) :
    after = disk.started ∧ (drained.2 = none → drained.1 = content) := by
  rcases drain_on found with whole | ⟨fault, -, cut⟩
  · cases ran.symm.trans whole
    exact ⟨rfl, fun _ => rfl⟩
  · cases ran.symm.trans cut
    exact ⟨rfl, nofun⟩

theorem drain_state (place : Place) (disk : Disk) :
    ((drain place).on disk).2 = disk.started := by
  unfold drain Step.on
  dsimp only
  split <;> rfl

section Remove
variable {disk after : Disk} {path : String}

theorem remove_ok (h : (remove path).on disk = (.ok (), after)) :
    after.file? (disk.target path) = none ∧ TouchesOnly [path] disk after := by
  have made := faultable_ok h
  split at made
  next content found =>
    obtain ⟨located, node⟩ := find_eq_ok found
    rw [located] at made
    cases made
    have inside := ne_root_of_file node
    have start := touchesOnly_started disk [path]
    refine ⟨file?_of_node? ?_, start.trans (.erase_file (by simp) rfl node)⟩
    rw [node?_erase _ inside, target_started, if_pos rfl]
    simp
  · cases made
  · cases made

theorem remove_keeps (path : String) : Step.Keeps (TouchesOnly [path]) (remove path) :=
  keeps_of_ok fun ran => (remove_ok ran).2

theorem remove_of_find {content : Bytes} (found : disk.find path = .ok (.file content))
    (spared : disk.faults.head?.join = none) :
    ∃ after, (remove path).on disk = (.ok (), after) := by
  have located := (find_eq_ok found).1
  rw [← find_started] at found
  rw [← locate_started] at located
  unfold remove
  rw [faultable_of_none spared]
  simp only [found, located]
  exact ⟨_, rfl⟩

end Remove

theorem move_file {disk : Disk} {source target : String} {content : Bytes}
    (held : disk.node? (disk.target source) = some (.file content))
    (notDirectory : disk.node? (disk.target target) ≠ some .directory) :
    ((disk.erase (disk.target source)).put (disk.target target) (.file content)).file?
        (disk.target target) = some content ∧
      TouchesOnly [source, target] disk
        ((disk.erase (disk.target source)).put (disk.target target) (.file content)) := by
  have inside := ne_root notDirectory
  have taken : TouchesOnly [source, target] disk (disk.erase (disk.target source)) :=
    .erase_file (by simp) rfl held
  have listed : target ∈ [source, target] := List.mem_cons_of_mem _ (List.mem_singleton_self target)
  refine ⟨?_, taken.trans (.put_file listed rfl ?_ content)⟩
  · rw [file?_eq_some, node?_put _ inside, if_pos rfl]
  · have insideSource := ne_root_of_file held
    rw [node?_erase _ insideSource]
    split
    · simp
    · exact notDirectory

theorem moved_source {disk : Disk} {source target : Place} {content : Bytes} {node : Node}
    (held : disk.node? source = some (.file content)) (inside : target ≠ [])
    (apart : source ≠ target) : ((disk.erase source).put target node).file? source = none := by
  apply file?_of_node?
  rw [node?_put _ inside, if_neg apart, node?_erase _ (ne_root_of_file held), if_pos rfl]
  simp

section Rename
variable {disk after : Disk} {source target : String}

theorem rename_ok (h : (rename source target).on disk = (.ok (), after)) :
    ∃ content, disk.file? (disk.target source) = some content ∧
      disk.locate target = .ok (disk.target target) ∧
      after.file? (disk.target target) = some content ∧
      TouchesOnly [source, target] disk after := by
  have start := touchesOnly_started disk [source, target]
  have made := faultable_ok h
  suffices ∃ content, disk.started.file? (disk.started.target source) = some content ∧
      disk.started.locate target = .ok (disk.started.target target) ∧
      after.file? (disk.started.target target) = some content ∧
      TouchesOnly [source, target] disk.started after by
    obtain ⟨content, held, located, moved, touches⟩ := this
    exact ⟨content, held, locate_started disk target ▸ located, moved, start.trans touches⟩
  generalize disk.started = disk at made ⊢
  split at made
  · cases made
  · cases made
  · cases made
  next content _ foundSource foundTarget =>
    obtain ⟨locatedSource, nodeSource⟩ := find_eq_ok foundSource
    obtain ⟨locatedTarget, nodeTarget⟩ := find_eq_ok foundTarget
    rw [locatedSource, locatedTarget] at made
    refine ⟨content, file?_eq_some.2 nodeSource, locatedTarget, ?_⟩
    -- Two paths may lead to one place, and a file that is renamed to itself stays.
    by_cases same : disk.target source = disk.target target
    · simp only [bind, Except.bind, pure, Except.pure, same, if_true] at made
      cases made
      exact ⟨file?_eq_some.2 (same ▸ nodeSource), Std.Refl.refl after⟩
    · simp only [bind, Except.bind, pure, Except.pure, same, if_false] at made
      cases made
      exact move_file nodeSource (by rw [nodeTarget]; simp)
  next content foundSource _ =>
    obtain ⟨locatedSource, nodeSource⟩ := find_eq_ok foundSource
    cases found : disk.free target with
    | error =>
      rw [locatedSource, found] at made
      cases made
    | ok place =>
      rw [locatedSource, found] at made
      cases made
      obtain ⟨locatedTarget, nothing⟩ := free_eq_ok found
      obtain rfl := locate_eq_target locatedTarget
      exact ⟨content, file?_eq_some.2 nodeSource, locatedTarget,
        move_file nodeSource (by rw [nothing]; simp)⟩
  · cases made

theorem rename_source (h : (rename source target).on disk = (.ok (), after))
    (apart : disk.target source ≠ disk.target target) :
    after.file? (disk.target source) = none := by
  have made := faultable_ok h
  have apart : disk.started.target source ≠ disk.started.target target := apart
  change after.file? (disk.started.target source) = none
  generalize disk.started = disk at made apart ⊢
  split at made
  · cases made
  · cases made
  · cases made
  next content _ foundSource foundTarget =>
    obtain ⟨locatedSource, nodeSource⟩ := find_eq_ok foundSource
    obtain ⟨locatedTarget, nodeTarget⟩ := find_eq_ok foundTarget
    rw [locatedSource, locatedTarget] at made
    simp only [bind, Except.bind, pure, Except.pure, apart, if_false] at made
    cases made
    exact moved_source nodeSource (ne_root_of_file nodeTarget) apart
  next content foundSource _ =>
    obtain ⟨locatedSource, nodeSource⟩ := find_eq_ok foundSource
    cases found : disk.free target with
    | error =>
      rw [locatedSource, found] at made
      cases made
    | ok place =>
      rw [locatedSource, found] at made
      cases made
      obtain ⟨locatedTarget, nothing⟩ := free_eq_ok found
      obtain rfl := locate_eq_target locatedTarget
      exact moved_source nodeSource (ne_root_of_none nothing) apart
  · cases made

end Rename

end AttachmentFetch.Disk
