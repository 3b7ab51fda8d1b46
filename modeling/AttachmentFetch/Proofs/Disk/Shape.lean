import AttachmentFetch.Proofs.Disk.Directory

/-! The shape of a disk: where its directories and files are, whatever the files hold.
Whether directories and files can be made and moved depends on the shape alone. -/
namespace AttachmentFetch

def Node.emptied : Node → Node
  | .directory => .directory
  | .file _ => .file []

namespace Disk

/-- The disks differ at most in what files hold, and in the names that were given out. -/
structure SameShape (first second : Disk) : Prop where
  workingDirectory : second.workingDirectory = first.workingDirectory
  faults : second.faults = first.faults
  nodes : ∀ place, (second.node? place).map Node.emptied = (first.node? place).map Node.emptied

/-- On disks of one shape the call has one result, and leaves disks of one shape. -/
def ByShape (call : Call α) : Prop :=
  ∀ first second, SameShape first second → (call.on second).1 = (call.on first).1 ∧
    SameShape (call.on first).2 (call.on second).2

namespace SameShape
variable {first second third : Disk}

theorem refl (disk : Disk) : SameShape disk disk := ⟨rfl, rfl, fun _ => rfl⟩

theorem trans (h : SameShape first second) (h' : SameShape second third) :
    SameShape first third :=
  ⟨h'.workingDirectory.trans h.workingDirectory, h'.faults.trans h.faults,
    fun place => (h'.nodes place).trans (h.nodes place)⟩

theorem node_cases (same : SameShape first second) (place : Place) :
    (first.node? place = none ∧ second.node? place = none) ∨
      (first.node? place = some .directory ∧ second.node? place = some .directory) ∨
      ∃ content content', first.node? place = some (.file content) ∧
        second.node? place = some (.file content') := by
  have nodes := same.nodes place
  generalize first.node? place = node, second.node? place = node' at nodes ⊢
  rcases node with _ | _ | content <;> rcases node' with _ | _ | content' <;>
    simp_all [Node.emptied]

theorem walk (same : SameShape first second) (place : Place) (names : List String) :
    second.walk place names = first.walk place names := by
  induction names generalizing place with
  | nil => rfl
  | cons name rest ih =>
    unfold Disk.walk
    rcases same.node_cases (enter place name) with ⟨h, h'⟩ | ⟨h, h'⟩ | ⟨_, _, h, h'⟩ <;>
      cases rest <;> simp only [h, h', ih]

theorem locate (same : SameShape first second) (path : String) :
    second.locate path = first.locate path := by
  unfold Disk.locate
  rw [same.workingDirectory]
  split
  · rfl
  split
  · rfl
  split
  · rfl
  rw [same.walk]
  split
  · rfl
  next place _ =>
    rcases same.node_cases place with ⟨h, h'⟩ | ⟨h, h'⟩ | ⟨_, _, h, h'⟩ <;>
      cases path.endsWith "/" <;> simp only [h, h']

theorem target (same : SameShape first second) (path : String) :
    second.target path = first.target path := by
  rw [Disk.target, Disk.target, same.workingDirectory]

theorem find_cases (same : SameShape first second) (path : String) :
    (∃ error, first.find path = .error error ∧ second.find path = .error error) ∨
      (first.find path = .ok .directory ∧ second.find path = .ok .directory) ∨
      ∃ content content', first.find path = .ok (.file content) ∧
        second.find path = .ok (.file content') := by
  unfold Disk.find
  rw [same.locate]
  cases first.locate path with
  | error error => exact .inl ⟨error, rfl, rfl⟩
  | ok place =>
    rcases same.node_cases place with ⟨h, h'⟩ | ⟨h, h'⟩ | ⟨_, _, h, h'⟩ <;> simp [h, h']

theorem isDirectory (same : SameShape first second) (path : String) :
    second.isDirectory path = first.isDirectory path := by
  rcases same.find_cases path with ⟨_, h, h'⟩ | ⟨h, h'⟩ | ⟨_, _, h, h'⟩ <;>
    simp only [Disk.isDirectory, h, h']

theorem free (same : SameShape first second) (path : String) :
    second.free path = first.free path := by
  unfold Disk.free
  rw [same.locate]
  cases first.locate path with
  | error => rfl
  | ok place =>
    rcases same.node_cases place with ⟨h, h'⟩ | ⟨h, h'⟩ | ⟨_, _, h, h'⟩ <;>
      rcases same.node_cases place.dropLast with ⟨k, k'⟩ | ⟨k, k'⟩ | ⟨_, _, k, k'⟩ <;>
      simp only [h, h', k, k']

theorem erase (same : SameShape first second) {place : Place} (inside : place ≠ []) :
    SameShape (first.erase place) (second.erase place) := by
  refine ⟨same.workingDirectory, same.faults, fun other => ?_⟩
  rw [node?_erase _ inside, node?_erase _ inside]
  split
  · rfl
  · exact same.nodes other

theorem put (same : SameShape first second) {place : Place} (inside : place ≠ [])
    {node node' : Node} (alike : node'.emptied = node.emptied) :
    SameShape (first.put place node) (second.put place node') := by
  refine ⟨same.workingDirectory, same.faults, fun other => ?_⟩
  rw [node?_put _ inside, node?_put _ inside]
  split
  · exact congrArg some alike
  · exact same.nodes other

theorem refill {disk : Disk} {place : Place} {content : Bytes}
    (held : disk.node? place = some (.file content)) (bytes : Bytes) :
    SameShape disk (disk.put place (.file bytes)) := by
  refine ⟨rfl, rfl, fun other => ?_⟩
  rw [node?_put _ (ne_root_of_file held)]
  split
  next here => rw [here, held]; rfl
  next => rfl

theorem started (same : SameShape first second) : SameShape first.started second.started :=
  ⟨same.workingDirectory, congrArg List.tail same.faults, same.nodes⟩

end SameShape

inductive SameResult : Except IoError (α × Disk) → Except IoError (α × Disk) → Prop
  | ok (value : α) {first second : Disk} (same : SameShape first second) :
    SameResult (.ok (value, first)) (.ok (value, second))
  | error (error : IoError) : SameResult (.error error) (.error error)

namespace ByShape

theorem result {call : Call α} (h : ByShape call) {first second after : Disk}
    {result : Except IoError α} (same : SameShape first second)
    (ran : call.on first = (result, after)) : (call.on second).1 = result := by
  rw [(h first second same).1, ran]

theorem pure (value : α) : ByShape (Pure.pure value : Call α) := fun _ _ same => ⟨rfl, same⟩

theorem throw (error : IoError) : ByShape (MonadExcept.throw error : Call α) :=
  fun _ _ same => ⟨rfl, same⟩

theorem bind {call : Call α} {next : α → Call β} (h : ByShape call)
    (h' : ∀ value, ByShape (next value)) : ByShape (call >>= next) := by
  intro first second same
  have called := h first second same
  rw [Step.on_bind, Step.on_bind]
  generalize call.on first = ran, call.on second = ran' at called ⊢
  obtain ⟨result, first'⟩ := ran
  obtain ⟨result', second'⟩ := ran'
  obtain ⟨rfl, after⟩ : result' = result ∧ SameShape first' second' := called
  cases result' with
  | error => exact ⟨rfl, after⟩
  | ok value => exact h' value first' second' after

theorem outcome {call : Call α} (h : ByShape call) :
    ByShape (Step.outcome call : Call (Except IoError α)) := by
  intro first second same
  obtain ⟨results, after⟩ := h first second same
  exact ⟨congrArg Except.ok results, after⟩

theorem faultable {call : Disk → Except IoError (α × Disk)}
    (h : ∀ first second, SameShape first second → SameResult (call first) (call second)) :
    ByShape (Disk.faultable call) := by
  intro first second same
  have result := h _ _ same.started
  cases fault : first.faults.head?.join with
  | some fault' =>
    have fault := fault
    rw [faultable_of_fault fault]
    rw [← same.faults] at fault
    rw [faultable_of_fault fault]
    exact ⟨rfl, same.started⟩
  | none =>
    have fault' := fault
    rw [← same.faults] at fault'
    rw [faultable_of_none fault, faultable_of_none fault']
    revert result
    rcases call first.started with _ | ⟨_, _⟩ <;> rcases call second.started with _ | ⟨_, _⟩ <;>
      rintro (_ | _)
    · exact ⟨rfl, same.started⟩
    · exact ⟨rfl, by assumption⟩

end ByShape

theorem makeDirectory_byShape (path : String) : ByShape (makeDirectory path) := by
  refine .faultable fun first second same => ?_
  rw [same.free]
  cases found : first.free path with
  | error error => exact .error error
  | ok place =>
    exact .ok () (same.put (ne_root_of_none (free_eq_ok found).2) rfl)

theorem putNew_sameResult {first second : Disk} (same : SameShape first second) (path : String) :
    SameResult
      (do let place ← first.free path; return (place, first.put place (.file [])))
      (do let place ← second.free path; return (place, second.put place (.file []))) := by
  rw [same.free]
  cases found : first.free path with
  | error error => exact .error error
  | ok place => exact .ok place (same.put (ne_root_of_none (free_eq_ok found).2) rfl)

theorem create_byShape (path : String) : ByShape (create path) := by
  refine .faultable fun first second same => ?_
  rcases same.find_cases path with ⟨error, h, h'⟩ | ⟨h, h'⟩ | ⟨_, _, h, h'⟩
  · simp only [h, h']
    split
    · contradiction
    · contradiction
    · exact putNew_sameResult same path
    · exact .error _
  · simp only [h, h']
    exact .error _
  · have located := (find_eq_ok h).1
    have located' := (find_eq_ok h').1
    have inside := ne_root_of_file (find_eq_ok h).2
    simp only [h, h', located, located', same.target]
    exact .ok _ (same.put inside rfl)

theorem rename_byShape (source target : String) : ByShape (rename source target) := by
  refine .faultable fun first second same => ?_
  rcases same.find_cases source with ⟨error, h, h'⟩ | ⟨h, h'⟩ | ⟨_, _, h, h'⟩
  · simp only [h, h']
    exact .error _
  · simp only [h, h']
    exact .error _
  · have located := (find_eq_ok h).1
    have located' := (find_eq_ok h').1
    rw [same.target] at located'
    have inside := ne_root_of_file (find_eq_ok h).2
    rcases same.find_cases target with ⟨error, k, k'⟩ | ⟨k, k'⟩ | ⟨_, _, k, k'⟩
    · by_cases gone : error = .noEntry
      · simp only [h, h', k, k', gone, IoError.noEntry, located, located', same.free]
        cases found : first.free target with
        | error error => exact .error error
        | ok place =>
          exact .ok () ((same.erase inside).put (ne_root_of_none (free_eq_ok found).2) rfl)
      · have other : error = .os 2 → False := gone
        simp only [h, h', k, k']
        exact .error error
    · simp only [h, h', k, k']
      exact .error _
    · have locatedTarget := (find_eq_ok k).1
      have locatedTarget' := (find_eq_ok k').1
      rw [same.target] at locatedTarget'
      have insideTarget := ne_root_of_file (find_eq_ok k).2
      simp only [h, h', k, k', located, located', locatedTarget, locatedTarget']
      refine .ok () ?_
      split
      · exact same
      · exact (same.erase inside).put insideTarget rfl

section Directories

theorem alreadyThere_byShape (error : IoError) (path : String) (value : α) :
    ByShape (do
      if error.kind = .alreadyExists ∧ (← get).isDirectory path then return value
      else throw error : Call α) := by
  intro first second same
  rw [Step.bind_of_ok (Step.on_get first), Step.bind_of_ok (Step.on_get second), same.isDirectory]
  split <;> exact ⟨rfl, same⟩

theorem reach_byShape (path : String) : ByShape (reach path) := by
  refine .bind (.outcome (makeDirectory_byShape path)) fun made => ?_
  cases made with
  | ok => exact .pure true
  | error error =>
    dsimp only
    split
    · exact .pure false
    · exact alreadyThere_byShape error path true

theorem missing_byShape (names : List String) : ByShape (missing names) := by
  induction names with
  | nil => exact .pure []
  | cons path rest ih =>
    refine .bind (reach_byShape path) fun reached => ?_
    split
    · exact .pure []
    · exact .bind ih fun more => .pure (path :: more)

theorem makeAll_byShape (names : List String) : ByShape (makeAll names) := by
  induction names with
  | nil => exact .pure ()
  | cons path rest ih =>
    refine .bind ih fun _ => .bind (.outcome (makeDirectory_byShape path)) fun made => ?_
    cases made with
    | ok => exact .pure ()
    | error error => exact alreadyThere_byShape error path ()

theorem makeDirectories_byShape (path : String) : ByShape (makeDirectories path) :=
  .bind (missing_byShape _) makeAll_byShape

end Directories

end Disk

end AttachmentFetch
