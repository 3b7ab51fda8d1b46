import AttachmentFetch.Scene

/-! How steps compose: what a sequence comes to once its first part is known,
and which relations between the state before and the state after are kept. -/
namespace AttachmentFetch.Step

@[simp] theorem on_throw (error : ε) (state : σ) :
    (throw error : Step σ ε α).on state = (.error error, state) := rfl

@[simp] theorem on_get (state : σ) : (get : Step σ ε σ).on state = (.ok state, state) := rfl

@[simp] theorem on_reads (f : σ → Except ε α) (state : σ) :
    (reads f).on state = (f state, state) := rfl

theorem on_bind (first : Step σ ε α) (next : α → Step σ ε β) (state : σ) :
    (first >>= next).on state =
      match first.on state with
      | (.ok value, after) => (next value).on after
      | (.error error, after) => (.error error, after) := by
  change ExceptT.bindCont next (first state).1 (first state).2 = _
  unfold on
  rcases first state with ⟨_ | _, _⟩ <;> rfl

@[simp] theorem on_mapError (f : ε → ε') (step : Step σ ε α) (state : σ) :
    (step.mapError f).on state = ((step.on state).1.mapError f, (step.on state).2) := by
  unfold on mapError
  rcases step state with ⟨_ | _, _⟩ <;> rfl

@[simp] theorem on_outcome (step : Step σ ε α) (state : σ) :
    (step.outcome : Step σ ε' (Except ε α)).on state =
      (.ok (step.on state).1, (step.on state).2) := rfl

@[simp] theorem on_within (get : τ → σ) (set : σ → τ → τ) (step : Step σ ε α) (state : τ) :
    (within get set step).on state =
      ((step.on (get state)).1, set (step.on (get state)).2 state) := rfl

@[simp] theorem on_onDisk (call : Disk.Call α) (scene : Scene ρ) :
    (Scene.onDisk call).on scene =
      ((call.on scene.disk).1, { scene with disk := (call.on scene.disk).2 }) := rfl

@[simp] theorem on_onRest (step : Step ρ ε α) (scene : Scene ρ) :
    (Scene.onRest step).on scene =
      ((step.on scene.rest).1, { scene with rest := (step.on scene.rest).2 }) := rfl

section Sequence
variable {first : Step σ ε α} {next : α → Step σ ε β} {state after : σ}

theorem bind_of_ok {value : α} {middle : σ} (h : first.on state = (.ok value, middle)) :
    (first >>= next).on state = (next value).on middle := by
  rw [on_bind, h]

theorem bind_of_error {error : ε} (h : first.on state = (.error error, after)) :
    (first >>= next).on state = (.error error, after) := by
  rw [on_bind, h]

theorem bind_ok {value : β} (h : (first >>= next).on state = (.ok value, after)) :
    ∃ given middle, first.on state = (.ok given, middle) ∧
      (next given).on middle = (.ok value, after) := by
  rcases ran : first.on state with ⟨_ | given, middle⟩
  · rw [bind_of_error ran] at h
    cases h
  · rw [bind_of_ok ran] at h
    exact ⟨given, middle, rfl, h⟩

theorem bind_error {error : ε} (h : (first >>= next).on state = (.error error, after)) :
    first.on state = (.error error, after) ∨
      ∃ given middle, first.on state = (.ok given, middle) ∧
        (next given).on middle = (.error error, after) := by
  rcases ran : first.on state with ⟨_ | given, middle⟩
  · rw [bind_of_error ran] at h
    cases h
    exact .inl rfl
  · rw [bind_of_ok ran] at h
    exact .inr ⟨given, middle, rfl, h⟩

theorem mapError_of_ok (f : ε → ε') {value : α} (h : first.on state = (.ok value, after)) :
    (first.mapError f).on state = (.ok value, after) := by
  rw [on_mapError, h]
  rfl

theorem mapError_of_error (f : ε → ε') {error : ε}
    (h : first.on state = (.error error, after)) :
    (first.mapError f).on state = (.error (f error), after) := by
  rw [on_mapError, h]
  rfl

theorem mapError_ok {f : ε → ε'} {value : α}
    (h : (first.mapError f).on state = (.ok value, after)) :
    first.on state = (.ok value, after) := by
  rw [on_mapError] at h
  rcases ran : first.on state with ⟨_ | _, _⟩ <;> rw [ran] at h <;> cases h
  rfl

theorem mapError_error {f : ε → ε'} {error : ε'}
    (h : (first.mapError f).on state = (.error error, after)) :
    ∃ cause, error = f cause ∧ first.on state = (.error cause, after) := by
  rw [on_mapError] at h
  rcases ran : first.on state with ⟨cause | _, _⟩ <;> rw [ran] at h <;> cases h
  exact ⟨cause, rfl, rfl⟩

end Sequence

section OnDisk
variable {call : Disk.Call α} {scene after : Scene ρ}

theorem onDisk_of_ok {value : α} {disk : Disk} (h : call.on scene.disk = (.ok value, disk)) :
    (Scene.onDisk call).on scene = (.ok value, { scene with disk }) := by
  rw [on_onDisk, h]

theorem onDisk_ok {value : α} (h : (Scene.onDisk call).on scene = (.ok value, after)) :
    ∃ disk, call.on scene.disk = (.ok value, disk) ∧ after = { scene with disk } := by
  rw [on_onDisk] at h
  rcases ran : call.on scene.disk with ⟨_ | _, disk⟩ <;> rw [ran] at h <;> cases h
  exact ⟨disk, rfl, rfl⟩

theorem onDisk_error {error : IoError}
    (h : (Scene.onDisk call).on scene = (.error error, after)) :
    ∃ disk, call.on scene.disk = (.error error, disk) ∧ after = { scene with disk } := by
  rw [on_onDisk] at h
  rcases ran : call.on scene.disk with ⟨_ | _, disk⟩ <;> rw [ran] at h <;> cases h
  exact ⟨disk, rfl, rfl⟩

theorem bind_onDisk_ok {next : α → Step (Scene ρ) IoError β} {value : β}
    (h : (Scene.onDisk call >>= next).on scene = (.ok value, after)) :
    ∃ given disk, call.on scene.disk = (.ok given, disk) ∧
      (next given).on { scene with disk } = (.ok value, after) := by
  obtain ⟨given, middle, ran, h⟩ := bind_ok h
  obtain ⟨disk, called, rfl⟩ := onDisk_ok ran
  exact ⟨given, disk, called, h⟩

theorem bind_onDisk_error {next : α → Step (Scene ρ) IoError β} {error : IoError}
    (h : (Scene.onDisk call >>= next).on scene = (.error error, after)) :
    (∃ disk, call.on scene.disk = (.error error, disk) ∧ after = { scene with disk }) ∨
      ∃ given disk, call.on scene.disk = (.ok given, disk) ∧
        (next given).on { scene with disk } = (.error error, after) := by
  rcases bind_error h with h | ⟨given, middle, ran, h⟩
  · exact .inl (onDisk_error h)
  · obtain ⟨disk, called, rfl⟩ := onDisk_ok ran
    exact .inr ⟨given, disk, called, h⟩

end OnDisk

/-- Whatever comes of the step, the states before and after it are related. -/
def Keeps (R : σ → σ → Prop) (step : Step σ ε α) : Prop :=
  ∀ state, R state (step.on state).2

namespace Keeps
variable {R : σ → σ → Prop}

theorem related {step : Step σ ε α} {state after : σ} {result : Except ε α} (h : Keeps R step)
    (ran : step.on state = (result, after)) : R state after := by
  have related := h state
  rwa [ran] at related

theorem pure [Std.Refl R] (value : α) : Keeps R (Pure.pure value : Step σ ε α) :=
  fun state => Std.Refl.refl state

theorem throw_bind [Std.Refl R] (error : ε) (next : α → Step σ ε β) :
    Keeps R ((MonadExcept.throw error : Step σ ε α) >>= next) := by
  intro state
  rw [bind_of_error (on_throw error state)]
  exact Std.Refl.refl state

theorem bind_at [Trans R R R] {first : Step σ ε α} {next : α → Step σ ε β} {state : σ}
    (hfirst : R state (first.on state).2)
    (hnext : ∀ value middle, first.on state = (.ok value, middle) →
      R middle ((next value).on middle).2) :
    R state ((first >>= next).on state).2 := by
  rcases ran : first.on state with ⟨_ | value, middle⟩
  · rw [bind_of_error ran]
    rwa [ran] at hfirst
  · rw [bind_of_ok ran]
    rw [ran] at hfirst
    exact Trans.trans hfirst (hnext value middle ran)

theorem bind [Trans R R R] {first : Step σ ε α} {next : α → Step σ ε β}
    (hfirst : Keeps R first) (hnext : ∀ value, Keeps R (next value)) :
    Keeps R (first >>= next) :=
  fun state => bind_at (hfirst state) fun value middle _ => hnext value middle

theorem mapError {step : Step σ ε α} (f : ε → ε') (h : Keeps R step) :
    Keeps R (step.mapError f) := by
  intro state
  rw [on_mapError]
  exact h state

theorem outcome {step : Step σ ε α} (h : Keeps R step) :
    Keeps R (step.outcome : Step σ ε' (Except ε α)) := h

end Keeps

def Fails (kind : ε → Prop) (step : Step σ ε α) (state : σ) : Prop :=
  ∃ error, (step.on state).1 = .error error ∧ kind error

section Fails
variable {kind : ε → Prop} {first : Step σ ε α} {next : α → Step σ ε β} {state : σ}

theorem fails_bind : Fails kind (first >>= next) state ↔
    Fails kind first state ∨
      ∃ value middle, first.on state = (.ok value, middle) ∧ Fails kind (next value) middle := by
  unfold Fails
  rcases ran : first.on state with ⟨error | value, middle⟩
  · simp [bind_of_error ran]
  · rw [bind_of_ok ran]
    constructor
    · intro failed
      exact .inr ⟨value, middle, rfl, failed⟩
    · rintro (⟨_, ⟨⟩, _⟩ | ⟨_, _, ⟨⟩, failed⟩)
      exact failed

theorem fails_mapError {step : Step σ ε' α} {f : ε' → ε} :
    Fails kind (step.mapError f) state ↔ Fails (fun error => kind (f error)) step state := by
  unfold Fails
  rw [on_mapError]
  rcases step.on state with ⟨error | value, after⟩
  · constructor
    · rintro ⟨_, ⟨⟩, here⟩
      exact ⟨error, rfl, here⟩
    · rintro ⟨_, ⟨⟩, here⟩
      exact ⟨f error, rfl, here⟩
  · constructor <;> rintro ⟨_, ⟨⟩, _⟩

theorem fails_reads {f : σ → Except ε α} :
    Fails kind (reads f) state ↔ ∃ error, f state = .error error ∧ kind error :=
  Iff.rfl

theorem not_fails_mapError {step : Step σ ε' α} {f : ε' → ε} (unkind : ∀ error, ¬kind (f error)) :
    ¬Fails kind (step.mapError f) state := by
  intro failed
  obtain ⟨error, -, here⟩ := fails_mapError.1 failed
  exact unkind error here

theorem not_fails_of_ok {value : α} (ran : (first.on state).1 = .ok value) :
    ¬Fails kind first state := by
  rintro ⟨error, failed, -⟩
  rw [ran] at failed
  cases failed

theorem not_fails_pure {value : α} : ¬Fails kind (Pure.pure value : Step σ ε α) state :=
  not_fails_of_ok rfl

end Fails

end AttachmentFetch.Step
