import AttachmentFetch.Proofs.Step

/-! Two runs side by side. What is claimed of both has to hold only where neither fails with an
error that excuses it, so that an error need not be ruled out before it could happen. -/
namespace AttachmentFetch.Step

/-- Two steps both fail with one error, or both succeed, and leave related states, unless one
of them fails with an error that is excused. -/
inductive Together (excused : ε → Prop) (failed : σ → σ → Prop) (ended : α → α → σ → σ → Prop)
    (step step' : Step σ ε α) (one other : σ) : Prop
  | excused (fails : Fails excused step one)
  | excused' (fails : Fails excused step' other)
  | failed {error after after'} (ran : step.on one = (.error error, after))
    (ran' : step'.on other = (.error error, after')) (related : failed after after')
  | ended {value value' after after'} (ran : step.on one = (.ok value, after))
    (ran' : step'.on other = (.ok value', after')) (related : ended value value' after after')

structure Likewise (R : σ → σ → Prop) (value value' : α) (one other : σ) : Prop where
  value : value = value'
  related : R one other

namespace Together
variable {excused more : ε → Prop} {failed : σ → σ → Prop} {ended : α → α → σ → σ → Prop}
  {step step' : Step σ ε α} {one other : σ}

theorem bind {first first' : Step σ ε α} {next next' : α → Step σ ε β}
    {finished : β → β → σ → σ → Prop} (h : Together excused failed ended first first' one other)
    (hnext : ∀ value value' middle middle', ended value value' middle middle' →
      Together excused failed finished (next value) (next' value') middle middle') :
    Together excused failed finished (first >>= next) (first' >>= next') one other := by
  cases h with
  | excused fails => exact .excused (fails_bind.2 (.inl fails))
  | excused' fails => exact .excused' (fails_bind.2 (.inl fails))
  | failed ran ran' related => exact .failed (bind_of_error ran) (bind_of_error ran') related
  | ended ran ran' related =>
    cases hnext _ _ _ _ related with
    | excused fails => exact .excused (fails_bind.2 (.inr ⟨_, _, ran, fails⟩))
    | excused' fails => exact .excused' (fails_bind.2 (.inr ⟨_, _, ran', fails⟩))
    | failed later later' related =>
      exact .failed ((bind_of_ok ran).trans later) ((bind_of_ok ran').trans later') related
    | ended later later' related =>
      exact .ended ((bind_of_ok ran).trans later) ((bind_of_ok ran').trans later') related

theorem mapError {excused : ε' → Prop} (f : ε → ε')
    (h : Together (fun error => excused (f error)) failed ended step step' one other) :
    Together excused failed ended (step.mapError f) (step'.mapError f) one other := by
  cases h with
  | excused fails => exact .excused (fails_mapError.2 fails)
  | excused' fails => exact .excused' (fails_mapError.2 fails)
  | failed ran ran' related =>
    exact .failed (mapError_of_error f ran) (mapError_of_error f ran') related
  | ended ran ran' related =>
    exact .ended (mapError_of_ok f ran) (mapError_of_ok f ran') related

theorem mono {finished : α → α → σ → σ → Prop}
    (h : Together excused failed ended step step' one other)
    (excuses : ∀ error, excused error → more error)
    (implies : ∀ value value' after after', ended value value' after after' →
      finished value value' after after') :
    Together more failed finished step step' one other := by
  cases h with
  | excused fails =>
    obtain ⟨error, failed, here⟩ := fails
    exact .excused ⟨error, failed, excuses error here⟩
  | excused' fails =>
    obtain ⟨error, failed, here⟩ := fails
    exact .excused' ⟨error, failed, excuses error here⟩
  | failed ran ran' related => exact .failed ran ran' related
  | ended ran ran' related => exact .ended ran ran' (implies _ _ _ _ related)

/-- Steps whose errors are all excused have to be looked at only where both succeed. -/
theorem of_ok (excuses : ∀ error, excused error)
    (h : ∀ value value' after after', step.on one = (.ok value, after) →
      step'.on other = (.ok value', after') → ended value value' after after') :
    Together excused failed ended step step' one other := by
  rcases ran : step.on one with ⟨error | value, after⟩
  · exact .excused ⟨error, congrArg Prod.fst ran, excuses error⟩
  rcases ran' : step'.on other with ⟨error | value', after'⟩
  · exact .excused' ⟨error, congrArg Prod.fst ran', excuses error⟩
  exact .ended ran ran' (h _ _ _ _ ran ran')

theorem calls {call call' : Disk.Call α} {one other : Scene ρ} {excused : ε → Prop}
    {failed : Scene ρ → Scene ρ → Prop} {ended : α → α → Scene ρ → Scene ρ → Prop}
    (f : IoError → ε) (excuses : ∀ error, excused (f error))
    (h : ∀ value value' disk disk', call.on one.disk = (.ok value, disk) →
      call'.on other.disk = (.ok value', disk') →
      ended value value' { one with disk } { other with disk := disk' }) :
    Together excused failed ended ((Scene.onDisk call).mapError f)
      ((Scene.onDisk call').mapError f) one other := by
  refine .mapError f (.of_ok excuses fun value value' after after' ran ran' => ?_)
  obtain ⟨disk, called, rfl⟩ := onDisk_ok ran
  obtain ⟨disk', called', rfl⟩ := onDisk_ok ran'
  exact h value value' disk disk' called called'

theorem given (result : Except ε α) (related : failed one other)
    (same : ∀ value, result = .ok value → ended value value one other) :
    Together excused failed ended (reads fun _ => result) (reads fun _ => result) one other := by
  cases result with
  | error error => exact .failed rfl rfl related
  | ok value => exact .ended rfl rfl (same value rfl)

/-- Steps that nothing excuses come to the same. -/
theorem same {step step' : Step σ ε Unit} {R : σ → σ → Prop}
    (h : Together excused R (fun _ _ => R) step step' one other)
    (steady : ¬Fails excused step one) (steady' : ¬Fails excused step' other) :
    (step.on one).1 = (step'.on other).1 ∧ R (step.on one).2 (step'.on other).2 := by
  cases h with
  | excused fails => exact absurd fails steady
  | excused' fails => exact absurd fails steady'
  | failed ran ran' related | ended ran ran' related =>
    rw [ran, ran']
    exact ⟨rfl, related⟩

end Together

end AttachmentFetch.Step
