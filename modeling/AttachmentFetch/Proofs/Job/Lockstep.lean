import AttachmentFetch.Proofs.Job.Retries

/-! Two workers in step. Where two jobs come out the same whenever both are executed, and a
relation between their scenes outlasts that, the workers that drive them report the same. -/
namespace AttachmentFetch

namespace Worker

/-- A relation between scenes that a worker cannot break by what it does itself. -/
structure Withstands (R : Scene ρ → Scene ρ → Prop) : Prop where
  record {one other : Scene ρ} (level : Level) (message : String)
    (fields : List (String × String)) : R one other → R (one.record level message fields) other
  record' {one other : Scene ρ} (level : Level) (message : String)
    (fields : List (String × String)) : R one other → R one (other.record level message fields)
  elapse {one other : Scene ρ} (span : Duration) : R one other →
    R (one.elapse span) (other.elapse span)

/-- Two jobs that differ at most in what comes of giving them up, wherever both are executed
in scenes that fit. -/
structure Matches (R : Scene ρ → Scene ρ → Prop) (fit : Scene ρ → Prop) (job job' : Job ρ ε) :
    Prop where
  label : job.label = job'.label
  factoryKey : job.factoryKey = job'.factoryKey
  maxFailures : job.maxFailures = job'.maxFailures
  errorText : job.errorText = job'.errorText
  execute {one other : Scene ρ} : R one other → fit one → fit other →
    (job.execute one).1 = (job'.execute other).1 ∧
      R (job.execute one).2 (job'.execute other).2
  hook {one other : Scene ρ} : R one other →
    R (job.onExhausted one).2 (job'.onExhausted other).2

theorem exhaust_hook (job : Job ρ ε) (error : ε) (failures : UInt32) (scene : Scene ρ) :
    ∃ fields, let after := (job.onExhausted
        (scene.record .error "Job exhausted its retries" fields)).2
      (exhaust job error failures scene).2 = after ∨ ∃ fields,
        (exhaust job error failures scene).2 =
          after.record .error "Failed to finalize exhausted job" fields := by
  refine ⟨[("failure_count", toString failures), ("max_failure_count", toString job.maxFailures),
    ("error", job.errorText error)], ?_⟩
  rcases hooked : job.onExhausted (scene.record .error "Job exhausted its retries" _) with
    ⟨hookError | _, after⟩
  · refine .inr ⟨[("error", hookError.outermost)], ?_⟩
    rw [exhaust]
    simp only [bind, StateT.bind, modify, modifyGet, MonadStateOf.modifyGet, StateT.modifyGet,
      pure, hooked]
  · refine .inl ?_
    rw [exhaust]
    simp only [bind, StateT.bind, modify, modifyGet, MonadStateOf.modifyGet, StateT.modifyGet,
      pure, hooked]
    rfl

/-- The scenes in which a worker executes a job, which it does as long as that fails and the
budget allows it. -/
def begins (job : Job ρ ε) (budget : RetryBudget) (failures : UInt32) (scene : Scene ρ) :
    List (Scene ρ) :=
  scene :: match job.execute scene with
    | (.failed error, after) =>
      let count := increment failures
      if _h : budget.allows count then
        begins job budget count (pause budget (job.errorText error) count after).2
      else []
    | _ => []
termination_by budget.maxFailures.toNat - failures.toNat
decreasing_by
  have below : increment failures < budget.maxFailures := by
    simpa [RetryBudget.allows] using _h
  have := UInt32.lt_iff_toNat_lt.1 (lt_increment below)
  have := UInt32.lt_iff_toNat_lt.1 below
  omega

section Begins
variable {job : Job ρ ε} {budget : RetryBudget} {failures : UInt32} {scene after : Scene ρ}

theorem mem_begins (job : Job ρ ε) (budget : RetryBudget) (failures : UInt32) (scene : Scene ρ) :
    scene ∈ begins job budget failures scene := by
  unfold begins
  exact List.mem_cons_self

theorem begins_of_allowed {error : ε} (ran : job.execute scene = (.failed error, after))
    (allowed : budget.allows (increment failures) = true) :
    begins job budget failures scene = scene :: begins job budget (increment failures)
      (pause budget (job.errorText error) (increment failures) after).2 := by
  rw [begins]
  simp only [ran, allowed, dite_true]

end Begins

section Matches
variable {R : Scene ρ → Scene ρ → Prop} {fit : Scene ρ → Prop} {job job' : Job ρ ε}
  {one other : Scene ρ}

theorem Withstands.exhaust (withstands : Withstands R) (matching : Matches R fit job job')
    (related : R one other) (error : ε) (failures : UInt32) :
    R (exhaust job error failures one).2 (exhaust job' error failures other).2 := by
  obtain ⟨fields, given⟩ := exhaust_hook job error failures one
  obtain ⟨fields', given'⟩ := exhaust_hook job' error failures other
  have hooked := matching.hook (withstands.record .error "Job exhausted its retries" fields
    (withstands.record' .error "Job exhausted its retries" fields' related))
  rcases given with given | ⟨_, given⟩ <;> rcases given' with given' | ⟨_, given'⟩ <;>
    rw [given, given']
  · exact hooked
  · exact withstands.record' _ _ _ hooked
  · exact withstands.record _ _ _ hooked
  · exact withstands.record _ _ _ (withstands.record' _ _ _ hooked)

theorem Withstands.retry (withstands : Withstands R) (matching : Matches R fit job job')
    (budget : RetryBudget) (failures attempts : UInt32) (related : R one other)
    (fits : ∀ scene ∈ begins job budget failures one, fit scene)
    (fits' : ∀ scene ∈ begins job' budget failures other, fit scene) :
    (retry job budget failures attempts one).1 = (retry job' budget failures attempts other).1 ∧
      R (retry job budget failures attempts one).2
        (retry job' budget failures attempts other).2 := by
  induction failures, attempts using Worker.retry.induct budget generalizing one other with
  | case1 failures attempts more =>
    rename_i again
    obtain ⟨same, related'⟩ := matching.execute related (fits one (mem_begins ..))
      (fits' other (mem_begins ..))
    rcases ran : job.execute one with ⟨outcome, after⟩
    rcases ran' : job'.execute other with ⟨outcome', after'⟩
    rw [ran, ran'] at same related'
    obtain rfl : outcome = outcome' := same
    cases outcome with
    | succeeded =>
      rw [retry_of_succeeded ran, retry_of_succeeded ran']
      exact ⟨rfl, withstands.record _ _ _ (withstands.record' _ _ _ related')⟩
    | failedPermanently error =>
      rw [retry_of_failedPermanently ran, retry_of_failedPermanently ran', matching.errorText]
      exact ⟨rfl, withstands.record _ _ _ (withstands.record' _ _ _ related')⟩
    | failed error =>
      cases allowed : budget.allows (increment failures) with
      | true =>
        rw [begins_of_allowed ran allowed] at fits
        rw [begins_of_allowed ran' allowed] at fits'
        rw [retry_of_allowed ran allowed, retry_of_allowed ran' allowed]
        exact again allowed
          (withstands.elapse _ (withstands.record _ _ _ (withstands.record' _ _ _ related')))
          (fun scene listed => fits scene (List.mem_cons_of_mem _ listed))
          fun scene listed => fits' scene (List.mem_cons_of_mem _ listed)
      | false =>
        rw [retry_of_spent ran allowed, retry_of_spent ran' allowed, matching.errorText]
        exact ⟨rfl, withstands.exhaust matching related' error _⟩

theorem Withstands.process (withstands : Withstands R) (matching : Matches R fit job job')
    (backoff : Duration) (related : R one other)
    (fits : ∀ scene ∈ begins job ⟨job.maxFailures, backoff⟩ 0 one, fit scene)
    (fits' : ∀ scene ∈ begins job' ⟨job'.maxFailures, backoff⟩ 0 other, fit scene) :
    (process backoff job one).1 = (process backoff job' other).1 ∧
      R (process backoff job one).2 (process backoff job' other).2 := by
  obtain ⟨same, related'⟩ := withstands.retry matching ⟨job.maxFailures, backoff⟩ 0 0 related fits
    (matching.maxFailures ▸ fits')
  rw [process_on, process_on]
  refine ⟨?_, matching.maxFailures ▸ related'⟩
  simp only [← matching.maxFailures, same, matching.label, matching.factoryKey]

end Matches

end Worker

end AttachmentFetch
