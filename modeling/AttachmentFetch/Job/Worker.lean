import AttachmentFetch.Job.Basic
import AttachmentFetch.Job.RetryBudget

/-! The worker: takes jobs one at a time and drives each until it succeeds,
fails permanently or has spent its retry budget. -/
namespace AttachmentFetch.Worker

def increment (count : UInt32) : UInt32 :=
  if count.toNat + 1 < UInt32.size then count + 1 else count

theorem lt_increment {count bound : UInt32} (h : increment count < bound) :
    count < increment count := by
  rw [UInt32.lt_iff_toNat_lt] at *
  unfold increment UInt32.size at *
  split <;> rename_i fits
  · rw [UInt32.toNat_add, UInt32.toNat_one]; omega
  · rw [if_neg fits] at h
    have := bound.toNat_lt
    omega

def exhaust (job : Job ρ ε) (error : ε) (failures : UInt32) : StateM (Scene ρ) Unit := do
  modify (·.record .error "Job exhausted its retries"
    [("failure_count", toString failures), ("max_failure_count", toString job.maxFailures),
     ("error", job.errorText error)])
  if let .error hookError ← job.onExhausted then
    modify (·.record .error "Failed to finalize exhausted job" [("error", hookError.outermost)])

def pause (budget : RetryBudget) (errorText : String) (failures : UInt32) :
    StateM (Scene ρ) Unit := do
  let backoff := budget.pauseAfter failures
  modify (·.record .warn "Job failed; retrying"
    [("failure_count", toString failures), ("max_failure_count", toString budget.maxFailures),
     ("backoff_ms", toString backoff.toMillis), ("error", errorText)])
  modify (·.elapse backoff)

/-- Goes on after `failures` retryable failures and as many attempts as counted;
gives the final status and the number of attempts. -/
def retry (job : Job ρ ε) (budget : RetryBudget) (failures attempts : UInt32) :
    StateM (Scene ρ) (JobEnding × UInt32) := do
  let attempts := increment attempts
  match ← job.execute with
  | .succeeded =>
    modify (·.record .info "Job succeeded" [("attempts", toString attempts)])
    return (.succeeded, attempts)
  | .failedPermanently error =>
    modify (·.record .error "Job failed permanently"
      [("attempts", toString attempts), ("error", job.errorText error)])
    return (.failedPermanently (job.errorText error), attempts)
  | .failed error =>
    let count := increment failures
    if _h : budget.allows count then
      pause budget (job.errorText error) count
      retry job budget count attempts
    else
      exhaust job error count
      return (.retriesExhausted (job.errorText error), attempts)
termination_by budget.maxFailures.toNat - failures.toNat
decreasing_by
  have below : increment failures < budget.maxFailures := by
    simpa [RetryBudget.allows] using _h
  have := UInt32.lt_iff_toNat_lt.1 (lt_increment below)
  have := UInt32.lt_iff_toNat_lt.1 below
  omega

def process (backoff : Duration) (job : Job ρ ε) : StateM (Scene ρ) JobReport := do
  let (status, attempts) ← retry job ⟨job.maxFailures, backoff⟩ 0 0
  return { job := job.label, factoryKey := job.factoryKey, attempts, status }

inductive Reports where
  | none
  | taken
  | dropped
  deriving DecidableEq, Repr

/-- Drives the jobs one after the other; gives the reports that were taken. -/
def run (reports : Reports) (backoff : Duration) :
    List (Job ρ ε) → StateM (Scene ρ) (List JobReport)
  | [] => return []
  | job :: jobs => do
    let report ← process backoff job
    if reports = .dropped then modify (·.record .warn "Job report receiver dropped")
    let later ← run reports backoff jobs
    return if reports = .taken then report :: later else later

end AttachmentFetch.Worker
