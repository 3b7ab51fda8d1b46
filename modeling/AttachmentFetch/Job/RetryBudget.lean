import AttachmentFetch.Duration

/-! The retry budget. The worker counts retryable failures and runs the job
again as long as the budget allows it; a job that has spent its budget has failed
for good, although each of its attempts alone could have been repeated. -/
namespace AttachmentFetch

def defaultMaxFailures : UInt32 := 20

structure RetryBudget where
  maxFailures : UInt32
  backoff : Duration
  deriving DecidableEq, Repr

namespace RetryBudget

def default : RetryBudget := ⟨defaultMaxFailures, Duration.ofSeconds 1⟩

def allows (budget : RetryBudget) (failures : UInt32) : Bool :=
  failures < budget.maxFailures

/-- The pause grows with the number of failures, and is never less than the backoff. -/
def pauseAfter (budget : RetryBudget) (failures : UInt32) : Duration :=
  budget.backoff.saturatingMul (if failures < 1 then 1 else failures)

end RetryBudget

end AttachmentFetch
