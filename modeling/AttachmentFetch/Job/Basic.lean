import AttachmentFetch.ErrorChain
import AttachmentFetch.Job.Outcome
import AttachmentFetch.Scene

/-! Jobs: units of work that may be tried again. Counting failures, waiting and
giving up are the business of the worker. -/
namespace AttachmentFetch

structure Job (ρ ε : Type) where
  label : String
  factoryKey : String
  /-- The number of retryable failures after which the job is given up. -/
  maxFailures : UInt32
  errorText : ε → String
  execute : StateM (Scene ρ) (Outcome ε)
  onExhausted : StateM (Scene ρ) (Except ErrorChain Unit) := pure (.ok ())

inductive JobEnding where
  | succeeded
  | failedPermanently (error : String)
  | retriesExhausted (error : String)
  deriving DecidableEq, Repr

structure JobReport where
  job : String
  factoryKey : String
  attempts : UInt32
  status : JobEnding
  deriving DecidableEq, Repr

namespace JobReport

def isSuccess (report : JobReport) : Bool :=
  report.status = .succeeded

def text (report : JobReport) : String :=
  match report.status with
  | .succeeded => s!"{report.job}: downloaded after {report.attempts} attempt(s)"
  | .failedPermanently error => s!"{report.job}: failed permanently: {error}"
  | .retriesExhausted error =>
    s!"{report.job}: gave up after {report.attempts} attempt(s): {error}"

end JobReport

end AttachmentFetch
