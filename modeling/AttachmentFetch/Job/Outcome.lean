import AttachmentFetch.Failure

/-! The outcome of one execution of a job. A job reports exactly one outcome and
never tries again by itself; whether there is another attempt is up to its worker. -/
namespace AttachmentFetch

inductive Outcome (ε : Type) where
  | succeeded
  /-- Another attempt may follow while the retry budget lasts. -/
  | failed (error : ε)
  /-- No attempt may follow. -/
  | failedPermanently (error : ε)
  deriving DecidableEq, Repr

namespace Outcome

def isSuccess : Outcome ε → Bool
  | succeeded => true
  | failed _ | failedPermanently _ => false

def error? : Outcome ε → Option ε
  | succeeded => none
  | failed error | failedPermanently error => some error

def prospect? : Outcome ε → Option Prospect
  | succeeded => none
  | failed _ => some .retryable
  | failedPermanently _ => some .permanent

def ofError (error : AttemptError) : Outcome AttemptError :=
  match error.prospect with
  | .permanent => .failedPermanently error
  | .retryable => .failed error

end Outcome

end AttachmentFetch
