/-! The download life of an attachment, as anyone who reads the store sees it. -/
namespace AttachmentFetch

inductive AttachmentState where
  /-- The pointer is known and nothing has been tried. -/
  | pending
  /-- A job is working on it, or was the last to do so. -/
  | started
  | failed
  | done
  deriving DecidableEq, Repr

namespace AttachmentState

def name : AttachmentState → String
  | pending => "Pending"
  | started => "Started"
  | failed => "Failed"
  | done => "Done"

/-- Names are matched letter for letter. -/
def ofName? : String → Option AttachmentState
  | "Pending" => some pending
  | "Started" => some started
  | "Failed" => some failed
  | "Done" => some done
  | _ => none

@[simp] theorem ofName?_name (state : AttachmentState) : ofName? state.name = some state := by
  cases state <;> rfl

/-- Whether no job changes the state on its own account any more. -/
def isTerminal : AttachmentState → Bool
  | failed | done => true
  | pending | started => false

def unknownMessage (name : String) : String :=
  s!"unknown attachment state: {name}"

end AttachmentState

end AttachmentFetch
