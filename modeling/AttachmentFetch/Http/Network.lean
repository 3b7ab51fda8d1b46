import AttachmentFetch.Duration
import AttachmentFetch.Text.Utf8

/-! The network, as far as a downloader can tell: each request meets the next
behaviour of the server, if the network is up at all. -/
namespace AttachmentFetch.Http

inductive Ending where
  | complete
  | broken
  /-- Nothing more comes, until the connection is lost at last. -/
  | stalled
  deriving DecidableEq, Repr

structure Response where
  status : Nat
  declared : Option Nat := none
  location : Option String := none
  chunks : List Bytes := []
  ending : Ending := .complete
  deriving DecidableEq, Repr

inductive Reply where
  | response (response : Response)
  | closed
  /-- No answer comes, until the connection is lost at last. -/
  | stalled
  deriving DecidableEq, Repr

/-- How a body ends for one who does not wait longer than the time allowed. Without a limit
of time it lasts until the connection is lost. -/
def Ending.within (timeout : Option Duration) : Ending → Ending
  | .complete => .complete
  | .broken => .broken
  | .stalled => if timeout.isSome then .stalled else .broken

def Response.within (timeout : Option Duration) (response : Response) : Response :=
  { response with ending := response.ending.within timeout }

def Reply.within (timeout : Option Duration) : Reply → Reply
  | .response answer => .response (answer.within timeout)
  | .closed => .closed
  | .stalled => if timeout.isSome then .stalled else .closed

inductive Network where
  | down
  /-- A server that answers requests with one reply after the other, and the
  requests it has met. When the replies are used up, it knows of nothing. -/
  | up (replies : List Reply) (requests : List String)
  deriving DecidableEq, Repr

def Response.notFound : Response := { status := 404, declared := some 0 }

end AttachmentFetch.Http
