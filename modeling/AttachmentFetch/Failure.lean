import AttachmentFetch.ErrorChain
import AttachmentFetch.IoError

/-! What can go wrong with one attempt to fetch an attachment, and which of it
can be mended by trying again. -/
namespace AttachmentFetch

inductive Prospect where
  | permanent
  | retryable
  deriving DecidableEq, Repr

inductive TransferError where
  | transport (text : String)
  /-- The server answered, but not with an attachment. -/
  | parseFailure (text : String)
  | sizeExceeded (limit : UInt64)
  | io (error : IoError)
  deriving DecidableEq, Repr

namespace TransferError

def prospect : TransferError → Prospect
  | parseFailure _ => .permanent
  | transport _ | sizeExceeded _ | io _ => .retryable

def message : TransferError → String
  | transport text => s!"transport error: {text}"
  | parseFailure text => s!"failed to parse download response: {text}"
  | sizeExceeded limit => s!"download exceeds the {limit} byte limit"
  | io error => s!"failed to write download: {error.message}"

end TransferError

inductive OpenError where
  /-- The envelope has no room for its fixed parts. -/
  | parseFailure (text : String)
  | authFailure
  | sizeMismatch (expected actual : UInt64)
  | invalidKey (text : String)
  | io (error : IoError)
  deriving DecidableEq, Repr

namespace OpenError

/-- A failed authentication cannot be told from bytes damaged on the way, so it
is worth another try. -/
def prospect : OpenError → Prospect
  | parseFailure _ => .permanent
  | authFailure | sizeMismatch _ _ | invalidKey _ | io _ => .retryable

def message : OpenError → String
  | parseFailure text => s!"malformed attachment envelope: {text}"
  | authFailure => "attachment failed authentication"
  | sizeMismatch expected actual =>
    s!"attachment size mismatch: expected {expected} bytes, got {actual}"
  | invalidKey text => s!"invalid attachment key: {text}"
  | io error => s!"failed to read attachment: {error.message}"

end OpenError

inductive AttemptError where
  | noAttachment
  | download (error : TransferError)
  | decrypt (error : OpenError)
  | storage (error : ErrorChain)
  | scratchFile (error : IoError)
  deriving DecidableEq, Repr

namespace AttemptError

/-- Only what is known to be permanent is permanent, so no attachment is given
up because of an error nobody foresaw. -/
def prospect : AttemptError → Prospect
  | noAttachment => .permanent
  | download error => error.prospect
  | decrypt error => error.prospect
  | storage _ | scratchFile _ => .retryable

def isPermanent (error : AttemptError) : Bool :=
  error.prospect = .permanent

def message : AttemptError → String
  | noAttachment => "no such attachment"
  | download error => s!"download failed: {error.message}"
  | decrypt error => s!"decryption failed: {error.message}"
  | storage error => s!"storage error: {error.full}"
  | scratchFile error => s!"temporary file error: {error.message}"

end AttemptError

end AttachmentFetch
