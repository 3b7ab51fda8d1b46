import AttachmentFetch.Attachment.Pointer
import AttachmentFetch.Attachment.State
import AttachmentFetch.Download.Options
import AttachmentFetch.Scene

/-! What a download job needs from outside: a store, a server and a cipher. -/
namespace AttachmentFetch

/-- Content on its way to the store: its bytes, and what goes wrong with
reading on after them, if anything does. -/
structure Content where
  bytes : Bytes
  failure : Option IoError := none
  deriving DecidableEq, Repr

structure Services (ρ : Type) where
  /-- The pointer recorded for an attachment, if it still exists. -/
  findPointer (attachment : AttachmentId) : Step (Scene ρ) ErrorChain (Option Pointer)
  /-- Publishes a state. An attachment that does not exist is no error. -/
  setState (state : AttachmentState) (attachment : AttachmentId) (message : MessageId) :
    Step (Scene ρ) ErrorChain Unit
  insertContent (message : MessageId) (attachment : AttachmentId) (content : Content) :
    Step (Scene ρ) ErrorChain Unit
  /-- Fetches a URL into a file, which never takes more than `limit` bytes. -/
  download (destination url : String) (limit : UInt64) (options : TransferOptions) :
    Step (Scene ρ) TransferError Unit
  /-- Opens an encrypted file, given the plaintext's size (0 when unknown), the
  key and the digest. What it yields is fully verified. -/
  openSealed (source : String) (expected : UInt64) (key digest : Bytes) :
    Step (Scene ρ) OpenError Content

end AttachmentFetch
