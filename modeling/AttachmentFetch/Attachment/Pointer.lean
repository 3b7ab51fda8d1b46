import AttachmentFetch.Attachment.Id
import AttachmentFetch.Failure
import AttachmentFetch.Text.Base64
import AttachmentFetch.Text.Utf8

/-! Pointers to remote attachments, as recorded when their message arrived. -/
namespace AttachmentFetch

/-- Key and digest are both meaningful for an attachment that was encrypted by
its sender; one that is served in the clear lacks at least one of them. -/
structure Pointer where
  id : AttachmentId
  message : MessageId
  url : String
  /-- The plaintext's size in bytes, 0 when the sender did not declare it. -/
  size : UInt64
  /-- The symmetric key, in base64. -/
  key : Option String
  digest : Option Bytes
  contentType : Option String
  deriving DecidableEq, Repr

namespace Pointer

def isSealed (pointer : Pointer) : Bool :=
  pointer.digest.any (!·.isEmpty) && pointer.key.any (!·.isEmpty)

/-- The key's bytes. An empty key text counts as none. -/
def keyBytes (pointer : Pointer) : Except OpenError Bytes :=
  match pointer.key.filter (!·.isEmpty) with
  | none => .error (.invalidKey "attachment has no key")
  | some key =>
    match Text.Base64.decode (Text.Utf8.encode key) with
    | .ok bytes => .ok bytes
    | .error fault => .error (.invalidKey fault.message)

end Pointer

end AttachmentFetch
