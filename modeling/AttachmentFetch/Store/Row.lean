import AttachmentFetch.Attachment.Pointer
import AttachmentFetch.Attachment.State
import AttachmentFetch.Number.Signed

/-! The rows of the message database. -/
namespace AttachmentFetch

structure MessageRow where
  id : MessageId
  /-- Milliseconds. -/
  receivedAt : Int64
  deriving DecidableEq, Repr

/-- A row of the attachment table. The database checks neither the state's name
nor the size's sign. -/
structure AttachmentRow where
  id : AttachmentId
  message : MessageId
  url : String
  size : Int64
  key : Option String
  digest : Option Bytes
  contentType : Option String
  state : String
  partFile : Option String
  storedSize : Option Int64
  /-- Milliseconds. -/
  updatedAt : Int64
  deriving DecidableEq, Repr

namespace AttachmentRow

/-- The row of a new pointer. Sizes beyond the signed range are refused. -/
def ofPointer (pointer : Pointer) (now : Int64) : Except ErrorChain AttachmentRow :=
  match int64? pointer.size.toNat with
  | some size =>
    .ok {
      id := pointer.id
      message := pointer.message
      url := pointer.url
      size
      key := pointer.key
      digest := pointer.digest
      contentType := pointer.contentType
      state := AttachmentState.pending.name
      partFile := none
      storedSize := none
      updatedAt := now }
  | none =>
    .error ((ErrorChain.root "number too large to fit in target type").context
      s!"attachment size {pointer.size} out of range")

/-- The pointer that a row holds. Negative sizes are refused. -/
def toPointer (row : AttachmentRow) : Except ErrorChain Pointer :=
  if 0 ≤ row.size.toInt then
    .ok {
      id := row.id
      message := row.message
      url := row.url
      size := UInt64.ofNat row.size.toInt.toNat
      key := row.key
      digest := row.digest
      contentType := row.contentType }
  else
    .error ((ErrorChain.root "number too small to fit in target type").context
      s!"invalid size_bytes for attachment {row.id}")

end AttachmentRow

end AttachmentFetch
