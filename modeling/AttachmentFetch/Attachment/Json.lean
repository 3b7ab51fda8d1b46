import AttachmentFetch.Attachment.Id
import AttachmentFetch.Json.Record

/-! Identifiers as JSON: bare integers. -/
namespace AttachmentFetch

def idOfJson (text : String) : Except String Int64 :=
  let bytes := Text.Utf8.encode text
  match Json.readAll Json.readInt64 bytes with
  | .ok value => .ok value
  | .error fault => .error (fault.message bytes)

namespace AttachmentId

def ofJson (text : String) : Except String AttachmentId :=
  (idOfJson text).map AttachmentId.mk

def toJson (id : AttachmentId) : String := (Json.ofInt64 id.value).text

end AttachmentId

namespace MessageId

def ofJson (text : String) : Except String MessageId :=
  (idOfJson text).map MessageId.mk

def toJson (id : MessageId) : String := (Json.ofInt64 id.value).text

end MessageId

end AttachmentFetch
