import AttachmentFetch.Duration
import AttachmentFetch.Json.Record

/-! How an attachment is to be asked for. -/
namespace AttachmentFetch

inductive BodyFormat where
  | raw
  /-- The body is a JSON object whose `result` is the blob in base64. -/
  | jsonEnvelope
  deriving DecidableEq, Repr

namespace BodyFormat

def name : BodyFormat → String
  | raw => "raw"
  | jsonEnvelope => "json_envelope"

def choices : List (String × BodyFormat) :=
  [(raw.name, raw), (jsonEnvelope.name, jsonEnvelope)]

def ofJson (value : Json.Value) : Except Json.Cause BodyFormat :=
  Json.choice choices value

def toJson (format : BodyFormat) : Json.Value := .string format.name

end BodyFormat

structure TransferOptions where
  format : BodyFormat := .raw
  timeout : Option Duration := none
  deriving DecidableEq, Repr

end AttachmentFetch
