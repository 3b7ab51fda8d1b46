import AttachmentFetch.Attachment.Id
import AttachmentFetch.Json.Record

/-! What survives a restart: which factory can rebuild a job, and from what. -/
namespace AttachmentFetch

def downloadJobKey : String := "AttachmentDownloadJob"

structure DownloadTask where
  attachment : AttachmentId
  message : MessageId
  deriving DecidableEq, Repr

structure JobRecord where
  factoryKey : String
  payload : Json.Value
  deriving Repr

inductive JobRecordError where
  | factoryMismatch (found : String)
  | malformed (text : String)
  deriving DecidableEq, Repr

def JobRecordError.message : JobRecordError → String
  | factoryMismatch found => s!"job data belongs to factory {found}, expected {downloadJobKey}"
  | malformed text => s!"malformed job payload: {text}"

namespace JobRecord

def toJson (record : JobRecord) : String :=
  (Json.Value.object
    [("factory_key", .string record.factoryKey), ("payload", record.payload)]).text

abbrev Partial := Option String × Option Json.Value

def shape : Json.Shape Partial JobRecord where
  name := "JobData"
  empty := (none, none)
  fields := [
    { name := "factory_key"
      isSet := fun record => record.1.isSome
      read := fun record text =>
        Json.mapRead (fun key => (some key, record.2)) (Json.readString "a string" text) },
    { name := "payload"
      isSet := fun record => record.2.isSome
      read := fun record text =>
        Json.mapRead (fun payload => (record.1, some payload))
          (Json.value (Json.deepest - 1) text) }]
  finish
    | (none, _) => .error "factory_key"
    | (some _, none) => .error "payload"
    | (some key, some payload) => .ok ⟨key, payload⟩

def ofBytes (text : Bytes) : Except JobRecordError JobRecord :=
  match Json.readAll shape.read text with
  | .ok record => .ok record
  | .error fault => .error (.malformed (fault.message text))

def ofJson (text : String) : Except JobRecordError JobRecord :=
  ofBytes (Text.Utf8.encode text)

end JobRecord

namespace DownloadTask

def toRecord (task : DownloadTask) : JobRecord where
  factoryKey := downloadJobKey
  payload := .object
    [("attachment_id", Json.ofInt64 task.attachment.value),
     ("message_id", Json.ofInt64 task.message.value)]

def id : Json.Value → Except Json.Cause Int64
  | .number value => value.toInt64 "i64"
  | value => .error (Json.wrongType value.found "i64")

/-- Goes through the entries in order; those of other names count for nothing. -/
def ofEntries : List (String × Json.Value) → Option Int64 → Option Int64 →
    Except Json.Cause DownloadTask
  | [], some attachment, some message => .ok ⟨⟨attachment⟩, ⟨message⟩⟩
  | [], none, _ => .error (Json.missingField "attachment_id")
  | [], some _, none => .error (Json.missingField "message_id")
  | (name, value) :: rest, attachment, message =>
    if name = "attachment_id" then do ofEntries rest (some (← id value)) message
    else if name = "message_id" then do ofEntries rest attachment (some (← id value))
    else ofEntries rest attachment message

def ofPayload (payload : Json.Value) : Except Json.Cause DownloadTask :=
  let expected := "struct AttachmentDownloadParams"
  let count := s!"{expected} with 2 elements"
  match payload with
  | .object entries => ofEntries entries none none
  | .array [] => .error (Json.wrongLength 0 count)
  | .array [attachment] => do
    let _ ← id attachment
    .error (Json.wrongLength 1 count)
  | .array (attachment :: message :: rest) => do
    let task : DownloadTask := ⟨⟨← id attachment⟩, ⟨← id message⟩⟩
    if rest.isEmpty then return task
    else .error (Json.wrongLength (rest.length + 2) "fewer elements in array")
  | payload => .error (Json.wrongType payload.found expected)

/-- The key is looked at first, whatever the payload. -/
def ofRecord (record : JobRecord) : Except JobRecordError DownloadTask :=
  if record.factoryKey = downloadJobKey then
    match ofPayload record.payload with
    | .ok task => .ok task
    | .error cause => .error (.malformed cause.message)
  else .error (.factoryMismatch record.factoryKey)

end DownloadTask

end AttachmentFetch
