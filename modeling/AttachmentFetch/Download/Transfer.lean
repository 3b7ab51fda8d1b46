import AttachmentFetch.Backend
import AttachmentFetch.Download.Options
import AttachmentFetch.Failure
import AttachmentFetch.Http.Client
import AttachmentFetch.Json.Record
import AttachmentFetch.Text.Base64

/-! Fetching a blob from a file server into a file, within a limit. -/
namespace AttachmentFetch.Transfer

def envelopeOverhead : Nat := 1024

/-- The greatest number of 64 bits, at which sums and products stop. -/
def ceiling : Nat := UInt64.size - 1

def longestBody (format : BodyFormat) (limit : UInt64) : Nat :=
  match format with
  | .raw => limit.toNat
  | .jsonEnvelope =>
    min ((min (limit.toNat * 4) ceiling + 2) / 3 + envelopeOverhead) ceiling

def endingError? : Http.Ending → Option TransferError
  | .complete => none
  | .broken => some (.transport "error decoding response body")
  | .stalled => some (.transport "request timed out: error decoding response body")

def appendChunks (file : Place) (limit : UInt64) (ending : Http.Ending) :
    Nat → List Bytes → Step (Scene ρ) TransferError Unit
  | _, [] =>
    match endingError? ending with
    | some error => throw error
    | none => return ()
  | total, chunk :: rest => do
    let total := total + chunk.length
    if limit.toNat < total then throw (.sizeExceeded limit)
    (Scene.onDisk (Disk.append file chunk)).mapError .io
    appendChunks file limit ending total rest

def writeRaw (response : Http.Response) (destination : String) (limit : UInt64) :
    Step (Scene ρ) TransferError Unit := do
  let file ← (Scene.onDisk (Disk.create destination)).mapError .io
  appendChunks file limit response.ending 0 response.chunks
  (Scene.onDisk (Disk.sync file)).mapError .io

def collect (limit : UInt64) (most : Nat) (ending : Http.Ending) :
    Bytes → List Bytes → Except TransferError Bytes
  | body, [] =>
    match endingError? ending with
    | some error => .error error
    | none => .ok body
  | body, chunk :: rest =>
    if most < body.length + chunk.length then .error (.sizeExceeded limit)
    else collect limit most ending (body ++ chunk) rest

def responseShape : Json.Shape (Option String) String where
  name := "FileServerResponse"
  empty := none
  fields := [
    { name := "result"
      isSet := Option.isSome
      read := fun _ text => Json.mapRead some (Json.readString "a string" text) }]
  finish
    | none => .error "result"
    | some result => .ok result

def decodeEnvelope (body : Bytes) : Except TransferError Bytes :=
  match Json.readAll responseShape.read body with
  | .error fault =>
    .error (.parseFailure s!"invalid file server response: {fault.message body}")
  | .ok result =>
    match Text.Base64.decode (Text.Utf8.encode result) with
    | .error fault => .error (.parseFailure s!"invalid base64 payload: {fault.message}")
    | .ok blob => .ok blob

def writeEnvelope (response : Http.Response) (destination : String) (limit : UInt64) :
    Step (Scene ρ) TransferError Unit := do
  let blob ← Step.reads fun _ => do
    let body ←
      collect limit (longestBody .jsonEnvelope limit) response.ending [] response.chunks
    let blob ← decodeEnvelope body
    if limit.toNat < blob.length then throw (.sizeExceeded limit)
    return blob
  (Scene.onDisk (Disk.write destination blob)).mapError .io

/-- Writes what a response carries to a file. A length that is announced and too
large is believed. -/
def receive (response : Http.Response) (destination : String) (limit : UInt64)
    (format : BodyFormat) : Step (Scene ρ) TransferError Unit := do
  if !Http.isSuccess response.status then
    throw (.transport s!"file server responded with {Http.statusText response.status}")
  if response.declared.any (longestBody format limit < ·) then throw (.sizeExceeded limit)
  match format with
  | .raw => writeRaw response destination limit
  | .jsonEnvelope => writeEnvelope response destination limit

def request (url : String) (timeout : Option Duration) :
    Step (Scene Backend) TransferError Http.Response :=
  (Scene.onRest (Step.within Backend.network (fun network backend => { backend with network })
    (Http.get timeout url))).mapError fun error => .transport error.message

def download (destination url : String) (limit : UInt64) (options : TransferOptions) :
    Step (Scene Backend) TransferError Unit := do
  let response ← request url options.timeout
  receive response destination limit options.format

end AttachmentFetch.Transfer
