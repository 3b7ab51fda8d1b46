import AttachmentFetch.Job.Basic
import AttachmentFetch.Job.Record
import AttachmentFetch.Job.RetryBudget
import AttachmentFetch.Services
import AttachmentFetch.ScratchFile

/-! The download job. One execution looks the pointer up, fetches the blob into
a scratch file, opens it if it is encrypted, and hands the content to the
store. Failures are classified and reported; the job never tries again by itself. -/
namespace AttachmentFetch

def defaultMaxBytes : UInt64 := 10485760

structure DownloadSettings where
  cacheDirectory : String
  maxBytes : UInt64 := defaultMaxBytes
  options : TransferOptions := {}
  maxFailures : UInt32 := defaultMaxFailures
  deriving DecidableEq, Repr

namespace DownloadJob

/-- The content of a downloaded blob: the blob itself, or what it opens to. The
blob itself is read as the store asks for it, so that reading may fail midway. -/
def openContent (services : Services ρ) (pointer : Pointer) (path : String) :
    Step (Scene ρ) AttemptError Content :=
  if pointer.isSealed then do
    let key ← Step.reads fun _ => pointer.keyBytes.mapError .decrypt
    (services.openSealed path pointer.size key (pointer.digest.getD [])).mapError .decrypt
  else do
    let file ← (Scene.onDisk (Disk.openToRead path)).mapError .scratchFile
    let (bytes, failure) ← (Scene.onDisk (Disk.drain file)).mapError .scratchFile
    return { bytes, failure }

/-- One attempt. Nothing is done on the disk before the store has taken note. -/
def attempt (services : Services ρ) (settings : DownloadSettings) (task : DownloadTask) :
    Step (Scene ρ) AttemptError Unit := do
  match ← (services.findPointer task.attachment).mapError .storage with
  | none => throw .noAttachment
  | some pointer =>
    (services.setState .started task.attachment task.message).mapError .storage
    let file ← (Scene.onDisk (ScratchFile.makeIn settings.cacheDirectory)).mapError .scratchFile
    file.during do
      (services.download file.path pointer.url settings.maxBytes settings.options).mapError
        .download
      let content ← openContent services pointer file.path
      (services.insertContent task.message pointer.id content).mapError .storage

def publishFailed (services : Services ρ) (task : DownloadTask) :
    StateM (Scene ρ) (Except ErrorChain Unit) :=
  (services.setState .failed task.attachment task.message).mapError
    (·.context "failed to mark attachment as failed")

def execute (services : Services ρ) (settings : DownloadSettings) (task : DownloadTask) :
    StateM (Scene ρ) (Outcome AttemptError) := do
  match ← attempt services settings task with
  | .ok () =>
    modify (·.record .info "Attachment downloaded")
    return .succeeded
  | .error error =>
    match error.prospect with
    | .permanent =>
      modify (·.record .error "Attachment download failed permanently" [("error", error.message)])
      if let .error markError ← publishFailed services task then
        modify (·.record .error "Failed to publish failed attachment state"
          [("error", markError.outermost)])
    | .retryable =>
      modify (·.record .warn "Attachment download failed, eligible for retry"
        [("error", error.message)])
    return .ofError error

end DownloadJob

def downloadJob (services : Services ρ) (settings : DownloadSettings) (task : DownloadTask) :
    Job ρ AttemptError where
  label := s!"attachment {task.attachment} of message {task.message}"
  factoryKey := downloadJobKey
  maxFailures := settings.maxFailures
  errorText := AttemptError.message
  execute := DownloadJob.execute services settings task
  onExhausted := DownloadJob.publishFailed services task

def restoredJob (services : Services ρ) (settings : DownloadSettings) (record : JobRecord) :
    Except JobRecordError (Job ρ AttemptError) :=
  (DownloadTask.ofRecord record).map (downloadJob services settings)

end AttachmentFetch
