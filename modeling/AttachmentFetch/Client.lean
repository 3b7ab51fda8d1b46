import AttachmentFetch.Download.Transfer
import AttachmentFetch.Envelope
import AttachmentFetch.Job.Download
import AttachmentFetch.Job.Worker
import AttachmentFetch.Store.Repository

/-! A client: a repository and all that is settled about downloads into it. -/
namespace AttachmentFetch

def Repository.services (repository : Repository) : Services Backend where
  findPointer := Repository.findPointer
  setState := Repository.setState
  insertContent := repository.insertContent
  download := Transfer.download
  openSealed := Envelope.openFile

structure Client where
  repository : Repository
  settings : DownloadSettings
  /-- The pause after the first failure of a job. -/
  backoff : Duration
  deriving DecidableEq, Repr

namespace Client

def register (pointer : Pointer) : Step (Scene Backend) ErrorChain Unit := do
  Repository.insertMessage pointer.message
  Repository.insertPointer pointer

def job (client : Client) (task : DownloadTask) : Job Backend AttemptError :=
  downloadJob client.repository.services client.settings task

/-- Downloads an attachment, retrying until that succeeds or is given up. -/
def fetch (client : Client) (task : DownloadTask) : StateM (Scene Backend) JobReport :=
  Worker.process client.backoff (client.job task)

end Client

end AttachmentFetch
