import AttachmentFetch.Disk.Basic
import AttachmentFetch.ErrorChain
import AttachmentFetch.Text.Utf8
import AttachmentFetch.Toml.Reader

/-! Configuration as it is found: what is missing, or is not of the right type,
reads as empty or as 0, and nothing is judged here. -/
namespace AttachmentFetch

structure Config where
  databasePath : String := ""
  partsDirectory : String := ""
  cacheDirectory : String := ""
  maxBytes : UInt64 := 0
  timeoutSeconds : UInt64 := 0
  responseFormat : String := ""
  maxFailures : UInt32 := 0
  backoffMillis : UInt64 := 0
  logsDirectory : String := ""
  deriving DecidableEq, Repr

namespace Config

def empty : Config := {}

def withBase (base : String) : Config where
  databasePath := Path.join base "courier.db"
  partsDirectory := Path.join base "parts"
  cacheDirectory := Path.join base "cache"
  logsDirectory := Path.join base "logs"

def textAt (tree : Toml.Value) (table key : String) : String :=
  (((tree.get? table).bind (·.get? key)).bind (·.string?)).getD ""

/-- Negative numbers count as 0. -/
def numberAt (tree : Toml.Value) (table key : String) : Nat :=
  match ((tree.get? table).bind (·.get? key)).bind (·.integer?) with
  | some value => value.toInt.toNat
  | none => 0

def ofToml (tree : Toml.Value) : Config where
  databasePath := textAt tree "storage" "database_path"
  partsDirectory := textAt tree "storage" "parts_dir"
  cacheDirectory := textAt tree "storage" "cache_dir"
  maxBytes := UInt64.ofNat (numberAt tree "download" "max_attachment_bytes")
  timeoutSeconds := UInt64.ofNat (numberAt tree "download" "timeout_secs")
  responseFormat := textAt tree "download" "response_format"
  maxFailures := UInt32.ofNat (min (numberAt tree "jobs" "max_failure_count") (UInt32.size - 1))
  backoffMillis := UInt64.ofNat (numberAt tree "jobs" "retry_backoff_ms")
  logsDirectory := textAt tree "logging" "logs_dir"

def load (path : String) : Step Disk ErrorChain Config := do
  let unreadable (cause : String) : ErrorChain :=
    (ErrorChain.root cause).context s!"Failed to read config file: {path}"
  let bytes ← (Disk.read path).mapError fun error => unreadable error.message
  match Text.Utf8.decode bytes with
  | none => throw (unreadable "stream did not contain valid UTF-8")
  | some text =>
    match Toml.ofText? text with
    | none => throw ((ErrorChain.root "TOML parse error").context "Failed to parse config as TOML")
    | some tree => return ofToml tree

end Config

end AttachmentFetch
