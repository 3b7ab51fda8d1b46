import AttachmentFetch.Config
import AttachmentFetch.Job.Download
import AttachmentFetch.Text.Quoted

/-! Settings from configuration: the only place where defaults stand in for what
is 0 or empty. -/
namespace AttachmentFetch

namespace BodyFormat

/-- The format that a configuration names; no name means the raw one. -/
def ofConfig (name : String) : Except ErrorChain BodyFormat :=
  match name with
  | "" | "raw" => .ok .raw
  | "json_envelope" => .ok .jsonEnvelope
  | other => .error (.root s!"unknown download.response_format: {Text.quoted other}")

end BodyFormat

def defaultBackoff : Duration := Duration.ofSeconds 1

namespace Config

def settings (config : Config) : Except ErrorChain DownloadSettings :=
  if config.cacheDirectory.isEmpty then .error (.root "storage.cache_dir is not configured")
  else do
    let format ← BodyFormat.ofConfig config.responseFormat
    return {
      cacheDirectory := config.cacheDirectory
      maxBytes := if config.maxBytes = 0 then defaultMaxBytes else config.maxBytes
      options :=
        { format
          timeout :=
            if config.timeoutSeconds = 0 then none
            else some (Duration.ofSeconds config.timeoutSeconds) }
      maxFailures := if config.maxFailures = 0 then defaultMaxFailures else config.maxFailures }

def backoff (config : Config) : Duration :=
  if config.backoffMillis = 0 then defaultBackoff else Duration.ofMillis config.backoffMillis

end Config

end AttachmentFetch
