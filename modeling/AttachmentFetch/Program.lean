import AttachmentFetch.Client
import AttachmentFetch.CommandLine.Help
import AttachmentFetch.CommandLine.Parser
import AttachmentFetch.Machine
import AttachmentFetch.Settings
import AttachmentFetch.Text.Hex

/-! The program: from the arguments of its command line to what it prints. -/
namespace AttachmentFetch.Program

structure Plan where
  databasePath : String
  client : Client
  deriving DecidableEq, Repr

/-- The path of a database as text. A path is any bytes, but the database wants a name. -/
def databaseName (path : Bytes) : Except ErrorChain String :=
  if path.isEmpty then .error (.root "storage.database_path is not configured")
  else
    match Text.Utf8.decode path with
    | some name => .ok name
    | none => .error (.root s!"database path is not valid UTF-8: {Text.Utf8.shown path}")

/-- Checks all of a configuration, whose database is at the given path, before anything is
touched. -/
def planAt (databasePath : Bytes) (config : Config) : Except ErrorChain Plan := do
  let settings ← config.settings
  let databasePath ← databaseName databasePath
  if config.partsDirectory.isEmpty then throw (.root "storage.parts_dir is not configured")
  return {
    databasePath
    client := { repository := ⟨config.partsDirectory⟩, settings, backoff := config.backoff } }

def makeParent (path : String) : Step Machine ErrorChain Unit :=
  match (Path.parent? path).filter (!·.isEmpty) with
  | none => return ()
  | some parent =>
    (Machine.onDisk (Disk.makeDirectories parent)).mapError fun error =>
      (ErrorChain.root error.message).context s!"Failed to create database directory {parent}"

/-- Makes everything ready that a configuration calls for: a client, and the place of
its database, which is at the given path. -/
def wireAt (databasePath : Bytes) (config : Config) : Step Machine ErrorChain (Client × Place) := do
  let plan ← Step.reads fun _ => planAt databasePath config
  makeParent plan.databasePath
  let place ← Machine.openDatabase plan.databasePath
  return (plan.client, place)

def wire (config : Config) : Step Machine ErrorChain (Client × Place) :=
  wireAt (Text.Utf8.encode config.databasePath) config

def pointer (registration : CommandLine.Registration) : Except ErrorChain Pointer := do
  let digest ←
    match registration.digest with
    | none => pure none
    | some text =>
      match Text.Hex.decode (Text.Utf8.encode (Text.trim text)) with
      | .ok digest => pure (some digest)
      | .error fault =>
        throw ((ErrorChain.root fault.message).context "--digest must be hex encoded")
  return {
    id := registration.attachment
    message := registration.message
    url := registration.url
    size := registration.size
    key := registration.key
    digest
    contentType := registration.contentType }

structure Reply where
  text : String
  isSuccess : Bool
  deriving DecidableEq, Repr

def run (config : Config) (command : CommandLine.Command) : Step Machine ErrorChain Reply := do
  let (client, place) ← wire config
  match command with
  | .register registration =>
    let pointer ← Step.reads fun _ => pointer registration
    Machine.work place (Client.register pointer)
    return ⟨s!"registered attachment {pointer.id} of message {pointer.message}", true⟩
  | .fetch attachment message =>
    let report ← Machine.work place (ExceptT.lift (client.fetch ⟨attachment, message⟩))
    return ⟨report.text, report.isSuccess⟩

/-- The configuration that an invocation calls for: that of the file it names,
or the standard one below the data directory. -/
def configOf (file : Option String) : Step Machine ErrorChain Config := do
  match file with
  | some path => Machine.onDisk (Config.load path)
  | none =>
    match (← get).dataDirectory with
    | none => throw (.root "Failed to determine the local data directory")
    | some directory =>
      return Config.withBase (Path.join directory CommandLine.programName)

/-- Makes today's log file in a directory, if there is to be one; gives a
warning when the directory cannot be had, and the log is done without. -/
def startLog (directory : String) : StateM Machine String := do
  if directory.isEmpty then return ""
  match ← Machine.onDisk (Disk.makeDirectories directory) with
  | .error error =>
    let error := (ErrorChain.root error.message).context
      s!"Failed to create logs directory {directory}"
    return s!"Failed to initialize file logging, falling back to stdout: {error.full}\n"
  | .ok () =>
    let path := Path.join directory s!"courier.log.{(← get).today}"
    if !(← get).disk.exists? path then
      let _ ← Machine.onDisk (Disk.createNew path)
    return ""

structure Completion where
  exitCode : UInt8
  output : String := ""
  errors : String := ""
  deriving DecidableEq, Repr

def success : UInt8 := 0
def failure : UInt8 := 1
def badUsage : UInt8 := 2

def explain : CommandLine.UsageError → Completion
  | .help topic => { exitCode := success, output := CommandLine.helpText topic }
  | .version => { exitCode := success, output := CommandLine.unlines [CommandLine.versionLine] }
  | .nothingAsked => { exitCode := badUsage, errors := CommandLine.helpText (.level .program) }
  | error => { exitCode := badUsage, errors := CommandLine.unlines [error.firstLine] }

def complain (warning : String) (error : ErrorChain) : Completion :=
  { exitCode := failure, errors := warning ++ error.explanation }

def invoke (arguments : List String) : StateM Machine Completion := do
  match CommandLine.parse arguments with
  | .error error => return explain error
  | .ok invocation =>
    match ← configOf invocation.config with
    | .error error => return complain "" error
    | .ok config =>
      let warning ← startLog config.logsDirectory
      match ← run config invocation.command with
      | .error error => return complain warning error
      | .ok reply =>
        return {
          exitCode := if reply.isSuccess then success else failure
          output := CommandLine.unlines [reply.text]
          errors := warning }

end AttachmentFetch.Program
