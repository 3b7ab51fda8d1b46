import AttachmentFetch.Program

/-! The command line as a rehearsal: the program runs on a machine of its own,
which has the configuration file of the real one and which no network reaches. -/
namespace AttachmentFetch.Rehearsal

def diskWith (path : String) (content : Bytes) (disk : Disk) : Disk :=
  let call : Disk.Call Unit := do
    if let some parent := Path.parent? path then Disk.makeDirectories parent
    Disk.write path content
  (call.on disk).2

def realContent? (path : String) : IO (Option Bytes) := do
  try
    return some (← IO.FS.readBinFile path).toList
  catch _ => return none

def realDataDirectory? : IO (Option String) := do
  let own := (← IO.getEnv "HOME").map (Path.join · ".local/share")
  return ((← IO.getEnv "XDG_DATA_HOME").filter (·.startsWith "/")) <|> own

def machineFor (arguments : List String) : IO Machine := do
  let machine : Machine := { dataDirectory := ← realDataDirectory? }
  match CommandLine.parse arguments with
  | .ok { config := some path, command := _ } =>
    match ← realContent? path with
    | some content => return { machine with disk := diskWith path content machine.disk }
    | none => return machine
  | _ => return machine

end AttachmentFetch.Rehearsal

def main (arguments : List String) : IO UInt32 := do
  let machine ← AttachmentFetch.Rehearsal.machineFor arguments
  let (completion, _) := AttachmentFetch.Program.invoke arguments machine
  IO.print completion.output
  IO.eprint completion.errors
  return completion.exitCode.toUInt32
