import AttachmentFetch.Disk.Directory
import AttachmentFetch.Scene

/-! Scratch files: what one attempt downloads into. A scratch file belongs to
its attempt alone and is gone when the attempt ends, however it ends. -/
namespace AttachmentFetch

structure ScratchFile where
  path : String
  deriving DecidableEq, Repr

namespace ScratchFile

def nameStart : String := "push-attachment"
def nameEnd : String := ".tmp"

def name (number : Nat) : String := nameStart ++ toString number ++ nameEnd

/-- Gives out the next name that nothing in the directory has. Names are never
given out twice, even after their file is gone. -/
def draw (directory : String) : Disk.Call String := do
  let disk ← get
  let free (number : Nat) : Bool := !disk.exists? (Path.join directory (name number))
  let candidates := (List.range (disk.nodes.length + 1)).map (disk.drawn + ·)
  let number := (candidates.find? free).getD disk.drawn
  set { disk with drawn := number + 1 }
  return Path.join directory (name number)

/-- The path from the root on, by which messages call a scratch file. -/
def fullPath (disk : Disk) (path : String) : String :=
  if path.startsWith "/" then path
  else Path.join ("/" ++ "/".intercalate disk.workingDirectory) path

def create (path : String) : Disk.Call Place := fun disk =>
  (Disk.createNew path).mapError (.atPath · (fullPath disk path)) disk

def makeIn (directory : String) : Disk.Call ScratchFile := do
  Disk.makeDirectories directory
  let path ← draw directory
  let _ ← create path
  return ⟨path⟩

def abandon (file : ScratchFile) : Step (Scene ρ) ε Unit := do
  let _ ← Step.outcome (Scene.onDisk (Disk.remove file.path))

/-- Removes the file, and logs it if that is not possible. -/
def finish (file : ScratchFile) : Step (Scene ρ) ε Unit := do
  match ← Step.outcome (Scene.onDisk (Disk.remove file.path)) with
  | .ok () => return ()
  | .error error =>
    modify fun scene =>
      let path := fullPath scene.disk file.path
      scene.record .warn "Failed to delete temporary attachment file"
        [("path", path), ("error", (error.atPath path).message)]

/-- Takes a step that uses the file. Afterwards the file is removed: with a
warning if that fails after success, silently after a failure. -/
def during (file : ScratchFile) (body : Step (Scene ρ) ε α) : Step (Scene ρ) ε α := do
  match ← Step.outcome body with
  | .ok value =>
    file.finish
    return value
  | .error error =>
    file.abandon
    throw error

end ScratchFile

end AttachmentFetch
