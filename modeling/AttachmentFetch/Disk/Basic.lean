import AttachmentFetch.Disk.Path
import AttachmentFetch.IoError
import AttachmentFetch.Step
import AttachmentFetch.Text.Utf8

/-! A disk: directories and files by the names that lead to them, and the calls
that a program makes on them. Every call may be made to fail. -/
namespace AttachmentFetch

/-- The names that lead from the root to a node. -/
abbrev Place := List String

inductive Node where
  | directory
  | file (content : Bytes)
  deriving DecidableEq, Repr

/-- A call that goes wrong: its error and, if it writes, how much is written
before it fails. -/
structure DiskFault where
  error : IoError
  written : Nat := 0
  deriving DecidableEq, Repr

structure Disk where
  nodes : List (Place × Node) := []
  workingDirectory : Place := []
  /-- What befalls the calls to come, one after the other; later ones succeed. -/
  faults : List (Option DiskFault) := []
  /-- How many names of scratch files have been given out. -/
  drawn : Nat := 0
  deriving Repr

namespace Disk

def node? (disk : Disk) (place : Place) : Option Node :=
  if place = [] then some .directory else disk.nodes.lookup place

def erase (disk : Disk) (place : Place) : Disk :=
  { disk with nodes := disk.nodes.filter (·.1 ≠ place) }

def put (disk : Disk) (place : Place) (node : Node) : Disk :=
  { disk.erase place with nodes := (place, node) :: (disk.erase place).nodes }

def longestName : Nat := 255
def longestPath : Nat := 4095

def enter (place : Place) (name : String) : Place :=
  if name = "." then place
  else if name = ".." then place.dropLast
  else place ++ [name]

/-- Follows names through directories. The last one need not exist. -/
def walk (disk : Disk) (place : Place) : List String → Except IoError Place
  | [] => .ok place
  | name :: rest =>
    if name.utf8ByteSize > longestName then .error .nameTooLong
    else match rest, disk.node? (enter place name) with
      | [], _ => .ok (enter place name)
      | _ :: _, none => .error .noEntry
      | _ :: _, some (.file _) => .error .notDirectory
      | _ :: _, some .directory => disk.walk (enter place name) rest

/-- The place that a path names. Whether there is a node is another question,
unless the path ends with a slash, which a file does not bear. -/
def locate (disk : Disk) (path : String) : Except IoError Place :=
  if path.isEmpty then .error .noEntry
  else if path.toList.contains '\x00' then .error .nulInPath
  else if path.utf8ByteSize > longestPath then .error .nameTooLong
  else
    match disk.walk (if path.startsWith "/" then [] else disk.workingDirectory)
        (Path.names path) with
    | .error error => .error error
    | .ok place =>
      match path.endsWith "/", disk.node? place with
      | true, some (.file _) => .error .notDirectory
      | _, _ => .ok place

def find (disk : Disk) (path : String) : Except IoError Node :=
  match disk.locate path with
  | .error error => .error error
  | .ok place =>
    match disk.node? place with
    | some node => .ok node
    | none => .error .noEntry

def exists? (disk : Disk) (path : String) : Bool :=
  (disk.find path).isOk

def isDirectory (disk : Disk) (path : String) : Bool :=
  match disk.find path with
  | .ok .directory => true
  | _ => false

def content? (disk : Disk) (path : String) : Option Bytes :=
  match disk.find path with
  | .ok (.file content) => some content
  | _ => none

def names (disk : Disk) (place : Place) : List String :=
  disk.nodes.filterMap fun (inner, _) =>
    if inner.dropLast = place then inner.getLast? else none

/-! Calls -/

abbrev Call (α : Type) := Step Disk IoError α

/-- Lets the next fault happen, if it is one; otherwise makes the call. -/
def faultable (call : Disk → Except IoError (α × Disk)) : Call α := fun disk =>
  let next := { disk with faults := disk.faults.tail }
  match disk.faults with
  | some fault :: _ => (.error fault.error, next)
  | _ =>
    match call next with
    | .ok (value, disk) => (.ok value, disk)
    | .error error => (.error error, next)

/-- The place of a node to be made, whose directory has to exist. -/
def free (disk : Disk) (path : String) : Except IoError Place :=
  match disk.locate path with
  | .error error => .error error
  | .ok place =>
    match disk.node? place, disk.node? place.dropLast with
    | some _, _ => .error .alreadyExists
    | none, some .directory => .ok place
    | none, some (.file _) => .error .notDirectory
    | none, none => .error .noEntry

def makeDirectory (path : String) : Call Unit :=
  faultable fun disk => do return ((), disk.put (← disk.free path) .directory)

def createNew (path : String) : Call Place :=
  faultable fun disk => do
    let place ← disk.free path
    return (place, disk.put place (.file []))

def create (path : String) : Call Place :=
  faultable fun disk =>
    match disk.find path with
    | .ok .directory => .error .isDirectory
    | .ok (.file _) => do
      let place ← disk.locate path
      return (place, disk.put place (.file []))
    | .error .noEntry => do
      let place ← disk.free path
      return (place, disk.put place (.file []))
    | .error error => .error error

/-- Appends to a file that is open. If it has been removed meanwhile, the bytes are lost. -/
def extend (disk : Disk) (place : Place) (bytes : Bytes) : Disk :=
  match disk.node? place with
  | some (.file content) => disk.put place (.file (content ++ bytes))
  | _ => disk

def append (place : Place) (bytes : Bytes) : Call Unit := fun disk =>
  match disk.faults with
  | some fault :: faults =>
    (.error fault.error, { disk with faults }.extend place (bytes.take fault.written))
  | faults => (.ok (), { disk with faults := faults.tail }.extend place bytes)

def sync (_place : Place) : Call Unit :=
  faultable fun disk => .ok ((), disk)

def read (path : String) : Call Bytes :=
  faultable fun disk =>
    match disk.find path with
    | .ok (.file content) => .ok (content, disk)
    | .ok .directory => .error .isDirectory
    | .error error => .error error

/-- Opens a file to read from it. A directory can be opened as well; reading from it fails. -/
def openToRead (path : String) : Call Place :=
  faultable fun disk =>
    match disk.find path with
    | .ok _ => do return (← disk.locate path, disk)
    | .error error => .error error

/-- Reads an open file to its end; gives the bytes, and what went wrong after
them, if anything did. -/
def drain (place : Place) : Call (Bytes × Option IoError) := fun disk =>
  let next := { disk with faults := disk.faults.tail }
  let all : Bytes × Option IoError :=
    match disk.node? place with
    | some (.file content) => (content, none)
    | some .directory => ([], some .isDirectory)
    | none => ([], none)
  match disk.faults with
  | some fault :: _ => (.ok (all.1.take fault.written, some fault.error), next)
  | _ => (.ok all, next)

def remove (path : String) : Call Unit :=
  faultable fun disk =>
    match disk.find path with
    | .ok (.file _) => do return ((), disk.erase (← disk.locate path))
    | .ok .directory => .error .isDirectory
    | .error error => .error error

def rename (source target : String) : Call Unit :=
  faultable fun disk =>
    match disk.find source, disk.find target with
    | .error error, _ => .error error
    | .ok .directory, _ | _, .ok .directory => .error .isDirectory
    | .ok (.file content), .ok (.file _) => do
      let source ← disk.locate source
      let target ← disk.locate target
      return ((), if source = target then disk else (disk.erase source).put target (.file content))
    | .ok (.file content), .error .noEntry => do
      let source ← disk.locate source
      let target ← disk.free target
      return ((), (disk.erase source).put target (.file content))
    | .ok (.file _), .error error => .error error

def write (path : String) (content : Bytes) : Call Unit := do
  append (← create path) content

end Disk

end AttachmentFetch
