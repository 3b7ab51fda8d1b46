import AttachmentFetch.Disk.Basic

/-! Directories with all that lies above or below them. -/
namespace AttachmentFetch.Disk

/-- Makes a directory and answers whether that was all there was to do. A path
whose parent is missing is left for later; an existing directory is fine. -/
def reach (path : String) : Call Bool := do
  match ← Step.outcome (makeDirectory path) with
  | .ok () => return true
  | .error error =>
    if error.kind = .notFound then return false
    else if error.kind = .alreadyExists ∧ (← get).isDirectory path then return true
    else throw error

/-- Goes outwards until a directory can be made or is there; gives the paths
that are still to be made, innermost first. -/
def missing : List String → Call (List String)
  | [] => return []
  | path :: rest => do
    if ← reach path then return []
    else return path :: (← missing rest)

def makeAll : List String → Call Unit
  | [] => return ()
  | path :: rest => do
    makeAll rest
    match ← Step.outcome (makeDirectory path) with
    | .ok () => return ()
    | .error error =>
      if error.kind = .alreadyExists ∧ (← get).isDirectory path then return () else throw error

def makeDirectories (path : String) : Call Unit := do
  makeAll (← missing (Path.directories path))

def removeAll (path : String) : Call Unit :=
  faultable fun disk => do
    let _ ← disk.find path
    let place ← disk.locate path
    return ((), { disk with nodes := disk.nodes.filter fun (inner, _) => !place.isPrefixOf inner })

/-- All nodes below a path in the order of their names, each directory before
what it holds, by their places relative to the path. -/
def tree (disk : Disk) (path : String) : List (Place × Node) :=
  match disk.locate path with
  | .error _ => []
  | .ok place =>
    let below := disk.nodes.filterMap fun (inner, node) =>
      if place.isPrefixOf inner ∧ inner ≠ place then some (inner.drop place.length, node) else none
    below.mergeSort fun a b => !decide (b.1 < a.1)

end AttachmentFetch.Disk
