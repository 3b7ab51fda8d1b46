import AttachmentFetch.Backend
import AttachmentFetch.Disk.Directory
import AttachmentFetch.Services

/-! The attachment store: pointers and states in the database, contents in
files below the parts directory, one directory a message. -/
namespace AttachmentFetch

structure Repository where
  partsDirectory : String
  deriving DecidableEq, Repr

namespace Repository

def messageDirectory (repository : Repository) (message : MessageId) : String :=
  Path.join repository.partsDirectory (toString message)

def partFile (repository : Repository) (message : MessageId) (attachment : AttachmentId) :
    String :=
  Path.join (repository.messageDirectory message) s!"{attachment}.bin"

/-- Where content lies until all of it has arrived. -/
def unfinishedFile (repository : Repository) (message : MessageId) (attachment : AttachmentId) :
    String :=
  Path.join (repository.messageDirectory message) s!"{attachment}.partial"

def insertMessage (message : MessageId) : Step (Scene Backend) ErrorChain Unit := do
  let row : MessageRow := ⟨message, Backend.now (← get)⟩
  Backend.query fun db =>
    inContext s!"failed to insert message {message}"
      (((db.insertMessage row).mapError DatabaseError.chain).map ((), ·))

def insertPointer (pointer : Pointer) : Step (Scene Backend) ErrorChain Unit := do
  let now := Backend.now (← get)
  let row ← Step.reads fun _ => AttachmentRow.ofPointer pointer now
  Backend.query fun db =>
    inContext s!"failed to insert attachment {pointer.id} of message {pointer.message}"
      (((db.insertAttachment row).mapError DatabaseError.chain).map ((), ·))

def findRow (attachment : AttachmentId) : Step (Scene Backend) ErrorChain (Option AttachmentRow) :=
  Backend.query fun db =>
    ((db.findAttachment attachment).mapError DatabaseError.chain).map (·, db)

def findPointer (attachment : AttachmentId) :
    Step (Scene Backend) ErrorChain (Option Pointer) :=
  (do
    match ← findRow attachment with
    | none => return none
    | some row => return some (← Step.reads fun _ => row.toPointer) :
      Step (Scene Backend) ErrorChain (Option Pointer)).mapError
    (·.context s!"failed to load attachment {attachment}")

def findState (attachment : AttachmentId) :
    Step (Scene Backend) ErrorChain (Option AttachmentState) := do
  match ← findRow attachment with
  | none => return none
  | some row =>
    match AttachmentState.ofName? row.state with
    | some state => return some state
    | none => throw (.root (AttachmentState.unknownMessage row.state))

def findPart (attachment : AttachmentId) : Step (Scene Backend) ErrorChain (Option String) := do
  return (← findRow attachment).bind (·.partFile)

def setState (state : AttachmentState) (attachment : AttachmentId) (message : MessageId) :
    Step (Scene Backend) ErrorChain Unit := do
  let now := Backend.now (← get)
  let update : Step (Scene Backend) ErrorChain Nat := Backend.query fun db =>
    (db.updateAttachment attachment message
      ({ · with state := state.name, updatedAt := now })).mapError DatabaseError.chain
  let _ ← update.mapError (·.context s!"failed to set attachment {attachment} to {state.name}")

def owns (message : MessageId) (attachment : AttachmentId) :
    Step (Scene Backend) ErrorChain Bool :=
  Backend.query fun db =>
    (db.attachmentRows.mapError DatabaseError.chain).map fun rows =>
      (rows.any fun row => row.id = attachment && row.message = message, db)

/-- Publishes that content is stored; gives the number of rows that took note. -/
def publishDone (attachment : AttachmentId) (message : MessageId) (part : String) (written : Nat) :
    Step (Scene Backend) ErrorChain Nat := do
  let now := Backend.now (← get)
  match int64? written with
  | none => throw (.root "number too large to fit in target type")
  | some written =>
    Backend.query fun db =>
      (db.updateAttachment attachment message fun row =>
        { row with
          state := AttachmentState.done.name
          partFile := some part
          storedSize := some written
          updatedAt := now }).mapError DatabaseError.chain

/-- Removes a file that is of no use any more. That it is gone already is fine. -/
def clearAway (path : String) : Step (Scene ρ) ε Unit := do
  match ← Step.outcome (Scene.onDisk (Disk.remove path)) with
  | .ok () => return ()
  | .error error =>
    if error.kind = .notFound then return ()
    else modify (·.record .warn "Failed to remove attachment part"
      [("path", path), ("error", error.message)])

/-- Writes content to a file beside its final place and moves it there when all
of it is safe; gives its length. `meanwhile` happens when the first byte is asked for. -/
def writePart (unfinished part : String) (content : Content)
    (meanwhile : Scene Backend → Scene Backend) : Step (Scene Backend) IoError Nat := do
  let file ← Scene.onDisk (Disk.create unfinished)
  modify meanwhile
  Scene.onDisk (Disk.append file content.bytes)
  if let some failure := content.failure then throw failure
  Scene.onDisk (Disk.sync file)
  Scene.onDisk (Disk.rename unfinished part)
  return content.bytes.length

/-- Brings content to its final place, as something else happens meanwhile; gives
its length. Only an attachment that belongs to the message is given any room. -/
def deliver (repository : Repository) (message : MessageId) (attachment : AttachmentId)
    (content : Content) (meanwhile : Scene Backend → Scene Backend) :
    Step (Scene Backend) ErrorChain Nat := do
  if !(← owns message attachment) then
    throw (.root s!"attachment {attachment} does not belong to message {message}")
  let directory := repository.messageDirectory message
  let part := repository.partFile message attachment
  let unfinished := repository.unfinishedFile message attachment
  (Scene.onDisk (Disk.makeDirectories directory)).mapError fun error =>
    (ErrorChain.root error.message).context s!"failed to create {directory}"
  match ← Step.outcome (writePart unfinished part content meanwhile) with
  | .error error =>
    clearAway unfinished
    throw ((ErrorChain.root error.message).context s!"failed to write attachment part {part}")
  | .ok written => return written

/-- Publishes content that lies at its final place. If that fails, it is removed. -/
def publish (repository : Repository) (message : MessageId) (attachment : AttachmentId)
    (written : Nat) : Step (Scene Backend) ErrorChain Unit := do
  let part := repository.partFile message attachment
  match ← Step.outcome (publishDone attachment message part written) with
  | .error error =>
    clearAway part
    throw (error.context s!"failed to mark attachment {attachment} done")
  | .ok 0 =>
    clearAway part
    throw (.root s!"attachment {attachment} disappeared while storing its content")
  | .ok _ => return ()

def insertDuring (repository : Repository) (message : MessageId) (attachment : AttachmentId)
    (content : Content) (meanwhile : Scene Backend → Scene Backend) :
    Step (Scene Backend) ErrorChain Unit := do
  repository.publish message attachment
    (← repository.deliver message attachment content meanwhile)

def insertContent (repository : Repository) (message : MessageId) (attachment : AttachmentId)
    (content : Content) : Step (Scene Backend) ErrorChain Unit :=
  repository.insertDuring message attachment content id

end Repository

end AttachmentFetch
