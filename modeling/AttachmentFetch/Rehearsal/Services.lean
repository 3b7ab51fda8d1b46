import AttachmentFetch.Envelope

/-! Services that follow a script and keep a list of what they were asked for. -/
namespace AttachmentFetch.Rehearsal

/-- What a scripted download does: it writes, it may remove the file again, and
it may fail. -/
structure Delivery where
  body : Bytes := []
  removes : Bool := false
  error : Option TransferError := none
  deriving DecidableEq, Repr

inductive Decryption where
  | fails (error : OpenError)
  | yields (plaintext : Bytes)
  | genuine
  deriving DecidableEq, Repr

structure Script where
  pointer : Option Pointer
  /-- One for each download; the last one repeats. -/
  deliveries : List Delivery
  decryption : Decryption
  /-- Failures of the calls to the store, in the order of each kind of call. -/
  findErrors : List (Option ErrorChain) := []
  setErrors : List (Option ErrorChain) := []
  insertErrors : List (Option ErrorChain) := []

inductive Request where
  | findPointer (attachment : AttachmentId)
  | setState (state : AttachmentState) (attachment : AttachmentId) (message : MessageId)
  | download (url : String) (limit : UInt64) (options : TransferOptions) (fileExists : Bool)
  | openSealed (expected : UInt64) (key digest : Bytes) (fileExists : Bool)
  | insert (message : MessageId) (attachment : AttachmentId) (content : Bytes)
  | insertRefused (message : MessageId) (attachment : AttachmentId)
  deriving DecidableEq, Repr

def Request.isFind : Request → Bool
  | findPointer _ => true
  | _ => false

def Request.isSet : Request → Bool
  | setState _ _ _ => true
  | _ => false

def Request.isInsert : Request → Bool
  | insert _ _ _ | insertRefused _ _ => true
  | _ => false

def Request.isDownload : Request → Bool
  | download _ _ _ _ => true
  | _ => false

abbrev Trace := List Request

def note (request : Request) : Step (Scene Trace) ε Unit :=
  modify fun scene => { scene with rest := scene.rest ++ [request] }

def nextError (isKind : Request → Bool) (errors : List (Option ErrorChain)) (trace : Trace) :
    Option ErrorChain :=
  (errors[trace.countP isKind]?).join

def check : Option ErrorChain → Step (Scene Trace) ErrorChain Unit
  | some error => throw error
  | none => return ()

def Script.delivery (script : Script) (index : Nat) : Delivery :=
  (script.deliveries[index]?).getD (script.deliveries.getLastD {})

def Script.services (script : Script) : Services Trace where
  findPointer attachment := do
    let error := nextError Request.isFind script.findErrors (← get).rest
    note (.findPointer attachment)
    check error
    return script.pointer
  setState state attachment message := do
    let error := nextError Request.isSet script.setErrors (← get).rest
    note (.setState state attachment message)
    check error
  insertContent message attachment content := do
    match nextError Request.isInsert script.insertErrors (← get).rest with
    | some error =>
      note (.insertRefused message attachment)
      throw error
    | none => note (.insert message attachment content.bytes)
  download destination url limit options := do
    let scene ← get
    let delivery := script.delivery (scene.rest.countP Request.isDownload)
    note (.download url limit options (scene.disk.exists? destination))
    (Scene.onDisk (Disk.write destination delivery.body)).mapError .io
    if delivery.removes then (Scene.onDisk (Disk.remove destination)).mapError .io
    match delivery.error with
    | some error => throw error
    | none => return ()
  openSealed source expected key digest := do
    note (.openSealed expected key digest ((← get).disk.exists? source))
    match script.decryption with
    | .fails error => throw error
    | .yields plaintext => return { bytes := plaintext }
    | .genuine => Envelope.openFile source expected key digest

end AttachmentFetch.Rehearsal
