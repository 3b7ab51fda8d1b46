import AttachmentFetch.Crypto.Gcm
import AttachmentFetch.Crypto.Sha256
import AttachmentFetch.ErrorChain
import AttachmentFetch.Failure
import AttachmentFetch.Services

/-! Attachment envelopes: a nonce, a ciphertext and its tag, together with a
digest of the whole that travels with the pointer. -/
namespace AttachmentFetch.Envelope

def keyLength : Nat := 32
def nonceLength : Nat := 12
def tagLength : Nat := 16

structure Sealed where
  envelope : Bytes
  digest : Bytes
  deriving DecidableEq, Repr

def exactly? (count : Nat) (bytes : Bytes) : Option (Vector UInt8 count) :=
  if h : bytes.length = count then some ⟨bytes.toArray, by simpa using h⟩ else none

/-- Seals under a nonce, which the caller draws and never uses twice with a key. -/
def sealUnder (nonce : Crypto.Gcm.Nonce) (plaintext key : Bytes) : Except ErrorChain Sealed :=
  match exactly? keyLength key with
  | none => .error (.root s!"attachment key must be {keyLength} bytes")
  | some key =>
    if Crypto.Gcm.longestText < plaintext.length then
      .error (.root "Failed to encrypt: aead::Error")
    else
      let envelope := nonce.toList ++ Crypto.Gcm.encrypt key nonce plaintext
      .ok ⟨envelope, Crypto.Sha256.digest envelope⟩

/-- Opens an envelope whose digest is known. Its length is looked at first, then
the digest, the key, the tag and last the plaintext's length, if one is expected. -/
def openChecked (envelope : Bytes) (expected : UInt64) (key digest : Bytes) :
    Except OpenError Bytes :=
  match exactly? nonceLength (envelope.take nonceLength) with
  | none => .error (tooShort envelope)
  | some nonce =>
    if envelope.length < nonceLength + tagLength then .error (tooShort envelope)
    else if Crypto.Sha256.digest envelope ≠ digest then .error .authFailure
    else match exactly? keyLength key with
      | none => .error (.invalidKey s!"expected {keyLength} bytes, got {key.length}")
      | some key =>
        match Crypto.Gcm.decrypt key nonce (envelope.drop nonceLength) with
        | none => .error .authFailure
        | some plaintext =>
          let actual := UInt64.ofNat plaintext.length
          if expected ≠ 0 ∧ actual ≠ expected then .error (.sizeMismatch expected actual)
          else .ok plaintext
where
  tooShort (envelope : Bytes) : OpenError :=
    .parseFailure s!"envelope of {envelope.length} bytes is shorter than nonce and tag"

/-- Reads a whole envelope from a file and opens it; only then is there any content. -/
def openFile (source : String) (expected : UInt64) (key digest : Bytes) :
    Step (Scene ρ) OpenError Content := do
  let envelope ← (Scene.onDisk (Disk.read source)).mapError .io
  let bytes ← Step.reads fun _ => openChecked envelope expected key digest
  return { bytes }

end AttachmentFetch.Envelope
