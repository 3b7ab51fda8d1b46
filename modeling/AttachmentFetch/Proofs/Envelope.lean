import AttachmentFetch.Envelope
import AttachmentFetch.Proofs.Disk.Calls
import AttachmentFetch.Proofs.Scene

/-! What an opened envelope has passed: every check is made before any of its
content is given away. -/
namespace AttachmentFetch.Envelope

/-- The envelope has room for its fixed parts, its digest is the one expected, and it
opens under the key to content of the expected length. -/
structure Verified (envelope : Bytes) (expected : UInt64) (key digest plaintext : Bytes) :
    Prop where
  long : 28 ≤ envelope.length
  digest_eq : Crypto.Sha256.digest envelope = digest
  opened : ∃ (key' : Crypto.Aes.Key) (nonce : Crypto.Gcm.Nonce), key'.toList = key ∧
    nonce.toList = envelope.take 12 ∧
    Crypto.Gcm.decrypt key' nonce (envelope.drop 12) = some plaintext
  size : expected = 0 ∨ expected = UInt64.ofNat plaintext.length

theorem exactly?_eq_some {count : Nat} {bytes : Bytes} {vector : Vector UInt8 count}
    (h : exactly? count bytes = some vector) : vector.toList = bytes := by
  unfold exactly? at h
  split at h
  · cases h
    rfl
  · cases h

theorem openChecked_ok {envelope key digest plaintext : Bytes} {expected : UInt64}
    (h : openChecked envelope expected key digest = .ok plaintext) :
    Verified envelope expected key digest plaintext := by
  -- One check after the other; whichever fails gives an error.
  unfold openChecked at h
  split at h
  · cases h
  rename_i nonce nonce_eq
  split at h
  · cases h
  rename_i long
  split at h
  · cases h
  rename_i digest_eq
  split at h
  · cases h
  rename_i key' key_eq
  split at h
  · cases h
  rename_i decrypted
  dsimp only at h
  split at h
  · cases h
  rename_i size
  cases h
  constructor
  · exact Nat.not_lt.1 long
  · exact Decidable.not_not.1 digest_eq
  · exact ⟨key', nonce, exactly?_eq_some key_eq, exactly?_eq_some nonce_eq, decrypted⟩
  · by_cases unknown : expected = 0
    · exact .inl unknown
    · apply Or.inr
      apply Decidable.byContradiction
      intro differs
      exact size ⟨unknown, fun same => differs same.symm⟩

theorem length_decrypt {key : Crypto.Aes.Key} {nonce : Crypto.Gcm.Nonce} {box plaintext : Bytes}
    (h : Crypto.Gcm.decrypt key nonce box = some plaintext) : plaintext.length ≤ box.length := by
  unfold Crypto.Gcm.decrypt at h
  split at h
  · cases h
  · dsimp only at h
    split at h
    · cases h
      simp only [Crypto.Gcm.Cipher.crypt, List.length_zipWith, List.length_take]
      omega
    · cases h

theorem Verified.size_toNat {envelope key digest plaintext : Bytes} {expected : UInt64}
    (verified : Verified envelope expected key digest plaintext)
    (within : envelope.length < UInt64.size) :
    expected = 0 ∨ expected.toNat = plaintext.length := by
  apply verified.size.imp id
  intro size
  obtain ⟨key', nonce, -, -, decrypted⟩ := verified.opened
  have short := length_decrypt decrypted
  rw [List.length_drop] at short
  rw [size, UInt64.toNat_ofNat']
  exact Nat.mod_eq_of_lt (by unfold UInt64.size at within; omega)

theorem openFile_ok {source : String} {expected : UInt64} {key digest : Bytes}
    {content : Content} {scene after : Scene ρ}
    (h : (openFile source expected key digest).on scene = (.ok content, after)) :
    content.failure = none ∧
      ∃ envelope, scene.disk.file? (scene.disk.target source) = some envelope ∧
        Verified envelope expected key digest content.bytes := by
  obtain ⟨envelope, _, reading, h⟩ := Step.bind_ok h
  obtain ⟨disk, read, rfl⟩ := Step.onDisk_ok (Step.mapError_ok reading)
  obtain ⟨bytes, _, opening, h⟩ := Step.bind_ok h
  rw [Step.on_reads] at opening
  obtain ⟨opened, rfl⟩ := Prod.mk.inj opening
  cases h
  exact ⟨rfl, envelope, (Disk.read_ok read).1, openChecked_ok opened⟩

theorem openFile_keeps (paths : List String) (source : String) (expected : UInt64)
    (key digest : Bytes) :
    Step.Keeps (Scene.WritesFiles paths : Scene ρ → Scene ρ → Prop)
      (openFile source expected key digest) := by
  refine .bind (.mapError _ (.onDisk fun disk => ?_)) fun envelope =>
    .bind (fun _ => Std.Refl.refl _) fun bytes => .pure _
  rw [Disk.read_on]
  exact Disk.touchesOnly_started disk _

theorem openFile_disks {R : Disk → Disk → Prop} [Std.Refl R] [Trans R R R]
    (starts : ∀ disk, R disk disk.started) (source : String) (expected : UInt64)
    (key digest : Bytes) :
    Step.Keeps (Scene.Disks R : Scene ρ → Scene ρ → Prop)
      (openFile source expected key digest) := by
  refine .bind (.mapError _ (.onDisk fun disk => ?_)) fun envelope =>
    .bind (fun scene => Std.Refl.refl scene.disk) fun bytes => .pure _
  rw [Disk.read_on]
  exact starts disk

end AttachmentFetch.Envelope
