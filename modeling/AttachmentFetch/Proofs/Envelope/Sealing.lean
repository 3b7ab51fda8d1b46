import AttachmentFetch.Proofs.Envelope

/-! Sealing and opening again: counter mode is its own inverse, so an envelope that was
sealed passes every check under the same key and opens to what was sealed. -/
namespace AttachmentFetch.Crypto

namespace Gcm

theorem length_keystream (cipher : Cipher) (nonce : Nonce) (blocks counter : Nat) :
    (cipher.keystream nonce blocks counter).length = 16 * blocks := by
  induction blocks generalizing counter with
  | zero => rfl
  | succ blocks ih =>
    rw [Cipher.keystream, List.length_append, Vector.length_toList, ih]
    omega

theorem zipWith_xor_cancel {text stream : Bytes} (covered : text.length ≤ stream.length) :
    List.zipWith (· ^^^ ·) (List.zipWith (· ^^^ ·) text stream) stream = text := by
  induction text generalizing stream with
  | nil => rfl
  | cons byte text ih =>
    cases stream with
    | nil => cases covered
    | cons mask stream =>
      rw [List.zipWith_cons_cons, List.zipWith_cons_cons, ih (Nat.le_of_succ_le_succ covered),
        UInt8.xor_assoc, UInt8.xor_self, UInt8.xor_zero]

@[simp] theorem length_crypt (cipher : Cipher) (nonce : Nonce) (text : Bytes) :
    (cipher.crypt nonce text).length = text.length := by
  rw [Cipher.crypt, List.length_zipWith, length_keystream]
  omega

theorem crypt_crypt (cipher : Cipher) (nonce : Nonce) (text : Bytes) :
    cipher.crypt nonce (cipher.crypt nonce text) = text := by
  have covered : text.length ≤ (cipher.keystream nonce ((text.length + 15) / 16) 2).length := by
    rw [length_keystream]
    omega
  rw [Cipher.crypt, length_crypt]
  exact zipWith_xor_cancel covered

@[simp] theorem length_tag (cipher : Cipher) (nonce : Nonce) (ciphertext : Bytes) :
    (cipher.tag nonce ciphertext).length = 16 :=
  Vector.length_toList

@[simp] theorem length_encrypt (key : Aes.Key) (nonce : Nonce) (plaintext : Bytes) :
    (encrypt key nonce plaintext).length = plaintext.length + 16 := by
  simp [encrypt]

theorem decrypt_encrypt (key : Aes.Key) (nonce : Nonce) {plaintext : Bytes}
    (short : plaintext.length ≤ longestText) :
    decrypt key nonce (encrypt key nonce plaintext) = some plaintext := by
  have fits : ¬((encrypt key nonce plaintext).length < 16 ∨
      longestText + 16 < (encrypt key nonce plaintext).length - 16) := by
    rw [length_encrypt]
    omega
  have front : (encrypt key nonce plaintext).take ((encrypt key nonce plaintext).length - 16) =
      (Cipher.ofKey key).crypt nonce plaintext := by
    rw [length_encrypt, Nat.add_sub_cancel]
    exact List.take_left' (length_crypt ..)
  have back : (encrypt key nonce plaintext).drop ((encrypt key nonce plaintext).length - 16) =
      (Cipher.ofKey key).tag nonce ((Cipher.ofKey key).crypt nonce plaintext) := by
    rw [length_encrypt, Nat.add_sub_cancel]
    exact List.drop_left' (length_crypt ..)
  rw [decrypt, if_neg fits]
  dsimp only
  rw [front, back, if_pos rfl, crypt_crypt]

end Gcm

theorem Sha256.length_digest (message : Bytes) : (digest message).length = 32 := rfl

end AttachmentFetch.Crypto

namespace AttachmentFetch.Envelope

theorem exactly?_toList {count : Nat} (bytes : Vector UInt8 count) :
    exactly? count bytes.toList = some bytes := by
  rw [exactly?, dif_pos Vector.length_toList]
  rfl

section Seal
variable {nonce : Crypto.Gcm.Nonce} {plaintext key : Bytes} {sealed : Sealed}

theorem sealUnder_ok (h : sealUnder nonce plaintext key = .ok sealed) :
    ∃ key' : Crypto.Aes.Key, key = key'.toList ∧ plaintext.length ≤ Crypto.Gcm.longestText ∧
      sealed.envelope = nonce.toList ++ Crypto.Gcm.encrypt key' nonce plaintext ∧
      sealed.digest = Crypto.Sha256.digest sealed.envelope := by
  unfold sealUnder at h
  split at h
  · cases h
  next key' keyed =>
    split at h
    · cases h
    next short =>
      cases h
      exact ⟨key', (exactly?_eq_some keyed).symm, Nat.not_lt.1 short, rfl, rfl⟩

variable (nonce) in
theorem exists_sealed (key : Crypto.Aes.Key)
    (short : plaintext.length ≤ Crypto.Gcm.longestText) :
    ∃ sealed, sealUnder nonce plaintext key.toList = .ok sealed := by
  have keyed : exactly? keyLength key.toList = some key := exactly?_toList key
  simp only [sealUnder, keyed, Nat.not_lt.2 short, if_false]
  exact ⟨_, rfl⟩

theorem length_sealed (h : sealUnder nonce plaintext key = .ok sealed) :
    sealed.envelope.length = plaintext.length + 28 := by
  obtain ⟨key', -, -, envelope, -⟩ := sealUnder_ok h
  rw [envelope, List.length_append, Vector.length_toList, Crypto.Gcm.length_encrypt]
  omega

theorem openChecked_sealed (h : sealUnder nonce plaintext key = .ok sealed) {expected : UInt64}
    (size : expected = 0 ∨ expected.toNat = plaintext.length) :
    openChecked sealed.envelope expected key sealed.digest = .ok plaintext := by
  have length := length_sealed h
  obtain ⟨key', rfl, short, envelope, digest⟩ := sealUnder_ok h
  have front : sealed.envelope.take nonceLength = nonce.toList := by
    rw [envelope]
    exact List.take_left' Vector.length_toList
  have back : sealed.envelope.drop nonceLength = Crypto.Gcm.encrypt key' nonce plaintext := by
    rw [envelope]
    exact List.drop_left' Vector.length_toList
  have long : ¬sealed.envelope.length < nonceLength + tagLength := by
    rw [length, nonceLength, tagLength]
    omega
  have sized : ¬(expected ≠ 0 ∧ UInt64.ofNat plaintext.length ≠ expected) := by
    rintro ⟨known, differs⟩
    have same := size.resolve_left known
    exact differs (by rw [← same, UInt64.ofNat_toNat])
  have nonced : exactly? nonceLength nonce.toList = some nonce := exactly?_toList nonce
  have keyed : exactly? keyLength key'.toList = some key' := exactly?_toList key'
  simp only [openChecked, front, nonced, long, digest, keyed, back,
    Crypto.Gcm.decrypt_encrypt key' nonce short, sized, ne_eq, not_true_eq_false, if_false]

end Seal

end AttachmentFetch.Envelope
