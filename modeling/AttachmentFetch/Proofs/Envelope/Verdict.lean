import AttachmentFetch.Proofs.Envelope.Sealing

/-! Which envelopes open, and what is said of the others. An envelope that opens is, byte
for byte, what sealing its content under its own nonce gives: counter mode leaves one
ciphertext to a plaintext, and the tag is computed from that. -/
namespace AttachmentFetch

namespace Crypto.Gcm
variable {key : Aes.Key} {nonce : Nonce} {box plaintext : Bytes}

theorem encrypt_of_decrypt (h : decrypt key nonce box = some plaintext) :
    encrypt key nonce plaintext = box := by
  unfold decrypt at h
  split at h
  · cases h
  dsimp only at h
  split at h
  next tagged =>
    cases h
    rw [encrypt, crypt_crypt, ← tagged, List.take_append_drop]
  · cases h

theorem length_of_decrypt (h : decrypt key nonce box = some plaintext) :
    box.length = plaintext.length + 16 := by
  rw [← encrypt_of_decrypt h, length_encrypt]

theorem length_lt_of_decrypt (h : decrypt key nonce box = some plaintext) :
    plaintext.length < UInt64.size := by
  have length := length_of_decrypt h
  unfold decrypt at h
  split at h
  · cases h
  next fits =>
    unfold longestText at fits
    unfold UInt64.size
    omega

end Crypto.Gcm

namespace Envelope

theorem exactly?_of_toList {count : Nat} {bytes : Bytes} {vector : Vector UInt8 count}
    (h : vector.toList = bytes) : exactly? count bytes = some vector :=
  h ▸ exactly?_toList vector

theorem exists_exactly? {count : Nat} {bytes : Bytes} (length : bytes.length = count) :
    ∃ vector, exactly? count bytes = some vector :=
  ⟨_, dif_pos length⟩

theorem exactly?_eq_none {count : Nat} {bytes : Bytes} :
    exactly? count bytes = none ↔ bytes.length ≠ count := by
  unfold exactly?
  split <;> simp_all

/-- Room for the fixed parts, and the right digest. -/
structure Attested (envelope digest : Bytes) : Prop where
  long : 28 ≤ envelope.length
  digest_eq : digest = Crypto.Sha256.digest envelope

/-- What is to be said of an envelope. Each case begins where those before it end; no key is
looked at before the digest, and no tag without a key. -/
inductive Verdict (envelope : Bytes) (expected : UInt64) (key digest : Bytes) :
    Except OpenError Bytes → Prop
  | short (short : envelope.length < 28) :
    Verdict envelope expected key digest (.error (.parseFailure
      s!"envelope of {envelope.length} bytes is shorter than nonce and tag"))
  | foreign (long : 28 ≤ envelope.length) (differs : digest ≠ Crypto.Sha256.digest envelope) :
    Verdict envelope expected key digest (.error .authFailure)
  | keyless (attested : Attested envelope digest) (unfit : key.length ≠ 32) :
    Verdict envelope expected key digest
      (.error (.invalidKey s!"expected 32 bytes, got {key.length}"))
  | forged {key' nonce} (attested : Attested envelope digest)
    (keyed : key'.toList = key) (nonced : nonce.toList = envelope.take 12)
    (rejected : Crypto.Gcm.decrypt key' nonce (envelope.drop 12) = none) :
    Verdict envelope expected key digest (.error .authFailure)
  | missized {key' nonce plaintext actual} (attested : Attested envelope digest)
    (keyed : key'.toList = key) (nonced : nonce.toList = envelope.take 12)
    (opened : Crypto.Gcm.decrypt key' nonce (envelope.drop 12) = some plaintext)
    (known : expected ≠ 0) (differs : expected.toNat ≠ envelope.length - 28)
    (counted : actual.toNat = envelope.length - 28) :
    Verdict envelope expected key digest (.error (.sizeMismatch expected actual))
  | opened {key' nonce plaintext} (attested : Attested envelope digest)
    (keyed : key'.toList = key) (nonced : nonce.toList = envelope.take 12)
    (opened : Crypto.Gcm.decrypt key' nonce (envelope.drop 12) = some plaintext)
    (length : plaintext.length = envelope.length - 28)
    (size : expected = 0 ∨ expected.toNat = envelope.length - 28) :
    Verdict envelope expected key digest (.ok plaintext)

section Open
variable {envelope key digest plaintext : Bytes} {expected : UInt64} {key' : Crypto.Aes.Key}
  {nonce : Crypto.Gcm.Nonce}

theorem length_opened
    (opened : Crypto.Gcm.decrypt key' nonce (envelope.drop 12) = some plaintext) :
    plaintext.length = envelope.length - 28 := by
  have length := Crypto.Gcm.length_of_decrypt opened
  rw [List.length_drop] at length
  omega

theorem toNat_length_opened
    (opened : Crypto.Gcm.decrypt key' nonce (envelope.drop 12) = some plaintext) :
    (UInt64.ofNat (envelope.length - 28)).toNat = envelope.length - 28 :=
  UInt64.toNat_ofNat_of_lt' (length_opened opened ▸ Crypto.Gcm.length_lt_of_decrypt opened)

theorem exists_nonce (long : 28 ≤ envelope.length) :
    ∃ nonce : Crypto.Gcm.Nonce, nonce.toList = envelope.take 12 := by
  have length : (envelope.take 12).length = 12 := by
    rw [List.length_take]
    omega
  obtain ⟨nonce, nonced⟩ := exists_exactly? length
  exact ⟨nonce, exactly?_eq_some nonced⟩

theorem openChecked_short (short : envelope.length < 28) :
    openChecked envelope expected key digest = .error (.parseFailure
      s!"envelope of {envelope.length} bytes is shorter than nonce and tag") := by
  unfold openChecked
  split
  · rfl
  · exact if_pos short

theorem openChecked_long (long : 28 ≤ envelope.length) (nonced : nonce.toList = envelope.take 12) :
    openChecked envelope expected key digest =
      if Crypto.Sha256.digest envelope ≠ digest then .error .authFailure
      else match exactly? keyLength key with
        | none => .error (.invalidKey s!"expected {keyLength} bytes, got {key.length}")
        | some key => match Crypto.Gcm.decrypt key nonce (envelope.drop nonceLength) with
          | none => .error .authFailure
          | some plaintext =>
            if expected ≠ 0 ∧ UInt64.ofNat plaintext.length ≠ expected then
              .error (.sizeMismatch expected (UInt64.ofNat plaintext.length))
            else .ok plaintext := by
  have found : exactly? nonceLength (envelope.take nonceLength) = some nonce :=
    exactly?_of_toList nonced
  have roomy : ¬envelope.length < nonceLength + tagLength := Nat.not_lt.2 long
  rw [openChecked, found]
  exact if_neg roomy

theorem openChecked_foreign (long : 28 ≤ envelope.length)
    (differs : digest ≠ Crypto.Sha256.digest envelope) :
    openChecked envelope expected key digest = .error .authFailure := by
  obtain ⟨nonce, nonced⟩ := exists_nonce long
  rw [openChecked_long long nonced, if_pos differs.symm]

theorem openChecked_keyless (attested : Attested envelope digest) (unfit : key.length ≠ 32) :
    openChecked envelope expected key digest =
      .error (.invalidKey s!"expected 32 bytes, got {key.length}") := by
  obtain ⟨nonce, nonced⟩ := exists_nonce attested.long
  have keyless : exactly? keyLength key = none := exactly?_eq_none.2 unfit
  rw [openChecked_long attested.long nonced, if_neg (not_not_intro attested.digest_eq.symm),
    keyless]
  rfl

theorem openChecked_keyed (attested : Attested envelope digest) (keyed : key'.toList = key)
    (nonced : nonce.toList = envelope.take 12) :
    openChecked envelope expected key digest =
      match Crypto.Gcm.decrypt key' nonce (envelope.drop 12) with
      | none => .error .authFailure
      | some plaintext =>
        if expected ≠ 0 ∧ expected.toNat ≠ envelope.length - 28 then
          .error (.sizeMismatch expected (UInt64.ofNat (envelope.length - 28)))
        else .ok plaintext := by
  have found : exactly? keyLength key = some key' := exactly?_of_toList keyed
  rw [openChecked_long attested.long nonced, if_neg (not_not_intro attested.digest_eq.symm), found,
    nonceLength]
  dsimp only
  cases opened : Crypto.Gcm.decrypt key' nonce (envelope.drop 12) with
  | none => rfl
  | some plaintext =>
    have length := length_opened opened
    have counted := toNat_length_opened opened
    have same : UInt64.ofNat (envelope.length - 28) = expected ↔
        expected.toNat = envelope.length - 28 := by
      rw [← UInt64.toNat_inj, counted, eq_comm]
    simp only [ne_eq, length, same]

theorem openChecked_iff {result : Except OpenError Bytes} :
    openChecked envelope expected key digest = result ↔
      Verdict envelope expected key digest result := by
  constructor
  · rintro rfl
    by_cases short : envelope.length < 28
    · exact openChecked_short short ▸ .short short
    have long : 28 ≤ envelope.length := Nat.not_lt.1 short
    by_cases digest_eq : digest = Crypto.Sha256.digest envelope
    case neg => exact openChecked_foreign long digest_eq ▸ .foreign long digest_eq
    have attested : Attested envelope digest := ⟨long, digest_eq⟩
    by_cases fit : key.length = 32
    case neg => exact openChecked_keyless attested fit ▸ .keyless attested fit
    obtain ⟨nonce, nonced⟩ := exists_nonce long
    obtain ⟨key', found⟩ := exists_exactly? fit
    have keyed := exactly?_eq_some found
    rw [openChecked_keyed attested keyed nonced]
    cases opened : Crypto.Gcm.decrypt key' nonce (envelope.drop 12) with
    | none => exact .forged attested keyed nonced opened
    | some plaintext =>
      have length := length_opened opened
      dsimp only
      split
      next wrong =>
        exact .missized attested keyed nonced opened wrong.1 wrong.2 (toNat_length_opened opened)
      next right =>
        exact .opened attested keyed nonced opened length (by
          by_cases unknown : expected = 0
          · exact .inl unknown
          · exact .inr (Decidable.not_not.1 fun differs => right ⟨unknown, differs⟩))
  · intro verdict
    cases verdict with
    | short short => exact openChecked_short short
    | foreign long differs => exact openChecked_foreign long differs
    | keyless attested unfit => exact openChecked_keyless attested unfit
    | forged attested keyed nonced rejected =>
      rw [openChecked_keyed attested keyed nonced, rejected]
    | missized attested keyed nonced opened known differs counted =>
      rw [openChecked_keyed attested keyed nonced, opened]
      dsimp only
      rw [if_pos ⟨known, differs⟩, ← counted, UInt64.ofNat_toNat]
    | opened attested keyed nonced opened length size =>
      rw [openChecked_keyed attested keyed nonced, opened]
      exact if_neg fun wrong => size.elim wrong.1 wrong.2

/-- What opened is, whatever its length, encrypted to the envelope that it came from; sealing
it gives the same envelope and digest, unless it is longer than what may be sealed. -/
theorem sealUnder_opened (opened : openChecked envelope expected key digest = .ok plaintext) :
    ∃ (key' : Crypto.Aes.Key) (nonce : Crypto.Gcm.Nonce), key'.toList = key ∧
      nonce.toList = envelope.take 12 ∧
      nonce.toList ++ Crypto.Gcm.encrypt key' nonce plaintext = envelope ∧
      Crypto.Sha256.digest envelope = digest ∧
      sealUnder nonce plaintext key =
        if Crypto.Gcm.longestText < plaintext.length then
          .error (.root "Failed to encrypt: aead::Error")
        else .ok ⟨envelope, digest⟩ := by
  cases openChecked_iff.1 opened with
  | @opened key' nonce _ attested keyed nonced opened length size =>
    have whole : nonce.toList ++ Crypto.Gcm.encrypt key' nonce plaintext = envelope := by
      rw [nonced, Crypto.Gcm.encrypt_of_decrypt opened, List.take_append_drop]
    have found : exactly? keyLength key = some key' := exactly?_of_toList keyed
    refine ⟨key', nonce, keyed, nonced, whole, attested.digest_eq.symm, ?_⟩
    simp only [sealUnder, found, whole, ← attested.digest_eq]

end Open

/-- Opening accepts exactly what sealing makes. There is one verdict on an envelope, whatever
the key and the digest, and opening tells it. What is sealed opens again, whether its length
is known or not, and sealing refuses nothing but a key of another length and a text that is
too long for the cipher. What opens is sealed, under the same key and the envelope's own
nonce, to the same envelope and the same digest. -/
theorem opens_exactly_sealed (envelope : Bytes) (expected : UInt64) (key digest : Bytes) :
    (∀ result, openChecked envelope expected key digest = result ↔
      Verdict envelope expected key digest result) ∧
    (∀ (nonce : Crypto.Gcm.Nonce) (plaintext : Bytes),
      ((∃ sealed, sealUnder nonce plaintext key = .ok sealed) ↔
        key.length = 32 ∧ plaintext.length ≤ Crypto.Gcm.longestText) ∧
      ∀ sealed, sealUnder nonce plaintext key = .ok sealed →
        expected = 0 ∨ expected.toNat = plaintext.length →
        openChecked sealed.envelope expected key sealed.digest = .ok plaintext) ∧
    ∀ plaintext, openChecked envelope expected key digest = .ok plaintext →
      ∃ (key' : Crypto.Aes.Key) (nonce : Crypto.Gcm.Nonce), key'.toList = key ∧
        nonce.toList = envelope.take 12 ∧
        nonce.toList ++ Crypto.Gcm.encrypt key' nonce plaintext = envelope ∧
        Crypto.Sha256.digest envelope = digest ∧
        sealUnder nonce plaintext key =
          if Crypto.Gcm.longestText < plaintext.length then
            .error (.root "Failed to encrypt: aead::Error")
          else .ok ⟨envelope, digest⟩ := by
  refine ⟨fun result => openChecked_iff, fun nonce plaintext => ⟨?_, ?_⟩, ?_⟩
  · constructor
    · rintro ⟨sealed, made⟩
      obtain ⟨key', rfl, short, -⟩ := sealUnder_ok made
      exact ⟨Vector.length_toList, short⟩
    · rintro ⟨fit, short⟩
      obtain ⟨key', found⟩ := exists_exactly? fit
      obtain rfl := exactly?_eq_some found
      exact exists_sealed nonce key' short
  · intro sealed made size
    exact openChecked_sealed made size
  · intro plaintext opened
    exact sealUnder_opened opened

end Envelope
end AttachmentFetch
