import AttachmentFetch.Attachment.Pointer
import AttachmentFetch.Proofs.Text.Radix

/-! Keys of pointers. A key text is read if it is base64, and only then; as bytes have one
spelling, the text can be told from the key. What is no key is told apart from what is not
there. -/
namespace AttachmentFetch

namespace Text.Base64

theorem head?_append {front back : String} {c : Char} (h : front.toList.head? = some c) :
    (front ++ back).toList.head? = some c := by
  rw [String.toList_append, List.head?_append, h]
  rfl

theorem head?_message (fault : Fault) : fault.message.toList.head? = some 'I' := by
  cases fault with
  | badSymbol => exact head?_append (head?_append (head?_append (head?_append (by decide))))
  | badLength => exact head?_append (by decide)
  | badTrailingBits => exact head?_append (head?_append (head?_append (head?_append (by decide))))
  | badPadding => decide

theorem message_ne_keyless (fault : Fault) : fault.message ≠ "attachment has no key" := by
  intro same
  have begins := head?_message fault
  rw [same] at begins
  exact absurd begins (by decide)

end Text.Base64

variable {pointer : Pointer}

theorem isSealed_iff : pointer.isSealed = true ↔
    ∃ text digest, pointer.key = some text ∧ text ≠ "" ∧
      pointer.digest = some digest ∧ digest ≠ [] := by
  unfold Pointer.isSealed
  cases pointer.key <;> cases pointer.digest <;> simp [and_comm]

namespace Pointer

/-- There is no key text, or an empty one, which counts as none. -/
def Keyless (pointer : Pointer) : Prop := pointer.key = none ∨ pointer.key = some ""

theorem keyless_or_text (pointer : Pointer) :
    pointer.Keyless ∨ ∃ text, pointer.key = some text ∧ text ≠ "" := by
  cases key_eq : pointer.key with
  | none => exact .inl (.inl key_eq)
  | some text =>
    by_cases empty : text = ""
    · exact .inl (.inr (empty ▸ key_eq))
    · exact .inr ⟨text, rfl, empty⟩

theorem keyBytes_of_keyless (keyless : pointer.Keyless) :
    pointer.keyBytes = .error (.invalidKey "attachment has no key") := by
  unfold keyBytes
  rcases keyless with none | empty
  · rw [none]
    rfl
  · rw [empty]
    rfl

theorem keyBytes_eq_decode {text : String} (key_eq : pointer.key = some text)
    (textual : text ≠ "") :
    pointer.keyBytes = (Text.Base64.decode (Text.Utf8.encode text)).mapError
      fun fault => .invalidKey fault.message := by
  have kept : (some text).filter (!·.isEmpty) = some text := by
    rw [Option.filter_some, if_pos]
    simpa using textual
  rw [keyBytes, key_eq, kept]
  dsimp only
  cases Text.Base64.decode (Text.Utf8.encode text) <;> rfl

theorem keyBytes_cases {text : String} (key_eq : pointer.key = some text) (textual : text ≠ "") :
    (∃ key, Text.Base64.Spells text key ∧ pointer.keyBytes = .ok key) ∨
      ¬Text.Base64.Readable text ∧
        ∃ fault : Text.Base64.Fault, pointer.keyBytes = .error (.invalidKey fault.message) := by
  rw [keyBytes_eq_decode key_eq textual]
  cases decoded : Text.Base64.decode (Text.Utf8.encode text) with
  | ok key => exact .inl ⟨key, Text.Base64.decode_iff_spells.1 decoded, rfl⟩
  | error fault =>
    refine .inr ⟨fun readable => ?_, fault, rfl⟩
    obtain ⟨key, spelled⟩ := Text.Base64.readable_iff.1 readable
    cases decoded.symm.trans (Text.Base64.decode_iff_spells.2 spelled)

theorem keyBytes_iff {key : Bytes} : pointer.keyBytes = .ok key ↔
    ∃ text, pointer.key = some text ∧ text ≠ "" ∧ Text.Base64.Spells text key := by
  constructor
  · intro keyed
    rcases pointer.keyless_or_text with keyless | ⟨text, key_eq, textual⟩
    · cases (keyBytes_of_keyless keyless).symm.trans keyed
    · rcases keyBytes_cases key_eq textual with ⟨key', spelled, read⟩ | ⟨-, fault, refused⟩
      · cases read.symm.trans keyed
        exact ⟨text, key_eq, textual, spelled⟩
      · cases refused.symm.trans keyed
  · rintro ⟨text, key_eq, textual, spelled⟩
    rw [keyBytes_eq_decode key_eq textual, Text.Base64.decode_iff_spells.2 spelled]
    rfl

theorem keyBytes_keyless_iff :
    pointer.keyBytes = .error (.invalidKey "attachment has no key") ↔ pointer.Keyless := by
  refine ⟨fun refused => ?_, keyBytes_of_keyless⟩
  refine pointer.keyless_or_text.resolve_right fun ⟨text, key_eq, textual⟩ => ?_
  rcases keyBytes_cases key_eq textual with ⟨key, -, read⟩ | ⟨-, fault, blamed⟩
  · cases read.symm.trans refused
  · have same := blamed.symm.trans refused
    injection same with same
    injection same with same
    exact Text.Base64.message_ne_keyless fault same

theorem keyBytes_of_text {text : String} {key : Bytes} (key_eq : pointer.key = some text)
    (textual : text ≠ "") (decoded : Text.Base64.decode (Text.Utf8.encode text) = .ok key) :
    pointer.keyBytes = .ok key :=
  keyBytes_iff.2 ⟨text, key_eq, textual, Text.Base64.decode_iff_spells.1 decoded⟩

end Pointer

theorem keyBytes_ok {text : String} {key : Bytes} (key_eq : pointer.key = some text)
    (keyed : pointer.keyBytes = .ok key) :
    Text.Base64.decode (Text.Utf8.encode text) = .ok key := by
  obtain ⟨text', key_eq', -, spelled⟩ := Pointer.keyBytes_iff.1 keyed
  cases key_eq.symm.trans key_eq'
  exact Text.Base64.decode_iff_spells.2 spelled

namespace Pointer

theorem key_of_keyBytes {key : Bytes} (keyed : pointer.keyBytes = .ok key) :
    pointer.key = some (Text.Base64.text key) := by
  obtain ⟨text, key_eq, -, spelled⟩ := keyBytes_iff.1 keyed
  rw [key_eq, Text.Base64.spells_iff.1 spelled]

/-- A key has one spelling. What is read is a text that is there and spells the key, and every
other text is blamed for what is wrong with it, which is not that there is none. So what is
written for a key is read as that key, what is read is what would be written, and the same
key is never read from two texts. Where decryption is asked for, no key is missing. -/
theorem key_one_spelling (pointer : Pointer) :
    (∀ key, pointer.keyBytes = .ok key ↔
      ∃ text, pointer.key = some text ∧ text ≠ "" ∧ Text.Base64.Spells text key) ∧
    (∀ text, pointer.key = some text → text ≠ "" →
      (Text.Base64.Readable text ∧ ∃ key, pointer.keyBytes = .ok key) ∨
      (¬Text.Base64.Readable text ∧
        ∃ fault : Text.Base64.Fault, pointer.keyBytes = .error (.invalidKey fault.message))) ∧
    (pointer.keyBytes = .error (.invalidKey "attachment has no key") ↔
      pointer.key = none ∨ pointer.key = some "") ∧
    (∀ key, key ≠ [] →
      { pointer with key := some (Text.Base64.text key) }.keyBytes = .ok key) ∧
    (∀ key, pointer.keyBytes = .ok key → pointer.key = some (Text.Base64.text key)) ∧
    (∀ (other : Pointer) (key : Bytes), pointer.keyBytes = .ok key → other.keyBytes = .ok key →
      pointer.key = other.key) ∧
    (pointer.isSealed = true →
      pointer.keyBytes ≠ .error (.invalidKey "attachment has no key")) := by
  refine ⟨fun key => keyBytes_iff, fun text key_eq textual => ?_, keyBytes_keyless_iff, ?_,
    fun key => key_of_keyBytes, fun other key keyed keyed' => ?_, fun isSealed refused => ?_⟩
  · refine (keyBytes_cases key_eq textual).imp_left fun ⟨key, spelled, read⟩ => ?_
    exact ⟨Text.Base64.readable_iff.2 ⟨key, spelled⟩, key, read⟩
  · intro key nonempty
    exact keyBytes_iff.2 ⟨_, rfl, Text.Base64.text_ne_empty nonempty, Text.Base64.spells_text key⟩
  · rw [key_of_keyBytes keyed, key_of_keyBytes keyed']
  · obtain ⟨text, -, key_eq, textual, -⟩ := isSealed_iff.1 isSealed
    rcases keyBytes_keyless_iff.1 refused with none | empty
    · cases none.symm.trans key_eq
    · exact textual (Option.some.inj (key_eq.symm.trans empty))

/-- Two bytes leave two bits over. The text that has one of them set is no second spelling. -/
theorem key_one_spelling_leftover :
    let pointer : Pointer := ⟨⟨5⟩, ⟨10⟩, "http://h/5", 0, some "AQI=", some [7], none⟩
    let loose : Pointer := { pointer with key := some "AQJ=" }
    pointer.isSealed = true ∧ pointer.keyBytes = .ok [1, 2] ∧
      pointer.keyBytes ≠ .error (.invalidKey "attachment has no key") ∧
      pointer.key = some (Text.Base64.text [1, 2]) ∧
      { loose with key := some (Text.Base64.text [1, 2]) }.keyBytes = .ok [1, 2] ∧
      { loose with key := some (Text.Base64.text [1, 2]) }.key = pointer.key ∧
      ¬Text.Base64.Readable "AQJ=" ∧
      ∃ fault : Text.Base64.Fault, loose.keyBytes = .error (.invalidKey fault.message) := by
  intro pointer loose
  have isSealed : pointer.isSealed = true := by decide
  have keyed : pointer.keyBytes = .ok [1, 2] := by decide
  have blamed : loose.keyBytes = .error (.invalidKey "Invalid last symbol 74, offset 2.") := by
    decide
  obtain ⟨-, -, -, -, spelling, once, present⟩ := key_one_spelling pointer
  obtain ⟨-, judged, -, reread, -⟩ := key_one_spelling loose
  have reread := reread [1, 2] (List.cons_ne_nil _ _)
  refine ⟨isSealed, keyed, present isSealed, spelling _ keyed, reread,
    (once _ _ keyed reread).symm, ?_⟩
  refine (judged "AQJ=" rfl (by decide)).resolve_left fun ⟨_, key, read⟩ => ?_
  cases blamed.symm.trans read

end Pointer
end AttachmentFetch
