import AttachmentFetch.Json.Printer
import AttachmentFetch.Json.Scan
import AttachmentFetch.Proofs.Text.Utf8

/-! Quoted texts. Whatever characters a text has, it is read back from its quoted form,
escapes and all. -/
namespace AttachmentFetch.Json

open Text.Utf8 (ofChars ofChars_nil ofChars_cons ofChars_append ofChars_ascii)

def Verbatim (byte : UInt8) : Prop := 32 ≤ byte ∧ byte ≠ quote ∧ byte ≠ backslash

section Step
variable {tick : UInt8} {clock tail value rest : Bytes}

theorem stringBytes_byte {byte : UInt8} (verbatim : Verbatim byte)
    (read : stringBytes clock tail = .ok (value, rest)) :
    stringBytes (tick :: clock) (byte :: tail) = .ok (byte :: value, rest) := by
  obtain ⟨printable, notQuote, notBackslash⟩ := verbatim
  have notControl : ¬byte < 32 := UInt8.not_lt.2 printable
  unfold stringBytes
  dsimp only
  split
  · exact absurd rfl notQuote
  · exact absurd rfl notBackslash
  · rw [if_neg notControl, read]

theorem stringBytes_verbatim {bytes : Bytes} (verbatim : ∀ byte ∈ bytes, Verbatim byte)
    (enough : bytes.length ≤ clock.length)
    (read : stringBytes (clock.drop bytes.length) tail = .ok (value, rest)) :
    stringBytes clock (bytes ++ tail) = .ok (bytes ++ value, rest) := by
  induction bytes generalizing clock with
  | nil => exact read
  | cons byte bytes ih =>
    cases clock with
    | nil => cases enough
    | cons tick clock =>
      obtain ⟨here, there⟩ := List.forall_mem_cons.1 verbatim
      exact stringBytes_byte here (ih there (Nat.le_of_succ_le_succ enough) read)

theorem stringBytes_letter {letter : UInt8} {c : Char} (known : plainEscape? letter = some c)
    (read : stringBytes clock tail = .ok (value, rest)) :
    stringBytes (tick :: clock) (backslash :: letter :: tail) =
      .ok (String.utf8EncodeChar c ++ value, rest) := by
  have notUnicode : letter ≠ letterU := by
    rintro rfl
    cases known
  unfold stringBytes
  simp only [if_neg notUnicode, known, read]
  rfl

theorem stringBytes_unicode {text : Bytes} {c : Char} (escaped : unicodeEscape text = .ok (c, tail))
    (read : stringBytes clock tail = .ok (value, rest)) :
    stringBytes (tick :: clock) (backslash :: letterU :: text) =
      .ok (String.utf8EncodeChar c ++ value, rest) := by
  unfold stringBytes
  simp only [if_pos, escaped, read]
  rfl

end Step

theorem hexDigit?_digitChar : ∀ value < 16,
    hexDigit? (UInt8.ofNat (Nat.digitChar value).toNat) = some value ∧
      (Nat.digitChar value).toNat < 128 := by decide

theorem unicodeEscape_control {c : Char} (control : c.toNat < 32) (tail : Bytes) :
    unicodeEscape (ofChars ['0', '0', Nat.digitChar (c.toNat / 16),
      Nat.digitChar (c.toNat % 16)] ++ tail) = .ok (c, tail) := by
  obtain ⟨high, highAscii⟩ := hexDigit?_digitChar (c.toNat / 16) (by omega)
  obtain ⟨low, lowAscii⟩ := hexDigit?_digitChar (c.toNat % 16) (Nat.mod_lt _ (by decide))
  have unit : codeUnit (ofChars ['0', '0', Nat.digitChar (c.toNat / 16),
      Nat.digitChar (c.toNat % 16)] ++ tail) = .ok (c.toNat, tail) := by
    have zero : hexDigit? 48 = some 0 := by decide
    have whole : ((0 * 16 + 0) * 16 + c.toNat / 16) * 16 + c.toNat % 16 = c.toNat := by omega
    rw [ofChars_ascii (by decide), ofChars_ascii (by decide), ofChars_ascii highAscii,
      ofChars_ascii lowAscii]
    simp only [List.cons_append, ofChars_nil, List.nil_append, codeUnit, Char.reduceToNat,
      UInt8.reduceOfNat, zero, high, low, whole]
  rw [unicodeEscape, unit]
  dsimp only
  rw [if_neg (by omega), if_neg (by omega), Char.ofNat_toNat]

theorem verbatim_char {c : Char} (printable : ¬c.toNat < 32) (notQuote : c ≠ '"')
    (notBackslash : c ≠ '\\') : ∀ byte ∈ String.utf8EncodeChar c, Verbatim byte := by
  by_cases ascii : c.toNat < 128
  · have value : (UInt8.ofNat c.toNat).toNat = c.toNat :=
      UInt8.toNat_ofNat_of_lt' (Nat.lt_trans ascii (by decide))
    have differs {other : Char} (ne : c ≠ other) : c.toNat ≠ other.toNat := mt Char.toNat_inj.1 ne
    rw [Text.Utf8.utf8EncodeChar_ascii ascii, List.forall_mem_singleton]
    refine ⟨?_, ?_, ?_⟩
    · rw [UInt8.le_iff_toNat_le, value]
      exact Nat.not_lt.1 printable
    all_goals rw [Ne, ← UInt8.toNat_inj, value]
    · exact differs notQuote
    · exact differs notBackslash
  · intro byte listed
    have high := Text.Utf8.le_utf8EncodeChar (Nat.not_lt.1 ascii) byte listed
    refine ⟨UInt8.le_trans (by decide) high, ?_, ?_⟩
    all_goals
      rintro rfl
      exact absurd high (by decide)

/-- A character is written as a backslash with a letter, with four digits, or as itself. -/
theorem escape_cases (c : Char) :
    (∃ letter, ofChars (escape c) = [backslash, letter] ∧ plainEscape? letter = some c) ∨
    (c.toNat < 32 ∧ ofChars (escape c) = backslash :: letterU ::
      ofChars ['0', '0', Nat.digitChar (c.toNat / 16), Nat.digitChar (c.toNat % 16)]) ∨
    (ofChars (escape c) = String.utf8EncodeChar c ∧
      ∀ byte ∈ String.utf8EncodeChar c, Verbatim byte) := by
  unfold escape
  split
  case h_8 notQuote notBackslash _ _ _ _ _ =>
    split
    next control =>
      refine .inr (.inl ⟨control, ?_⟩)
      rw [ofChars_ascii (by decide), ofChars_ascii (by decide)]
      rfl
    next printable =>
      refine .inr (.inr ⟨?_, verbatim_char printable notQuote notBackslash⟩)
      rw [ofChars_cons, ofChars_nil, List.append_nil]
  all_goals exact .inl ⟨_, rfl, rfl⟩

/-- A character is read from its escaped form, which takes no more ticks than it has bytes. -/
theorem stringBytes_char (c : Char) {clock tail value rest : Bytes}
    (enough : (ofChars (escape c)).length ≤ clock.length)
    (read : ∀ later : Bytes, clock.length ≤ later.length + (ofChars (escape c)).length →
      stringBytes later tail = .ok (value, rest)) :
    stringBytes clock (ofChars (escape c) ++ tail) =
      .ok (String.utf8EncodeChar c ++ value, rest) := by
  obtain ⟨letter, escaped, known⟩ | ⟨control, escaped⟩ | ⟨itself, verbatim⟩ := escape_cases c
  · rw [escaped] at enough read ⊢
    cases clock with
    | nil => cases enough
    | cons tick clock => exact stringBytes_letter known (read clock (Nat.le_succ _))
  · rw [escaped] at enough read ⊢
    cases clock with
    | nil => cases enough
    | cons tick clock =>
      refine stringBytes_unicode (unicodeEscape_control control tail) (read clock ?_)
      simp only [List.length_cons]
      omega
  · rw [itself] at enough read ⊢
    refine stringBytes_verbatim verbatim enough (read _ ?_)
    rw [List.length_drop]
    omega

theorem stringBytes_escaped (chars : List Char) {clock : Bytes} (rest : Bytes)
    (enough : (ofChars (chars.flatMap escape)).length < clock.length) :
    stringBytes clock (ofChars (chars.flatMap escape) ++ quote :: rest) =
      .ok (ofChars chars, rest) := by
  induction chars generalizing clock with
  | nil =>
    cases clock with
    | nil => cases enough
    | cons tick clock => rfl
  | cons c chars ih =>
    rw [List.flatMap_cons, ofChars_append, List.length_append] at enough
    rw [List.flatMap_cons, ofChars_append, List.append_assoc, ofChars_cons]
    exact stringBytes_char c (by omega) fun later left => ih (by omega)

theorem string_escaped (text : String) (rest : Bytes) :
    string (ofChars (text.toList.flatMap escape) ++ quote :: rest) = .ok (text, rest) := by
  rw [string, stringBytes_escaped text.toList rest (by simp)]
  simp only [Text.Utf8.decode_ofChars, String.ofList_toList]

end AttachmentFetch.Json
