import Mathlib.Data.List.TakeWhile
import AttachmentFetch.Text.Base64
import AttachmentFetch.Text.Hex
import AttachmentFetch.Text.Utf8

/-! Bytes as text and back: base64, and hexadecimal in whichever case. Both alphabets
are of ASCII, so that a text of either is, character by character, its encoding. -/
namespace AttachmentFetch.Text

theorem ofNat_eq {n : Nat} {byte : UInt8} (same : n % 256 = byte.toNat) : UInt8.ofNat n = byte := by
  rw [← UInt8.toNat_inj, UInt8.toNat_ofNat']
  exact same

namespace Utf8

def ofAscii (bytes : Bytes) : String := String.ofList (bytes.map fun byte => Char.ofNat byte.toNat)

theorem utf8EncodeChar_ascii {c : Char} (ascii : c.toNat < 128) :
    String.utf8EncodeChar c = [UInt8.ofNat c.toNat] := by
  rw [String.utf8EncodeChar]
  exact if_pos (Nat.le_of_lt_succ ascii)

theorem toNat_ofNat_ascii {code : Nat} (ascii : code < 128) : (Char.ofNat code).toNat = code := by
  rw [Char.ofNat, dif_pos (Or.inl (by omega))]
  rfl

theorem encode_ascii {chars : List Char} (ascii : ∀ c ∈ chars, c.toNat < 128) :
    encode (String.ofList chars) = chars.map fun c => UInt8.ofNat c.toNat := by
  rw [encode, String.toList_ofList]
  induction chars with
  | nil => rfl
  | cons c rest ih =>
    obtain ⟨here, there⟩ := List.forall_mem_cons.1 ascii
    rw [List.flatMap_cons, List.map_cons, utf8EncodeChar_ascii here, ih there]
    rfl

theorem encode_ofAscii {bytes : Bytes} (ascii : ∀ byte ∈ bytes, byte < 128) :
    encode (ofAscii bytes) = bytes := by
  have code : ∀ byte ∈ bytes, (Char.ofNat byte.toNat).toNat = byte.toNat := fun byte listed =>
    toNat_ofNat_ascii (UInt8.lt_iff_toNat_lt.1 (ascii byte listed))
  rw [ofAscii, encode_ascii, List.map_map]
  · refine (List.map_congr_left fun byte listed => ?_).trans bytes.map_id
    rw [Function.comp, code byte listed, UInt8.ofNat_toNat, id]
  · intro c listed
    obtain ⟨byte, held, rfl⟩ := List.mem_map.1 listed
    rw [code byte held]
    exact UInt8.lt_iff_toNat_lt.1 (ascii byte held)

theorem encode_append (front back : String) :
    encode (front ++ back) = encode front ++ encode back := by
  rw [encode, String.toList_append, List.flatMap_append]
  rfl

theorem decode_ascii {bytes : Bytes} (ascii : ∀ byte ∈ bytes, byte < 128) :
    decode bytes = some (ofAscii bytes) := by
  suffices chars? bytes = some (bytes.map fun byte => Char.ofNat byte.toNat) by
    rw [decode, this]
    rfl
  induction bytes with
  | nil => rfl
  | cons byte rest ih =>
    obtain ⟨here, there⟩ := List.forall_mem_cons.1 ascii
    unfold chars?
    rw [if_pos here, ih there, Option.map_some, List.map_cons]

end Utf8

namespace Base64

theorem sextet?_symbol : ∀ value < 64, sextet? (symbol value) = some value := by decide

theorem symbol_ne_pad : ∀ value < 64, symbol value ≠ pad := by decide

theorem value_symbol (offset : Nat) {sextet : Nat} (small : sextet < 64) :
    value offset (symbol sextet) = .ok sextet := by
  rw [value, sextet?_symbol sextet small]

theorem length_encode (bytes : Bytes) : (encode bytes).length = 4 * ((bytes.length + 2) / 3) := by
  induction bytes using encode.induct with
  | case1 a b c rest ih =>
    simp only [encode, List.length_cons, ih]
    omega
  | case2 | case3 | case4 => simp [encode]

theorem decodeGroups_symbols {offset w x y z : Nat} {tail rest : Bytes} (hw : w < 64) (hx : x < 64)
    (hy : y < 64) (hz : z < 64) (tailed : decodeGroups (offset + 4) tail = .ok rest) :
    decodeGroups offset (symbol w :: symbol x :: symbol y :: symbol z :: tail) =
      .ok (UInt8.ofNat ((((w * 64 + x) * 64 + y) * 64 + z) / 65536) ::
        UInt8.ofNat ((((w * 64 + x) * 64 + y) * 64 + z) / 256) ::
        UInt8.ofNat (((w * 64 + x) * 64 + y) * 64 + z) :: rest) := by
  cases tail with
  | cons e tail =>
    simp only [decodeGroups, value_symbol, hw, hx, hy, hz, tailed, bind, Except.bind, pure,
      Except.pure]
  | nil =>
    cases tailed
    simp [decodeGroups, decodeLast, lastSymbols, value_symbol, symbol_ne_pad, hw, hx, hy, hz, bind,
      Except.bind, pure, Except.pure]

theorem decodeGroups_encode (offset : Nat) (bytes : Bytes) :
    decodeGroups offset (encode bytes) = .ok bytes := by
  induction bytes using encode.induct generalizing offset with
  | case1 a b c rest ih =>
    have ha := a.toNat_lt
    have hb := b.toNat_lt
    have hc := c.toNat_lt
    generalize bits_eq : a.toNat * 65536 + b.toNat * 256 + c.toNat = bits
    have joined : ((bits / 262144 * 64 + bits / 4096 % 64) * 64 + bits / 64 % 64) * 64 +
        bits % 64 = bits := by omega
    simp only [encode, bits_eq]
    rw [decodeGroups_symbols (by omega) (by omega) (by omega) (by omega) (ih _), joined]
    have first : UInt8.ofNat (bits / 65536) = a := ofNat_eq (by omega)
    have second : UInt8.ofNat (bits / 256) = b := ofNat_eq (by omega)
    have third : UInt8.ofNat bits = c := ofNat_eq (by omega)
    rw [first, second, third]
  | case2 a b =>
    have ha := a.toNat_lt
    have hb := b.toNat_lt
    have first : UInt8.ofNat ((a.toNat * 1024 + b.toNat * 4) / 1024) = a := ofNat_eq (by omega)
    have second : UInt8.ofNat ((a.toNat * 1024 + b.toNat * 4) / 4) = b := ofNat_eq (by omega)
    generalize bits_eq : a.toNat * 1024 + b.toNat * 4 = bits at first second
    have joined : (bits / 4096 * 64 + bits / 64 % 64) * 64 + bits % 64 = bits := by omega
    have spare : bits % 4 = 0 := by omega
    have h₁ : bits / 4096 < 64 := by omega
    have h₂ : bits / 64 % 64 < 64 := by omega
    have h₃ : bits % 64 < 64 := by omega
    simp only [encode, bits_eq, decodeGroups]
    simp [decodeLast, lastSymbols, value_symbol, symbol_ne_pad, h₁, h₂, h₃, joined, spare, first,
      second, bind, Except.bind, pure, Except.pure]
  | case3 a =>
    have ha := a.toNat_lt
    have first : UInt8.ofNat (a.toNat * 16 / 16) = a := ofNat_eq (by omega)
    generalize bits_eq : a.toNat * 16 = bits at first
    have joined : bits / 64 * 64 + bits % 64 = bits := by omega
    have spare : bits % 16 = 0 := by omega
    have h₁ : bits / 64 < 64 := by omega
    have h₂ : bits % 64 < 64 := by omega
    simp only [encode, bits_eq, decodeGroups]
    simp [decodeLast, lastSymbols, value_symbol, symbol_ne_pad, h₁, h₂, joined, spare, first, bind,
      Except.bind, pure, Except.pure]
  | case4 => rfl

theorem decode_encode (bytes : Bytes) : decode (encode bytes) = .ok bytes := by
  unfold decode
  split
  · rw [if_neg, decodeGroups_encode]
    rw [length_encode]
    omega
  next empty =>
    rw [← decodeGroups_encode 0 bytes, List.getLast?_eq_none_iff.1 empty]
    rfl

theorem mem_encode {bytes : Bytes} {byte : UInt8} (listed : byte ∈ encode bytes) :
    byte = pad ∨ ∃ sextet < 64, byte = symbol sextet := by
  induction bytes using encode.induct with
  | case1 a b c rest ih =>
    have := a.toNat_lt
    have := b.toNat_lt
    have := c.toNat_lt
    simp only [encode, List.mem_cons] at listed
    rcases listed with rfl | rfl | rfl | rfl | listed
    · exact .inr ⟨_, by omega, rfl⟩
    · exact .inr ⟨_, by omega, rfl⟩
    · exact .inr ⟨_, by omega, rfl⟩
    · exact .inr ⟨_, by omega, rfl⟩
    · exact ih listed
  | case2 a b =>
    have := a.toNat_lt
    have := b.toNat_lt
    simp only [encode, List.mem_cons, List.not_mem_nil, or_false] at listed
    rcases listed with rfl | rfl | rfl | rfl
    · exact .inr ⟨_, by omega, rfl⟩
    · exact .inr ⟨_, by omega, rfl⟩
    · exact .inr ⟨_, by omega, rfl⟩
    · exact .inl rfl
  | case3 a =>
    have := a.toNat_lt
    simp only [encode, List.mem_cons, List.not_mem_nil, or_false] at listed
    rcases listed with rfl | rfl | rfl | rfl
    · exact .inr ⟨_, by omega, rfl⟩
    · exact .inr ⟨_, by omega, rfl⟩
    · exact .inl rfl
    · exact .inl rfl
  | case4 => cases listed

theorem symbol_range :
    ∀ value < 64, 43 ≤ symbol value ∧ symbol value < 123 ∧ symbol value ≠ 92 := by
  decide

/-- No symbol has a meaning of its own in a quoted text. -/
theorem encode_range {bytes : Bytes} :
    ∀ byte ∈ encode bytes, 43 ≤ byte ∧ byte < 123 ∧ byte ≠ 92 := by
  intro byte listed
  rcases mem_encode listed with rfl | ⟨sextet, small, rfl⟩
  · decide
  · exact symbol_range sextet small

def text (bytes : Bytes) : String := Utf8.ofAscii (encode bytes)

theorem encode_text (bytes : Bytes) : Utf8.encode (text bytes) = encode bytes := by
  apply Utf8.encode_ofAscii
  intro byte listed
  obtain ⟨-, small, -⟩ := encode_range byte listed
  exact UInt8.lt_trans small (by decide)

theorem text_ne_empty {bytes : Bytes} (nonempty : bytes ≠ []) : text bytes ≠ "" := by
  intro empty
  have none : encode bytes = [] := by
    rw [← encode_text, empty]
    rfl
  have length := length_encode bytes
  rw [none, List.length_nil] at length
  have := List.length_pos_iff.2 nonempty
  omega

end Base64

namespace Hex

/-- The text is that of the bytes in hexadecimal, in whichever case and with whatever
white space around it. -/
def Spells (text : String) (bytes : Bytes) : Prop :=
  ∃ front digits back : List Char, text = String.ofList (front ++ digits ++ back) ∧
    (∀ c ∈ front ++ back, isBlank c = true) ∧
    digits.map Char.toLower = (encode bytes).toList

theorem toNat_digit {value : Nat} (small : value < 16) :
    (digit value).toNat = if value < 10 then 48 + value else 87 + value := by
  unfold digit
  split <;> exact Utf8.toNat_ofNat_ascii (by omega)

theorem toNat_toLower (c : Char) :
    c.toLower.toNat = if 65 ≤ c.toNat ∧ c.toNat ≤ 90 then c.toNat + 32 else c.toNat := by
  have upper : (c.val ≥ 'A'.val ∧ c.val ≤ 'Z'.val) ↔ 65 ≤ c.toNat ∧ c.toNat ≤ 90 := by
    rw [ge_iff_le, UInt32.le_iff_toNat_le, UInt32.le_iff_toNat_le]
    exact Iff.rfl
  unfold Char.toLower
  split
  next isUpper =>
    have within := upper.1 isUpper
    rw [if_pos within]
    change (c.val + 32).toNat = c.val.toNat + 32
    change 65 ≤ c.val.toNat ∧ c.val.toNat ≤ 90 at within
    rw [UInt32.toNat_add]
    change (c.val.toNat + 32) % 4294967296 = c.val.toNat + 32
    omega
  next notUpper => rw [if_neg fun within => notUpper (upper.2 within)]

theorem digit_of_toLower {c : Char} {value : Nat} (small : value < 16)
    (same : c.toLower = digit value) :
    c.toNat < 128 ∧ digit? (UInt8.ofNat c.toNat) = some value ∧ isBlank c = false := by
  have code := congrArg Char.toNat same
  rw [toNat_toLower, toNat_digit small] at code
  have ascii : c.toNat < 128 := by grind
  have byte : (UInt8.ofNat c.toNat).toNat = c.toNat := by
    rw [UInt8.toNat_ofNat']
    exact Nat.mod_eq_of_lt (by omega)
  refine ⟨ascii, ?_, ?_⟩
  · unfold digit?
    simp only [byte]
    grind
  · unfold isBlank
    grind

theorem decodePairs_digits {digits : List Char} {bytes : Bytes}
    (same : digits.map Char.toLower = bytes.flatMap encodeByte) (position : Nat) :
    (∀ c ∈ digits, c.toNat < 128 ∧ isBlank c = false) ∧ digits.length = 2 * bytes.length ∧
      decodePairs position (digits.map fun c => UInt8.ofNat c.toNat) = .ok bytes := by
  induction bytes generalizing digits position with
  | nil =>
    obtain rfl := List.map_eq_nil_iff.1 same
    exact ⟨nofun, rfl, rfl⟩
  | cons byte bytes ih =>
    have small := byte.toNat_lt
    rcases digits with _ | ⟨high, _ | ⟨low, digits⟩⟩
    · cases same
    · have short := congrArg List.length same
      simp [encodeByte] at short
    · simp only [List.flatMap_cons, encodeByte, List.cons_append, List.nil_append, List.map_cons,
        List.cons.injEq] at same
      obtain ⟨sameHigh, sameLow, sameRest⟩ := same
      obtain ⟨asciiHigh, readHigh, darkHigh⟩ := digit_of_toLower (by omega) sameHigh
      obtain ⟨asciiLow, readLow, darkLow⟩ := digit_of_toLower (by omega) sameLow
      obtain ⟨dark, length, read⟩ := ih sameRest (position + 2)
      refine ⟨?_, ?_, ?_⟩
      · simp [asciiHigh, asciiLow, darkHigh, darkLow]
        exact dark
      · simp only [List.length_cons, length]
        omega
      · have joined : UInt8.ofNat (byte.toNat / 16 * 16 + byte.toNat % 16) = byte :=
          ofNat_eq (by omega)
        simp only [List.map_cons, decodePairs, value, readHigh, readLow, read, joined, bind,
          Except.bind, pure, Except.pure]

end Hex

theorem Hex.toLower_digit : ∀ value < 16, (digit value).toLower = digit value := by decide

theorem Hex.spells_encode {front back : List Char}
    (blank : ∀ c ∈ front ++ back, isBlank c = true) (bytes : Bytes) :
    Spells (String.ofList (front ++ (encode bytes).toList ++ back)) bytes := by
  refine ⟨front, (encode bytes).toList, back, rfl, blank, ?_⟩
  refine (List.map_congr_left fun c listed => ?_).trans (List.map_id _)
  rw [encode, String.toList_ofList, List.mem_flatMap] at listed
  obtain ⟨byte, -, listed⟩ := listed
  have small := byte.toNat_lt
  simp only [encodeByte, List.mem_cons, List.not_mem_nil, or_false] at listed
  rcases listed with rfl | rfl
  · exact toLower_digit _ (by omega)
  · exact toLower_digit _ (by omega)

theorem trim_of_blanks {front digits back : List Char}
    (blank : ∀ c ∈ front ++ back, isBlank c = true) (dark : ∀ c ∈ digits, isBlank c = false) :
    trim (String.ofList (front ++ digits ++ back)) = String.ofList digits := by
  obtain ⟨before, behind⟩ := List.forall_mem_append.1 blank
  rw [trim, String.toList_ofList, List.append_assoc, List.dropWhile_append_of_pos before]
  cases digits with
  | nil => rw [List.nil_append, List.dropWhile_eq_nil_iff.2 behind]; rfl
  | cons first digits =>
    have begins : isBlank first = false := dark first List.mem_cons_self
    have ends : ((first :: digits).reverse).dropWhile isBlank = (first :: digits).reverse := by
      rw [List.dropWhile_eq_self_iff]
      intro some lastBlank
      have lastDark := dark _ (List.mem_reverse.1 (List.getElem_mem some))
      exact Bool.noConfusion (lastDark.symm.trans lastBlank)
    rw [List.cons_append, List.dropWhile_cons_of_neg (by simp [begins]), ← List.cons_append,
      List.reverse_append, List.dropWhile_append_of_pos fun c listed => behind c
        (List.mem_reverse.1 listed), ends, List.reverse_reverse]

theorem Hex.decode_of_spells {text : String} {bytes : Bytes} (spells : Spells text bytes) :
    decode (Utf8.encode (trim text)) = .ok bytes := by
  obtain ⟨front, digits, back, rfl, blank, same⟩ := spells
  rw [encode, String.toList_ofList] at same
  obtain ⟨dark, length, read⟩ := decodePairs_digits same 0
  rw [trim_of_blanks blank fun c listed => (dark c listed).2,
    Utf8.encode_ascii fun c listed => (dark c listed).1, decode, if_neg, read]
  rw [List.length_map, length]
  omega

end AttachmentFetch.Text
