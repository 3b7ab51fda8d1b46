import AttachmentFetch.Proofs.Text.Encodings

/-! UTF-8 and back. Every character is read from its bytes, whatever follows them, so that
every text is read from its encoding. -/
namespace AttachmentFetch.Text.Utf8

theorem continuation?_ofNat (code : Nat) :
    continuation? (UInt8.ofNat (code % 64 + 128)) = some (code % 64) := by
  have small : code % 64 < 64 := Nat.mod_lt _ (by decide)
  have value : (UInt8.ofNat (code % 64 + 128)).toNat = code % 64 + 128 :=
    UInt8.toNat_ofNat_of_lt' (by unfold UInt8.size; omega)
  unfold continuation?
  rw [if_pos, value, Nat.add_sub_cancel]
  rw [UInt8.le_iff_toNat_le, UInt8.lt_iff_toNat_lt, value]
  exact ⟨Nat.le_add_left .., by simpa using Nat.add_lt_add_right small 128⟩

theorem scalar?_toNat {least : Nat} {c : Char} (reached : least ≤ c.toNat) :
    scalar? least c.toNat = some c := by
  have valid : c.toNat.isValidChar := c.valid
  rw [scalar?, dif_pos valid, if_pos reached]
  rfl

section Char
variable {c : Char}

theorem utf8EncodeChar_two (large : 127 < c.toNat) (small : c.toNat ≤ 2047) :
    String.utf8EncodeChar c =
      [UInt8.ofNat (c.toNat / 64 % 32 + 192), UInt8.ofNat (c.toNat % 64 + 128)] := by
  rw [String.utf8EncodeChar]
  exact (if_neg (Nat.not_le.2 large)).trans (if_pos small)

theorem utf8EncodeChar_three (large : 2047 < c.toNat) (small : c.toNat ≤ 65535) :
    String.utf8EncodeChar c = [UInt8.ofNat (c.toNat / 4096 % 16 + 224),
      UInt8.ofNat (c.toNat / 64 % 64 + 128), UInt8.ofNat (c.toNat % 64 + 128)] := by
  rw [String.utf8EncodeChar]
  exact (if_neg (by change ¬c.toNat ≤ 127; omega)).trans
    ((if_neg (Nat.not_le.2 large)).trans (if_pos small))

theorem utf8EncodeChar_four (large : 65535 < c.toNat) :
    String.utf8EncodeChar c = [UInt8.ofNat (c.toNat / 262144 % 8 + 240),
      UInt8.ofNat (c.toNat / 4096 % 64 + 128), UInt8.ofNat (c.toNat / 64 % 64 + 128),
      UInt8.ofNat (c.toNat % 64 + 128)] := by
  rw [String.utf8EncodeChar]
  exact (if_neg (by change ¬c.toNat ≤ 127; omega)).trans
    ((if_neg (by change ¬c.toNat ≤ 2047; omega)).trans (if_neg (Nat.not_le.2 large)))

theorem chars?_one (small : c.toNat ≤ 127) (rest : Bytes) :
    chars? (String.utf8EncodeChar c ++ rest) = (chars? rest).map (c :: ·) := by
  have lead : (UInt8.ofNat c.toNat).toNat = c.toNat :=
    UInt8.toNat_ofNat_of_lt' (by unfold UInt8.size; omega)
  have ascii : UInt8.ofNat c.toNat < 0x80 := by
    rw [UInt8.lt_iff_toNat_lt, lead]
    exact Nat.lt_succ_of_le small
  rw [utf8EncodeChar_ascii (Nat.lt_succ_of_le small), List.singleton_append]
  conv => lhs; unfold chars?
  rw [if_pos ascii, lead, Char.ofNat_toNat]

theorem chars?_two (large : 127 < c.toNat) (small : c.toNat ≤ 2047) (rest : Bytes) :
    chars? (String.utf8EncodeChar c ++ rest) = (chars? rest).map (c :: ·) := by
  have lead : (UInt8.ofNat (c.toNat / 64 % 32 + 192)).toNat = c.toNat / 64 + 192 := by
    rw [UInt8.toNat_ofNat']
    omega
  have whole : c.toNat / 64 * 64 + c.toNat % 64 = c.toNat := Nat.div_add_mod' ..
  rw [utf8EncodeChar_two large small, List.cons_append, List.singleton_append]
  conv => lhs; unfold chars?
  rw [if_neg, if_pos]
  · simp only [twoBytes?, lead, continuation?_ofNat, Nat.add_sub_cancel, bind, Option.bind, whole,
      scalar?_toNat large]
  all_goals
    simp only [UInt8.lt_iff_toNat_lt, UInt8.le_iff_toNat_le, lead, UInt8.reduceToNat]
    omega

theorem chars?_three (large : 2047 < c.toNat) (small : c.toNat ≤ 65535) (rest : Bytes) :
    chars? (String.utf8EncodeChar c ++ rest) = (chars? rest).map (c :: ·) := by
  have lead : (UInt8.ofNat (c.toNat / 4096 % 16 + 224)).toNat = c.toNat / 4096 + 224 := by
    rw [UInt8.toNat_ofNat']
    omega
  have whole : (c.toNat / 4096 * 64 + c.toNat / 64 % 64) * 64 + c.toNat % 64 = c.toNat := by omega
  rw [utf8EncodeChar_three large small, List.cons_append, List.cons_append, List.singleton_append]
  conv => lhs; unfold chars?
  rw [if_neg, if_neg, if_pos]
  · simp only [threeBytes?, lead, continuation?_ofNat, Nat.add_sub_cancel, bind, Option.bind,
      whole, scalar?_toNat large]
  all_goals
    simp only [UInt8.lt_iff_toNat_lt, UInt8.le_iff_toNat_le, lead, UInt8.reduceToNat]
    omega

theorem chars?_four (large : 65535 < c.toNat) (rest : Bytes) :
    chars? (String.utf8EncodeChar c ++ rest) = (chars? rest).map (c :: ·) := by
  have most : c.toNat < 0x110000 := by
    rcases c.valid with low | high
    · exact Nat.lt_trans low (by decide)
    · exact high.2
  have lead : (UInt8.ofNat (c.toNat / 262144 % 8 + 240)).toNat = c.toNat / 262144 + 240 := by
    rw [UInt8.toNat_ofNat']
    omega
  have whole : ((c.toNat / 262144 * 64 + c.toNat / 4096 % 64) * 64 + c.toNat / 64 % 64) * 64 +
      c.toNat % 64 = c.toNat := by omega
  rw [utf8EncodeChar_four large, List.cons_append, List.cons_append, List.cons_append,
    List.singleton_append]
  conv => lhs; unfold chars?
  rw [if_neg, if_neg, if_neg, if_pos]
  · simp only [fourBytes?, lead, continuation?_ofNat, Nat.add_sub_cancel, bind, Option.bind,
      whole, scalar?_toNat large]
  all_goals
    simp only [UInt8.lt_iff_toNat_lt, UInt8.le_iff_toNat_le, lead, UInt8.reduceToNat]
    omega

end Char

theorem chars?_char (c : Char) (rest : Bytes) :
    chars? (String.utf8EncodeChar c ++ rest) = (chars? rest).map (c :: ·) := by
  by_cases one : c.toNat ≤ 127
  · exact chars?_one one rest
  by_cases two : c.toNat ≤ 2047
  · exact chars?_two (Nat.not_le.1 one) two rest
  by_cases three : c.toNat ≤ 65535
  · exact chars?_three (Nat.not_le.1 two) three rest
  · exact chars?_four (Nat.not_le.1 three) rest

theorem le_utf8EncodeChar {c : Char} (large : 128 ≤ c.toNat) :
    ∀ byte ∈ String.utf8EncodeChar c, 128 ≤ byte := by
  have high {n : Nat} (least : 128 ≤ n % 256) : (128 : UInt8) ≤ UInt8.ofNat n := by
    rw [UInt8.le_iff_toNat_le, UInt8.toNat_ofNat']
    exact least
  unfold String.utf8EncodeChar
  dsimp only
  rw [if_neg (by change ¬c.toNat ≤ 127; omega)]
  split
  case' isFalse => split
  all_goals
    simp only [List.forall_mem_cons, List.not_mem_nil, IsEmpty.forall_iff, implies_true, and_true]
  · exact ⟨high (by omega), high (by omega), high (by omega)⟩
  · exact ⟨high (by omega), high (by omega), high (by omega), high (by omega)⟩
  · exact ⟨high (by omega), high (by omega)⟩

def ofChars (chars : List Char) : Bytes := chars.flatMap String.utf8EncodeChar

@[simp] theorem ofChars_nil : ofChars [] = [] := rfl

theorem ofChars_cons (c : Char) (rest : List Char) :
    ofChars (c :: rest) = String.utf8EncodeChar c ++ ofChars rest := List.flatMap_cons ..

@[simp] theorem ofChars_append (front back : List Char) :
    ofChars (front ++ back) = ofChars front ++ ofChars back := List.flatMap_append

theorem ofChars_ascii {c : Char} (ascii : c.toNat < 128) (rest : List Char) :
    ofChars (c :: rest) = UInt8.ofNat c.toNat :: ofChars rest := by
  rw [ofChars_cons, utf8EncodeChar_ascii ascii, List.singleton_append]

theorem encode_ofList (chars : List Char) : encode (String.ofList chars) = ofChars chars := by
  rw [encode, String.toList_ofList, ofChars]

theorem decode_ofChars (chars : List Char) :
    decode (ofChars chars) = some (String.ofList chars) := by
  suffices chars? (ofChars chars) = some chars by rw [decode, this, Option.map_some]
  induction chars with
  | nil => rfl
  | cons c rest ih => rw [ofChars_cons, chars?_char, ih, Option.map_some]

theorem decode_encode (text : String) : decode (encode text) = some text := by
  rw [show encode text = ofChars text.toList from rfl, decode_ofChars, String.ofList_toList]

/-! Nothing else than the encoding of a text is read as that text. -/

theorem continuation?_eq_some {byte : UInt8} {code : Nat} (h : continuation? byte = some code) :
    code < 64 ∧ byte.toNat = code + 128 := by
  rw [continuation?, Option.ite_none_right_eq_some, Option.some.injEq] at h
  simp only [UInt8.lt_iff_toNat_lt, UInt8.le_iff_toNat_le, UInt8.reduceToNat] at h
  omega

theorem scalar?_eq_some {least code : Nat} {c : Char} (h : scalar? least code = some c) :
    least ≤ code ∧ c.toNat = code := by
  obtain ⟨valid, decoded⟩ := Option.dite_none_right_eq_some.1 h
  obtain ⟨reached, same⟩ := Option.ite_none_right_eq_some.1 decoded
  exact ⟨reached, Option.some.inj same ▸ rfl⟩

section Sound
variable {a b₁ b₂ b₃ : UInt8} {c : Char}

theorem twoBytes?_eq_some (among : 0xC0 ≤ a ∧ a < 0xE0)
    (h : twoBytes? (a.toNat - 0xC0) b₁ = some c) : String.utf8EncodeChar c = [a, b₁] := by
  simp only [UInt8.lt_iff_toNat_lt, UInt8.le_iff_toNat_le, UInt8.reduceToNat] at among
  obtain ⟨low₁, read₁, h⟩ := Option.bind_eq_some_iff.1 h
  have byte₁ := continuation?_eq_some read₁
  obtain ⟨reached, code⟩ := scalar?_eq_some h
  rw [utf8EncodeChar_two (by omega) (by omega), code]
  simp only [List.cons.injEq, and_true, ← UInt8.toNat_inj, UInt8.toNat_ofNat']
  omega

theorem threeBytes?_eq_some (among : 0xE0 ≤ a ∧ a < 0xF0)
    (h : threeBytes? (a.toNat - 0xE0) b₁ b₂ = some c) :
    String.utf8EncodeChar c = [a, b₁, b₂] := by
  simp only [UInt8.lt_iff_toNat_lt, UInt8.le_iff_toNat_le, UInt8.reduceToNat] at among
  obtain ⟨low₁, read₁, h⟩ := Option.bind_eq_some_iff.1 h
  obtain ⟨low₂, read₂, h⟩ := Option.bind_eq_some_iff.1 h
  have byte₁ := continuation?_eq_some read₁
  have byte₂ := continuation?_eq_some read₂
  obtain ⟨reached, code⟩ := scalar?_eq_some h
  rw [utf8EncodeChar_three (by omega) (by omega), code]
  simp only [List.cons.injEq, and_true, ← UInt8.toNat_inj, UInt8.toNat_ofNat']
  omega

theorem fourBytes?_eq_some (among : 0xF0 ≤ a ∧ a < 0xF8)
    (h : fourBytes? (a.toNat - 0xF0) b₁ b₂ b₃ = some c) :
    String.utf8EncodeChar c = [a, b₁, b₂, b₃] := by
  simp only [UInt8.lt_iff_toNat_lt, UInt8.le_iff_toNat_le, UInt8.reduceToNat] at among
  obtain ⟨low₁, read₁, h⟩ := Option.bind_eq_some_iff.1 h
  obtain ⟨low₂, read₂, h⟩ := Option.bind_eq_some_iff.1 h
  obtain ⟨low₃, read₃, h⟩ := Option.bind_eq_some_iff.1 h
  have byte₁ := continuation?_eq_some read₁
  have byte₂ := continuation?_eq_some read₂
  have byte₃ := continuation?_eq_some read₃
  obtain ⟨reached, code⟩ := scalar?_eq_some h
  rw [utf8EncodeChar_four (by omega), code]
  simp only [List.cons.injEq, and_true, ← UInt8.toNat_inj, UInt8.toNat_ofNat']
  omega

end Sound

theorem ofChars_of_bind {read : Option Char} {front rest : Bytes} {chars : List Char}
    (sound : ∀ c, read = some c → String.utf8EncodeChar c = front)
    (ih : ∀ chars, chars? rest = some chars → ofChars chars = rest)
    (h : (read.bind fun c => (chars? rest).map (c :: ·)) = some chars) :
    ofChars chars = front ++ rest := by
  obtain ⟨c, first, h⟩ := Option.bind_eq_some_iff.1 h
  obtain ⟨more, spelled, rfl⟩ := Option.map_eq_some_iff.1 h
  rw [ofChars_cons, sound c first, ih more spelled]

theorem ofChars_of_chars? {bytes : Bytes} {chars : List Char} (h : chars? bytes = some chars) :
    ofChars chars = bytes := by
  fun_induction chars? bytes generalizing chars with
  | case1 => cases h; rfl
  | case2 a rest ascii ih =>
    obtain ⟨more, spelled, rfl⟩ := Option.map_eq_some_iff.1 h
    have ascii := UInt8.lt_iff_toNat_lt.1 ascii
    have code := toNat_ofNat_ascii ascii
    rw [ofChars_ascii (by rwa [code]), code, UInt8.ofNat_toNat, ih spelled]
  | case3 a _ two b₁ rest ih =>
    exact ofChars_of_bind (fun _ => twoBytes?_eq_some two) (fun _ => ih) h
  | case5 a _ _ three b₁ b₂ rest ih =>
    exact ofChars_of_bind (fun _ => threeBytes?_eq_some three) (fun _ => ih) h
  | case7 a _ _ _ four b₁ b₂ b₃ rest ih =>
    exact ofChars_of_bind (fun _ => fourBytes?_eq_some four) (fun _ => ih) h
  | case4 | case6 | case8 | case9 => cases h

theorem decode_eq_some {bytes : Bytes} {text : String} :
    decode bytes = some text ↔ bytes = encode text := by
  refine ⟨fun h => ?_, fun h => h ▸ decode_encode text⟩
  obtain ⟨chars, read, rfl⟩ := Option.map_eq_some_iff.1 h
  rw [encode_ofList, ofChars_of_chars? read]

end AttachmentFetch.Text.Utf8
