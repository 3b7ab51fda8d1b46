import AttachmentFetch.Proofs.Text.Utf8

/-! Hexadecimal is read only as it is spelled: what can be decoded, once white space around
it has been left out, is the text of the bytes that it is decoded to. -/
namespace AttachmentFetch.Text

theorem Utf8.ascii_of_encode {chars : List Char} (ascii : ∀ byte ∈ ofChars chars, byte < 128) :
    ∀ c ∈ chars, c.toNat < 128 := by
  intro c listed
  by_contra large
  obtain ⟨byte, more, encoded⟩ := List.exists_cons_of_ne_nil (String.utf8EncodeChar_ne_nil (c := c))
  have here : byte ∈ String.utf8EncodeChar c := encoded ▸ List.mem_cons_self
  have high := le_utf8EncodeChar (Nat.not_lt.1 large) byte here
  exact absurd (ascii byte (List.mem_flatMap.2 ⟨c, listed, here⟩)) (UInt8.not_lt.2 high)

theorem exists_trim (text : String) : ∃ front back : List Char,
    (∀ c ∈ front ++ back, isBlank c = true) ∧
      text = String.ofList (front ++ (trim text).toList ++ back) := by
  let begun := text.toList.dropWhile isBlank
  refine ⟨text.toList.takeWhile isBlank, (begun.reverse.takeWhile isBlank).reverse, ?_, ?_⟩
  · intro c listed
    rcases List.mem_append.1 listed with listed | listed
    · exact List.mem_takeWhile_imp listed
    · exact List.mem_takeWhile_imp (List.mem_reverse.1 listed)
  · have ended : (trim text).toList ++ (begun.reverse.takeWhile isBlank).reverse = begun := by
      rw [trim, String.toList_ofList, ← List.reverse_append, List.takeWhile_append_dropWhile,
        List.reverse_reverse]
    rw [List.append_assoc, ended, List.takeWhile_append_dropWhile, String.ofList_toList]

namespace Hex

theorem digit?_spelled : ∀ code < 256, (digit? (UInt8.ofNat code)).all
    (fun value => value < 16 && code < 128 && (Char.ofNat code).toLower = digit value) = true := by
  decide +kernel

theorem value_ok {position value : Nat} {byte : UInt8} (h : Hex.value position byte = .ok value) :
    value < 16 ∧ byte < 128 ∧ (Char.ofNat byte.toNat).toLower = digit value := by
  have spelled := digit?_spelled byte.toNat byte.toNat_lt
  rw [UInt8.ofNat_toNat] at spelled
  unfold Hex.value at h
  split at h <;> cases h
  next read =>
    rw [read, Option.all_some, Bool.and_eq_true, Bool.and_eq_true, decide_eq_true_eq,
      decide_eq_true_eq, decide_eq_true_eq] at spelled
    exact ⟨spelled.1.1, UInt8.lt_iff_toNat_lt.2 spelled.1.2, spelled.2⟩

theorem decodePairs_ok {position : Nat} {text bytes : Bytes} (even : text.length % 2 = 0)
    (h : decodePairs position text = .ok bytes) :
    (∀ byte ∈ text, byte < 128) ∧
      text.map (fun byte => (Char.ofNat byte.toNat).toLower) = bytes.flatMap encodeByte := by
  fun_induction decodePairs position text generalizing bytes with
  | case1 position high low rest ih =>
    cases first : value position high with
    | error => rw [first] at h; cases h
    | ok high' =>
      cases second : value (position + 1) low with
      | error => rw [first, second] at h; cases h
      | ok low' =>
        cases more : decodePairs (position + 2) rest with
        | error => rw [first, second, more] at h; cases h
        | ok bytes' =>
          rw [first, second, more] at h
          cases h
          obtain ⟨small, asciiHigh, sameHigh⟩ := value_ok first
          obtain ⟨small', asciiLow, sameLow⟩ := value_ok second
          rw [List.length_cons, List.length_cons] at even
          obtain ⟨ascii, same⟩ := ih (by omega) more
          refine ⟨by simp [asciiHigh, asciiLow]; exact ascii, ?_⟩
          have joined : (UInt8.ofNat (high' * 16 + low')).toNat = high' * 16 + low' :=
            UInt8.toNat_ofNat_of_lt' (by unfold UInt8.size; omega)
          rw [List.flatMap_cons, encodeByte, joined, List.map_cons, List.map_cons, sameHigh,
            sameLow, same]
          congr 3 <;> omega
  | case2 text _ short =>
    cases h
    rcases text with _ | ⟨high, _ | ⟨low, rest⟩⟩
    · exact ⟨List.forall_mem_nil _, rfl⟩
    · cases even
    · exact (short high low rest rfl).elim

theorem decode_iff {text : String} {bytes : Bytes} :
    decode (Utf8.encode (trim text)) = .ok bytes ↔ Spells text bytes := by
  refine ⟨fun h => ?_, decode_of_spells⟩
  unfold decode at h
  split at h
  · cases h
  next even =>
    obtain ⟨ascii, same⟩ := decodePairs_ok (by omega) h
    obtain ⟨front, back, blank, cut⟩ := exists_trim text
    refine ⟨front, (trim text).toList, back, cut, blank, ?_⟩
    have plain : ∀ c ∈ (trim text).toList, c.toNat < 128 := Utf8.ascii_of_encode ascii
    rw [← String.ofList_toList (s := trim text), Utf8.encode_ascii plain, List.map_map] at same
    rw [encode, String.toList_ofList, ← same]
    refine List.map_congr_left fun c listed => ?_
    have code : (UInt8.ofNat c.toNat).toNat = c.toNat :=
      UInt8.toNat_ofNat_of_lt' (Nat.lt_trans (plain c listed) (by decide))
    rw [Function.comp, code, Char.ofNat_toNat]

end Hex

end AttachmentFetch.Text
