import Mathlib.Data.Nat.Digits.Lemmas
import AttachmentFetch.Proofs.Text.Canonical
import AttachmentFetch.Proofs.Text.Utf8

/-! Base64 as a change of radix. The symbols of a text are digits in base 64 of the number
whose digits in base 256 are the bytes, followed by as many zero bits as the padding stands
for. This says what a text spells without a word on how it is written or read; writing and
reading agree with it. -/
namespace AttachmentFetch.Text.Base64

def numeral (base : Nat) (digits : List Nat) : Nat :=
  digits.foldl (fun number digit => number * base + digit) 0

theorem numeral_eq_ofDigits (base : Nat) (digits : List Nat) :
    numeral base digits = Nat.ofDigits base digits.reverse := by
  rw [Nat.ofDigits_eq_foldr, List.foldr_reverse, numeral]
  congr
  funext number digit
  rw [Nat.mul_comm, Nat.add_comm]
  rfl

theorem numeral_append (base : Nat) (front back : List Nat) :
    numeral base (front ++ back) = numeral base front * base ^ back.length + numeral base back := by
  simp only [numeral_eq_ofDigits]
  rw [List.reverse_append, Nat.ofDigits_append, List.length_reverse, Nat.mul_comm, Nat.add_comm]

theorem numeral_lt {base : Nat} {digits : List Nat} (large : 1 < base)
    (small : ∀ digit ∈ digits, digit < base) : numeral base digits < base ^ digits.length := by
  rw [numeral_eq_ofDigits, ← List.length_reverse]
  exact Nat.ofDigits_lt_base_pow_length large fun digit listed =>
    small _ (List.mem_reverse.1 listed)

theorem numeral_inj {base : Nat} {one other : List Nat} (large : 1 < base)
    (length : one.length = other.length) (small : ∀ digit ∈ one, digit < base)
    (small' : ∀ digit ∈ other, digit < base) (same : numeral base one = numeral base other) :
    one = other := by
  rw [numeral_eq_ofDigits, numeral_eq_ofDigits] at same
  refine List.reverse_injective (Nat.ofDigits_inj_of_len_eq large ?_ ?_ ?_ same)
  · rw [List.length_reverse, List.length_reverse, length]
  · exact fun digit listed => small _ (List.mem_reverse.1 listed)
  · exact fun digit listed => small' _ (List.mem_reverse.1 listed)

theorem exists_bytes (length : Nat) {number : Nat} (small : number < 256 ^ length) :
    ∃ bytes : Bytes, bytes.length = length ∧ numeral 256 (bytes.map UInt8.toNat) = number := by
  induction length generalizing number with
  | zero => exact ⟨[], rfl, (Nat.lt_one_iff.1 small).symm⟩
  | succ length ih =>
    have less : number / 256 < 256 ^ length := by
      rw [Nat.pow_succ, Nat.mul_comm] at small
      exact Nat.div_lt_of_lt_mul small
    obtain ⟨bytes, rfl, spelled⟩ := ih less
    refine ⟨bytes ++ [UInt8.ofNat number], List.length_append, ?_⟩
    have last : numeral 256 [(UInt8.ofNat number).toNat] = number % 256 :=
      (Nat.zero_add _).trans UInt8.toNat_ofNat'
    rw [List.map_append, List.map_singleton, numeral_append, spelled, List.length_singleton,
      Nat.pow_one, last, Nat.div_add_mod']

def alphabet : String := "ABCDEFGHIJKLMNOPQRSTUVWXYZabcdefghijklmnopqrstuvwxyz0123456789+/"

def letter (sextet : Fin 64) : Char := alphabet.toList.get (sextet.cast (by decide))

theorem symbol_letter : ∀ sextet : Fin 64, Char.ofNat (symbol sextet).toNat = letter sextet := by
  decide

def written (sextets : List (Fin 64)) (pads : Nat) : String :=
  String.ofList (sextets.map letter ++ List.replicate pads '=')

/-- Symbols and padding come in groups of four, and the bits of the symbols are those of the
bytes, followed by two zero bits for each character of padding. -/
structure Denotes (sextets : List (Fin 64)) (pads : Nat) (bytes : Bytes) : Prop where
  few : pads < 3
  whole : (sextets.length + pads) % 4 = 0
  bits : 6 * sextets.length = 8 * bytes.length + 2 * pads
  number : numeral 64 (sextets.map Fin.val) = numeral 256 (bytes.map UInt8.toNat) * 4 ^ pads

def Spells (text : String) (bytes : Bytes) : Prop :=
  ∃ sextets pads, text = written sextets pads ∧ Denotes sextets pads bytes

/-- What can be read: symbols and at most two characters of padding, in groups of four, where
the padding leaves over no bit that is not zero. -/
def Readable (text : String) : Prop :=
  ∃ (sextets : List (Fin 64)) (pads : Nat), text = written sextets pads ∧ pads < 3 ∧
    (sextets.length + pads) % 4 = 0 ∧ 4 ^ pads ∣ numeral 64 (sextets.map Fin.val)

theorem digit_lt (sextets : List (Fin 64)) : ∀ digit ∈ sextets.map Fin.val, digit < 64 := by
  intro digit listed
  obtain ⟨sextet, -, rfl⟩ := List.mem_map.1 listed
  exact sextet.isLt

theorem pow_bits {sextets bytes pads : Nat} (bits : 6 * sextets = 8 * bytes + 2 * pads) :
    64 ^ sextets = 256 ^ bytes * 4 ^ pads := by
  calc 64 ^ sextets = 2 ^ (6 * sextets) := by rw [Nat.pow_mul]
    _ = 2 ^ (8 * bytes) * 2 ^ (2 * pads) := by rw [bits, Nat.pow_add]
    _ = 256 ^ bytes * 4 ^ pads := by rw [Nat.pow_mul, Nat.pow_mul]

/-- Four symbols and three bytes of the same bits may go before what spells bytes. -/
theorem Denotes.prepend {sextets front : List (Fin 64)} {pads : Nat} {bytes back : Bytes}
    (h : Denotes sextets pads bytes) (four : front.length = 4) (three : back.length = 3)
    (same : numeral 64 (front.map Fin.val) = numeral 256 (back.map UInt8.toNat)) :
    Denotes (front ++ sextets) pads (back ++ bytes) where
  few := h.few
  whole := by
    have whole := h.whole
    rw [List.length_append, four]
    omega
  bits := by
    have bits := h.bits
    rw [List.length_append, List.length_append, four, three]
    omega
  number := by
    rw [List.map_append, List.map_append, numeral_append, numeral_append, List.length_map,
      List.length_map, same, h.number, pow_bits h.bits, Nat.add_mul, Nat.mul_assoc]

theorem encode_denotes (bytes : Bytes) : ∃ sextets pads, Denotes sextets pads bytes ∧
    encode bytes = sextets.map (symbol ·.val) ++ List.replicate pads pad := by
  induction bytes using encode.induct with
  | case1 a b c rest ih =>
    obtain ⟨sextets, pads, denotes, encoded⟩ := ih
    have := a.toNat_lt
    have := b.toNat_lt
    have := c.toNat_lt
    generalize bits_eq : a.toNat * 65536 + b.toNat * 256 + c.toNat = bits
    let front : List (Fin 64) := [⟨bits / 262144, by omega⟩, ⟨bits / 4096 % 64, by omega⟩,
      ⟨bits / 64 % 64, by omega⟩, ⟨bits % 64, by omega⟩]
    have same : numeral 64 (front.map Fin.val) = numeral 256 ([a, b, c].map UInt8.toNat) := by
      simp only [front, numeral, List.map_cons, List.map_nil, List.foldl_cons, List.foldl_nil]
      omega
    refine ⟨front ++ sextets, pads, denotes.prepend rfl rfl same, ?_⟩
    simp only [encode, bits_eq, encoded]
    rfl
  | case2 a b =>
    have := a.toNat_lt
    have := b.toNat_lt
    generalize bits_eq : a.toNat * 1024 + b.toNat * 4 = bits
    let sextets : List (Fin 64) :=
      [⟨bits / 4096, by omega⟩, ⟨bits / 64 % 64, by omega⟩, ⟨bits % 64, by omega⟩]
    have same : numeral 64 (sextets.map Fin.val) =
        numeral 256 ([a, b].map UInt8.toNat) * 4 ^ 1 := by
      simp only [sextets, numeral, List.map_cons, List.map_nil, List.foldl_cons, List.foldl_nil]
      omega
    refine ⟨sextets, 1, ⟨by decide, by simp [sextets], rfl, same⟩, ?_⟩
    simp only [encode, bits_eq]
    rfl
  | case3 a =>
    have := a.toNat_lt
    generalize bits_eq : a.toNat * 16 = bits
    let sextets : List (Fin 64) := [⟨bits / 64, by omega⟩, ⟨bits % 64, by omega⟩]
    have same : numeral 64 (sextets.map Fin.val) = numeral 256 ([a].map UInt8.toNat) * 4 ^ 2 := by
      simp only [sextets, numeral, List.map_cons, List.map_nil, List.foldl_cons, List.foldl_nil]
      omega
    refine ⟨sextets, 2, ⟨by decide, by simp [sextets], rfl, same⟩, ?_⟩
    simp only [encode, bits_eq]
    rfl
  | case4 => exact ⟨[], 0, ⟨by decide, rfl, rfl, rfl⟩, rfl⟩

theorem spells_text (bytes : Bytes) : Spells (text bytes) bytes := by
  obtain ⟨sextets, pads, denotes, encoded⟩ := encode_denotes bytes
  refine ⟨sextets, pads, ?_, denotes⟩
  rw [text, Utf8.ofAscii, encoded, List.map_append, List.map_map, List.map_replicate]
  exact congrArg (fun symbols => String.ofList (symbols ++ List.replicate pads '='))
    (List.map_congr_left fun sextet _ => symbol_letter sextet)

/-- Bytes have one spelling: the number of symbols and of padding follow from their length,
and digits in a given number from the number. -/
theorem Denotes.unique {one other : List (Fin 64)} {pads pads' : Nat} {bytes : Bytes}
    (h : Denotes one pads bytes) (h' : Denotes other pads' bytes) : one = other ∧ pads = pads' := by
  obtain ⟨few, -, bits, number⟩ := h
  obtain ⟨few', -, bits', number'⟩ := h'
  obtain rfl : pads = pads' := by omega
  have length : (one.map Fin.val).length = (other.map Fin.val).length := by
    rw [List.length_map, List.length_map]
    omega
  have same := numeral_inj (by decide) length (digit_lt one) (digit_lt other)
    (number.trans number'.symm)
  exact ⟨List.map_injective_iff.2 Fin.val_injective same, rfl⟩

theorem spells_iff {text : String} {bytes : Bytes} :
    Spells text bytes ↔ text = Base64.text bytes := by
  constructor
  · rintro ⟨sextets, pads, rfl, denotes⟩
    obtain ⟨sextets', pads', text_eq, denotes'⟩ := spells_text bytes
    obtain ⟨rfl, rfl⟩ := denotes.unique denotes'
    exact text_eq.symm
  · rintro rfl
    exact spells_text bytes

example : text [102, 111, 111, 98] = "Zm9vYg==" := by decide

theorem decode_iff_spells {text : String} {bytes : Bytes} :
    decode (Utf8.encode text) = .ok bytes ↔ Spells text bytes := by
  rw [decode_iff, spells_iff, ← encode_text]
  constructor
  · intro same
    have decoded := congrArg Utf8.decode same
    rw [Utf8.decode_encode, Utf8.decode_encode] at decoded
    exact Option.some.inj decoded
  · rintro rfl
    rfl

theorem readable_iff {text : String} : Readable text ↔ ∃ bytes, Spells text bytes := by
  constructor
  · rintro ⟨sextets, pads, rfl, few, whole, number, divided⟩
    have bits : 6 * sextets.length =
        8 * (3 * ((sextets.length + pads) / 4) - pads) + 2 * pads := by omega
    have small := @numeral_lt 64 (sextets.map Fin.val) (by decide) (digit_lt sextets)
    rw [List.length_map, pow_bits bits, divided, Nat.mul_comm] at small
    have small := Nat.lt_of_mul_lt_mul_right small
    obtain ⟨bytes, length, spelled⟩ := exists_bytes _ small
    refine ⟨bytes, sextets, pads, rfl, few, whole, ?_, ?_⟩
    · rw [length, bits]
    · rw [spelled, divided, Nat.mul_comm]
  · rintro ⟨bytes, sextets, pads, rfl, few, whole, -, number⟩
    exact ⟨sextets, pads, rfl, few, whole, number ▸ Nat.dvd_mul_left ..⟩

end AttachmentFetch.Text.Base64
