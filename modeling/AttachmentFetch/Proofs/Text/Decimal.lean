import AttachmentFetch.Text.Integer
import Mathlib.Data.Int.Basic

/-! Integers are read from the decimal digits that they are written with, the least and the
greatest of their range with them. -/
namespace AttachmentFetch.Text

theorem decimalDigit?_digitChar : ∀ digit < 10,
    decimalDigit? (Nat.digitChar digit) = some digit := by decide

theorem readDigits_digit {most digit value : Nat} {overflow : IntegerFault} (small : digit < 10)
    (fits : value * 10 + digit ≤ most) (rest : List Char) :
    readDigits most overflow value (Nat.digitChar digit :: rest) =
      readDigits most overflow (value * 10 + digit) rest := by
  rw [readDigits, decimalDigit?_digitChar digit small]
  exact if_pos fits

/-- No digit of a number that is within the bound leads past it. -/
theorem readDigits_toDigits {most n : Nat} (overflow : IntegerFault) (fits : n ≤ most)
    (rest : List Char) :
    readDigits most overflow 0 (Nat.toDigits 10 n ++ rest) =
      readDigits most overflow n rest := by
  induction n using Nat.strong_induction_on generalizing rest with
  | _ n ih =>
    by_cases single : n < 10
    · rw [Nat.toDigits_of_lt_base single, List.singleton_append, readDigits_digit single (by omega),
        Nat.zero_mul, Nat.zero_add]
    · have last : n % 10 < 10 := Nat.mod_lt _ (by decide)
      have whole : n / 10 * 10 + n % 10 = n := Nat.div_add_mod' ..
      rw [Nat.toDigits_of_base_le (by decide) (Nat.not_lt.1 single), List.append_assoc,
        ih (n / 10) (by omega) (by omega), List.singleton_append,
        readDigits_digit last (by omega), whole]

theorem toDigits_unsigned (n : Nat) : ∃ first more,
    Nat.toDigits 10 n = first :: more ∧ first ≠ '+' ∧ first ≠ '-' := by
  have unsigned : ∀ digit < 10, Nat.digitChar digit ≠ '+' ∧ Nat.digitChar digit ≠ '-' := by decide
  induction n using Nat.strong_induction_on with
  | _ n ih =>
    by_cases single : n < 10
    · exact ⟨_, [], Nat.toDigits_of_lt_base single, unsigned n single⟩
    · obtain ⟨first, more, digits, plain⟩ := ih (n / 10) (by omega)
      refine ⟨first, more ++ [Nat.digitChar (n % 10)], ?_, plain⟩
      rw [Nat.toDigits_of_base_le (by decide) (Nat.not_lt.1 single), digits, List.cons_append]

theorem readInteger_natural {negatives : Option Nat} {most n : Nat} (fits : n ≤ most) :
    readInteger negatives most n.repr = .ok n := by
  have read := readDigits_toDigits .tooLarge fits []
  obtain ⟨first, more, digits, plus, minus⟩ := toDigits_unsigned n
  have text : n.repr.toList = first :: more := Nat.toList_repr.trans digits
  rw [List.append_nil, digits] at read
  unfold readInteger
  dsimp only
  simp only [text]
  split
  next empty => cases empty
  next signed => exact absurd (List.cons.inj signed).1 plus
  next signed => exact absurd (List.cons.inj signed).1 minus
  next signed => exact absurd (List.cons.inj signed).1 plus
  next signed => exact absurd (List.cons.inj signed).1 minus
  next => rw [read]; rfl

theorem readInteger_negative {least most n : Nat} (fits : n + 1 ≤ least) :
    readInteger (some least) most (Int.negSucc n).repr = .ok (Int.negSucc n) := by
  have read := readDigits_toDigits .tooSmall fits []
  obtain ⟨first, more, digits, -⟩ := toDigits_unsigned (n + 1)
  have text : (Int.negSucc n).repr.toList = '-' :: first :: more := by
    change ("-" ++ (n + 1).repr).toList = _
    rw [String.toList_append, Nat.toList_repr, digits]
    rfl
  rw [List.append_nil, digits] at read
  unfold readInteger
  dsimp only
  simp only [text, read]
  rfl

theorem readInt64_repr (value : Int64) : readInt64 value.toInt.repr = .ok value := by
  have least := value.le_toInt
  have most := value.toInt_lt
  have read : readInteger (some 9223372036854775808) 9223372036854775807 value.toInt.repr =
      .ok value.toInt := by
    generalize value.toInt = number at least most
    cases number with
    | ofNat n => exact readInteger_natural (Nat.le_of_lt_succ (Int.ofNat_lt.1 most))
    | negSucc n => exact readInteger_negative (by omega)
  rw [readInt64, read, Except.map, Int64.ofInt_toInt]

theorem readUInt64_repr (value : UInt64) : readUInt64 value.toNat.repr = .ok value := by
  have fits : value.toNat ≤ UInt64.size - 1 := Nat.le_pred_of_lt value.toNat_lt
  rw [readUInt64, readInteger_natural fits, Except.map, Int.toNat_natCast, UInt64.ofNat_toNat]

end AttachmentFetch.Text
