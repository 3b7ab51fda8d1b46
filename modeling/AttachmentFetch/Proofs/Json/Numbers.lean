import AttachmentFetch.Json.Printer
import AttachmentFetch.Json.Reader
import AttachmentFetch.Proofs.Text.Utf8

/-! Integers in decimal. Each is read back from its digits where the text ends or goes on
with what separates values. -/
namespace AttachmentFetch.Json

open Text.Utf8 (ofChars ofChars_nil ofChars_cons ofChars_append ofChars_ascii)

/-- What may come next after a value: nothing, a comma or a closing bracket. -/
def Closes : Bytes → Prop
  | [] => True
  | byte :: _ => byte = comma ∨ byte = listClose ∨ byte = objectClose

theorem Closes.startsWithDigit {rest : Bytes} (closes : Closes rest) :
    startsWithDigit rest = false := by
  cases rest with
  | nil => rfl
  | cons byte rest => obtain rfl | rfl | rfl := closes <;> rfl

section Digits

theorem digit?_digitChar : ∀ digit < 10,
    digit? (UInt8.ofNat (Nat.digitChar digit).toNat) = some digit ∧
      (Nat.digitChar digit).toNat < 128 := by decide

theorem ofChars_digit {digit : Nat} (small : digit < 10) :
    ofChars [Nat.digitChar digit] = [UInt8.ofNat (Nat.digitChar digit).toNat] := by
  rw [ofChars_ascii (digit?_digitChar digit small).2, ofChars_nil]

theorem gather_digit {significand count digit : Nat} (small : digit < 10)
    (fits : significand * 10 + digit < 18446744073709551616) (rest : Bytes) :
    gather significand count (UInt8.ofNat (Nat.digitChar digit).toNat :: rest) =
      gather (significand * 10 + digit) (count + 1) rest := by
  rw [gather, (digit?_digitChar digit small).1]
  exact if_pos fits

theorem gather_toDigits {n : Nat} (fits : n < 18446744073709551616) (rest : Bytes) :
    gather 0 0 (ofChars (Nat.toDigits 10 n) ++ rest) =
      gather n (Nat.toDigits 10 n).length rest := by
  induction n using Nat.strong_induction_on generalizing rest with
  | _ n ih =>
    by_cases single : n < 10
    · rw [Nat.toDigits_of_lt_base single, ofChars_digit single, List.singleton_append,
        gather_digit single (by omega), Nat.zero_mul, Nat.zero_add]
      rfl
    · have last : n % 10 < 10 := Nat.mod_lt _ (by decide)
      have whole : n / 10 * 10 + n % 10 = n := Nat.div_add_mod' ..
      rw [Nat.toDigits_of_base_le (by decide) (Nat.not_lt.1 single), ofChars_append,
        ofChars_digit last, List.append_assoc, ih (n / 10) (by omega) (by omega),
        List.singleton_append, gather_digit last (by omega), whole, List.length_append]
      rfl

theorem toDigits_head (n : Nat) : ∃ first more,
    ofChars (Nat.toDigits 10 n) = first :: more ∧ (digit? first).isSome ∧ (first = 48 → n = 0) := by
  induction n using Nat.strong_induction_on with
  | _ n ih =>
    by_cases single : n < 10
    · refine ⟨_, [], by rw [Nat.toDigits_of_lt_base single, ofChars_digit single], ?_, ?_⟩
      · rw [(digit?_digitChar n single).1]
        rfl
      · intro zero
        have read := (digit?_digitChar n single).1
        rw [zero] at read
        exact (Option.some.inj read).symm
    · obtain ⟨first, more, digits, digit, zero⟩ := ih (n / 10) (by omega)
      refine ⟨first, more ++ ofChars [Nat.digitChar (n % 10)], ?_, digit, fun led => ?_⟩
      · rw [Nat.toDigits_of_base_le (by decide) (Nat.not_lt.1 single), ofChars_append, digits,
          List.cons_append]
      · have := zero led
        omega

theorem gather_stops {rest : Bytes} (stops : startsWithDigit rest = false)
    (significand count : Nat) : gather significand count rest = (significand, count, rest) := by
  cases rest with
  | nil => rfl
  | cons byte rest =>
    have noDigit : digit? byte = none := Option.not_isSome_iff_eq_none.1 (ne_true_of_eq_false stops)
    rw [gather, noDigit]

end Digits

theorem number_toDigits {n : Nat} (fits : n < 18446744073709551616) (negative : Bool)
    {rest : Bytes} (closes : Closes rest) :
    number negative (ofChars (Nat.toDigits 10 n) ++ rest) = afterWhole negative n fits rest := by
  have stops := closes.startsWithDigit
  obtain ⟨first, more, digits, digit, zero⟩ := toDigits_head n
  by_cases led : first = 48
  · obtain rfl := zero led
    change number negative (48 :: rest) = _
    simp only [number, stops, Bool.false_eq_true, if_false]
  · have gathered := (gather_toDigits fits rest).trans (gather_stops stops ..)
    obtain ⟨value, read⟩ := Option.isSome_iff_exists.1 digit
    rw [digits, List.cons_append] at gathered ⊢
    unfold number
    split
    next empty => cases empty
    next heading => exact absurd (List.cons.inj heading).1 led
    next byte tail _ heading =>
      obtain ⟨rfl, rfl⟩ := List.cons.inj heading
      simp only [read, gathered, stops, Bool.false_eq_true, if_false]

theorem afterWhole_closes {n : Nat} (fits) (inRange) {rest : Bytes} (closes : Closes rest) :
    afterWhole false n fits rest = .ok (.integer n inRange, rest) := by
  cases rest with
  | nil => rfl
  | cons byte rest => obtain rfl | rfl | rfl := closes <;> rfl

theorem afterWhole_negative {n : Nat} (fits) (inRange) (positive : 0 < n)
    (small : n ≤ 9223372036854775808) {rest : Bytes} (closes : Closes rest) :
    afterWhole true n fits rest = .ok (.integer (-(n : Int)) inRange, rest) := by
  have within : 0 < n ∧ n ≤ 9223372036854775808 := ⟨positive, small⟩
  cases rest with
  | nil => exact dif_pos within
  | cons byte rest => obtain rfl | rfl | rfl := closes <;> exact dif_pos within

theorem scalar_digit {first : UInt8} (digit : (digit? first).isSome) (rest : Bytes) :
    scalar (first :: rest) = mapRead .number (number false (first :: rest)) := by
  have differs {letter : UInt8} (noDigit : digit? letter = none) : first ≠ letter := by
    rintro rfl
    rw [noDigit] at digit
    cases digit
  unfold scalar
  split
  case h_1 empty => cases empty
  case h_7 heading =>
    obtain ⟨rfl, rfl⟩ := List.cons.inj heading
    exact if_pos digit
  all_goals
    next heading => exact absurd (List.cons.inj heading).1 (differs (by decide))

theorem text_ofNat {n : Nat} (inRange) :
    (Number.integer (.ofNat n) inRange).text.toList = Nat.toDigits 10 n := String.toList_ofList

theorem text_negSucc {n : Nat} (inRange) :
    (Number.integer (.negSucc n) inRange).text.toList = '-' :: Nat.toDigits 10 (n + 1) := by
  change ("-" ++ String.ofList (Nat.toDigits 10 (n + 1))).toList = _
  rw [String.toList_append, String.toList_ofList, String.toList_ofList]
  rfl

theorem scalar_integer {value : Int} (inRange) {rest : Bytes} (closes : Closes rest) :
    scalar (ofChars (Number.integer value inRange).text.toList ++ rest) =
      .ok (.number (.integer value inRange), rest) := by
  cases value with
  | ofNat n =>
    obtain ⟨first, more, digits, digit, _⟩ := toDigits_head n
    have read := number_toDigits (Int.ofNat_lt.1 inRange.2) false closes
    rw [digits, List.cons_append] at read
    rw [text_ofNat, digits, List.cons_append, scalar_digit digit, read,
      afterWhole_closes _ inRange closes]
    rfl
  | negSucc n =>
    have read := number_toDigits (show n + 1 < 18446744073709551616 by omega) true closes
    have inRange' : -9223372036854775808 ≤ -((n + 1 : Nat) : Int) ∧
        -((n + 1 : Nat) : Int) < 18446744073709551616 := by omega
    rw [text_negSucc, ofChars_ascii (by decide), List.cons_append]
    change mapRead Value.number (number true (ofChars (Nat.toDigits 10 (n + 1)) ++ rest)) = _
    rw [read, afterWhole_negative _ inRange' (Nat.succ_pos n) (by omega) closes]
    rfl

end AttachmentFetch.Json
