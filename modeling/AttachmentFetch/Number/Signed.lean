/-! Signed integers of 64 bits, from integers of any size. -/
namespace AttachmentFetch

def int64? : Int → Option Int64
  | .ofNat n => if n < 9223372036854775808 then some (Int64.ofNat n) else none
  | .negSucc n => if n < 9223372036854775808 then some (Int64.ofInt (.negSucc n)) else none

theorem int64?_eq (value : Int) :
    int64? value =
      if -9223372036854775808 ≤ value ∧ value < 9223372036854775808 then some (Int64.ofInt value)
      else none := by
  cases value with
  | ofNat n =>
    rw [int64?]
    congr 1
    simp only [Int.ofNat_eq_natCast, eq_iff_iff]
    omega
  | negSucc n =>
    rw [int64?]
    congr 1
    simp only [eq_iff_iff]
    omega

theorem exists_int64? {n : Nat} (small : n < 9223372036854775808) :
    ∃ value, int64? n = some value :=
  ⟨_, if_pos small⟩

@[simp] theorem int64?_toInt (n : Int64) : int64? n.toInt = some n := by
  have := n.le_toInt
  have := n.toInt_lt
  rw [int64?_eq, if_pos (by omega), Int64.ofInt_toInt]

theorem toInt_of_int64? {value : Int} {n : Int64} (h : int64? value = some n) :
    n.toInt = value := by
  rw [int64?_eq] at h
  split at h
  next within =>
    cases h
    exact Int64.toInt_ofInt_of_le within.1 within.2
  next => cases h

end AttachmentFetch
