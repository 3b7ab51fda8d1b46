import AttachmentFetch.Duration

/-! Multiplying spans of time. The two limbs give the exact product, or the longest span
where that is less; and so they do in words of 64 bits, since nanoseconds below a second
times a factor of 32 bits have room in one. -/
namespace AttachmentFetch

def checkedTimes (a b : UInt64) : Option UInt64 :=
  if a.toNat * b.toNat < UInt64.size then some (a * b) else none

theorem checkedTimes_of_lt {a b : UInt64} (fits : a.toNat * b.toNat < UInt64.size) :
    checkedTimes a b = some (UInt64.ofNat (a.toNat * b.toNat)) := by
  rw [checkedTimes, if_pos fits, UInt64.ofNat_mul, UInt64.ofNat_toNat, UInt64.ofNat_toNat]

def checkedPlus (a b : UInt64) : Option UInt64 :=
  if a.toNat + b.toNat < UInt64.size then some (a + b) else none

theorem checkedPlus_of_lt {a b : UInt64} (fits : a.toNat + b.toNat < UInt64.size) :
    checkedPlus a b = some (UInt64.ofNat (a.toNat + b.toNat)) := by
  rw [checkedPlus, if_pos fits, UInt64.ofNat_add, UInt64.ofNat_toNat, UInt64.ofNat_toNat]

namespace Duration

theorem toNanos_max : max.toNanos = UInt64.size * nanosPerSecond - 1 := by decide

theorem toNanos_ofLimbs {seconds nanos : Nat} (nanos_lt : nanos < nanosPerSecond) :
    (ofLimbs seconds nanos nanos_lt).toNanos =
      min max.toNanos (seconds * nanosPerSecond + nanos) := by
  rw [toNanos_max]
  unfold ofLimbs
  split
  next fits =>
    have small : nanos < UInt32.size := by
      unfold nanosPerSecond at nanos_lt
      unfold UInt32.size
      omega
    rw [toNanos, UInt64.toNat_ofNat_of_lt' fits, UInt32.toNat_ofNat_of_lt' small]
    unfold nanosPerSecond UInt64.size at *
    omega
  next beyond =>
    rw [toNanos_max]
    unfold nanosPerSecond UInt64.size at *
    omega

theorem toNanos_ofSeconds (seconds : UInt64) :
    (ofSeconds seconds).toNanos = seconds.toNat * nanosPerSecond := Nat.add_zero _

theorem toNanos_ofMillis (millis : UInt64) :
    (ofMillis millis).toNanos = millis.toNat * 1000000 := by
  have bound := millis.toNat_lt
  rw [ofMillis, toNanos_ofLimbs, toNanos_max]
  unfold nanosPerSecond UInt64.size
  omega

theorem toNanos_saturatingMul (span : Duration) (factor : UInt32) :
    (span.saturatingMul factor).toNanos = min max.toNanos (span.toNanos * factor.toNat) := by
  rw [saturatingMul, toNanos_ofLimbs]
  congr 1
  calc (span.seconds.toNat * factor.toNat + span.nanos.toNat * factor.toNat / nanosPerSecond) *
          nanosPerSecond + span.nanos.toNat * factor.toNat % nanosPerSecond
      = span.seconds.toNat * factor.toNat * nanosPerSecond +
          span.nanos.toNat * factor.toNat := by
        rw [Nat.add_mul, Nat.add_assoc, Nat.div_add_mod']
    _ = span.toNanos * factor.toNat := by
        rw [toNanos, Nat.add_mul, Nat.mul_right_comm]

/-- The product as a machine of 64 bits comes to it. Seconds are multiplied, and the carry is
added, only where that fits; the product of the nanoseconds goes unchecked. -/
def checkedMul (span : Duration) (factor : UInt32) : Option Duration := do
  let nanos : UInt64 := span.nanos.toUInt64 * factor.toUInt64
  let seconds ← checkedTimes span.seconds factor.toUInt64
  let carried ← checkedPlus seconds (nanos / 1000000000)
  return ⟨carried, (nanos % 1000000000).toUInt32, by
    have below : nanos.toNat % 1000000000 < 1000000000 := Nat.mod_lt _ (by decide)
    simp only [UInt64.toNat_toUInt32, UInt64.toNat_mod, UInt64.reduceToNat, nanosPerSecond]
    omega⟩

theorem nanos_product (span : Duration) (factor : UInt32) :
    (span.nanos.toUInt64 * factor.toUInt64).toNat = span.nanos.toNat * factor.toNat := by
  have below : span.nanos.toNat * factor.toNat ≤ nanosPerSecond * UInt32.size :=
    Nat.mul_le_mul (Nat.le_of_lt span.nanos_lt) (Nat.le_of_lt factor.toNat_lt)
  rw [UInt64.toNat_mul, UInt32.toNat_toUInt64, UInt32.toNat_toUInt64]
  refine Nat.mod_eq_of_lt (Nat.lt_of_le_of_lt below ?_)
  decide

theorem saturatingMul_eq_checked (span : Duration) (factor : UInt32) :
    span.saturatingMul factor = (span.checkedMul factor).getD max := by
  have product := nanos_product span factor
  have carry : ((span.nanos.toUInt64 * factor.toUInt64) / 1000000000).toNat =
      span.nanos.toNat * factor.toNat / nanosPerSecond := by
    rw [UInt64.toNat_div, product]
    rfl
  have rest : ((span.nanos.toUInt64 * factor.toUInt64) % 1000000000).toUInt32 =
      UInt32.ofNat (span.nanos.toNat * factor.toNat % nanosPerSecond) := by
    rw [← UInt32.toNat_inj, UInt64.toNat_toUInt32, UInt64.toNat_mod, product,
      UInt32.toNat_ofNat']
    rfl
  simp only [saturatingMul, ofLimbs, checkedMul]
  split
  next fits =>
    have times : checkedTimes span.seconds factor.toUInt64 =
        some (UInt64.ofNat (span.seconds.toNat * factor.toNat)) := by
      rw [checkedTimes_of_lt, UInt32.toNat_toUInt64]
      rw [UInt32.toNat_toUInt64]
      omega
    have plus : checkedPlus (UInt64.ofNat (span.seconds.toNat * factor.toNat))
          (span.nanos.toUInt64 * factor.toUInt64 / 1000000000) =
        some (UInt64.ofNat (span.seconds.toNat * factor.toNat +
          span.nanos.toNat * factor.toNat / nanosPerSecond)) := by
      rw [checkedPlus_of_lt] <;> rw [UInt64.toNat_ofNat_of_lt' (by omega), carry]
      exact fits
    simp only [times, plus, rest, bind, Option.bind, Option.getD, pure]
  next beyond =>
    by_cases times : span.seconds.toNat * factor.toUInt64.toNat < UInt64.size
    · have plus : checkedPlus (UInt64.ofNat (span.seconds.toNat * factor.toUInt64.toNat))
          (span.nanos.toUInt64 * factor.toUInt64 / 1000000000) = none := by
        rw [checkedPlus, if_neg]
        rw [UInt64.toNat_ofNat_of_lt' times, carry]
        exact beyond
      simp only [checkedTimes_of_lt times, plus, bind, Option.bind, Option.getD]
    · simp only [checkedTimes, times, if_false, bind, Option.bind, Option.getD]

end Duration
end AttachmentFetch
