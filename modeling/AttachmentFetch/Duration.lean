/-! Spans of time to the nanosecond, in two limbs: whole seconds of 64 bits and
the nanoseconds below a second. -/
namespace AttachmentFetch

def nanosPerSecond : Nat := 1000000000

structure Duration where
  seconds : UInt64
  nanos : UInt32
  nanos_lt : nanos.toNat < nanosPerSecond
  deriving DecidableEq, Repr

namespace Duration

def toNanos (span : Duration) : Nat :=
  span.seconds.toNat * nanosPerSecond + span.nanos.toNat

def max : Duration := ⟨UInt64.ofNat (UInt64.size - 1), 999999999, by decide⟩

/-- Seconds that fit in 64 bits and nanoseconds below a second make a span; the
longest span stands for everything beyond. -/
def ofLimbs (seconds nanos : Nat) (nanos_lt : nanos < nanosPerSecond) : Duration :=
  if seconds < UInt64.size then
    ⟨UInt64.ofNat seconds, UInt32.ofNat nanos, by
      simp only [nanosPerSecond] at *
      rw [UInt32.toNat_ofNat']
      omega⟩
  else max

def ofParts (seconds : UInt64) (nanos : UInt32) : Duration :=
  ofLimbs (seconds.toNat + nanos.toNat / nanosPerSecond) (nanos.toNat % nanosPerSecond)
    (Nat.mod_lt _ (by decide))

def ofSeconds (seconds : UInt64) : Duration := ⟨seconds, 0, by decide⟩

def ofMillis (millis : UInt64) : Duration :=
  ofLimbs (millis.toNat / 1000) (millis.toNat % 1000 * 1000000) (by
    simp only [nanosPerSecond]; omega)

/-- The span times `factor`, limb by limb with a carry; the longest span when
that does not fit. -/
def saturatingMul (span : Duration) (factor : UInt32) : Duration :=
  let nanos := span.nanos.toNat * factor.toNat
  ofLimbs (span.seconds.toNat * factor.toNat + nanos / nanosPerSecond) (nanos % nanosPerSecond)
    (Nat.mod_lt _ (by decide))

def toMillis (span : Duration) : UInt64 :=
  UInt64.ofNat (span.toNanos / 1000000)

end Duration

end AttachmentFetch
