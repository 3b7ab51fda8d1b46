/-! Finite binary floating-point numbers of 64 bits, in exact arithmetic: every
operation takes the exact result and rounds it once, ties to the even neighbour. -/
namespace AttachmentFetch

/-- The number `mantissa * 2 ^ exponent`, negated if so marked. Zero keeps its sign. -/
structure Binary64 where
  negative : Bool
  mantissa : Nat
  exponent : Int
  deriving DecidableEq, Repr

namespace Binary64

def precision : Nat := 53
def leastExponent : Int := -1074
def greatestExponent : Int := 971

def isZero (x : Binary64) : Bool := x.mantissa = 0

def numerator (x : Binary64) : Nat := x.mantissa <<< x.exponent.toNat
def denominator (x : Binary64) : Nat := 1 <<< (-x.exponent).toNat

/-- The quotient, rounded to the nearest whole number, a half to the even one. -/
def divideRounded (num den : Nat) : Nat :=
  let q := num / den
  let r := num % den
  if 2 * r > den ∨ (2 * r = den ∧ q % 2 = 1) then q + 1 else q

def floorLog2 (num den : Nat) : Int :=
  let guess := (num.log2 : Int) - den.log2
  let reached :=
    if 0 ≤ guess then den <<< guess.toNat ≤ num else den ≤ num <<< (-guess).toNat
  if reached then guess else guess - 1

/-- The number nearest to a fraction, or nothing when that is beyond the largest. -/
def round (negative : Bool) (num den : Nat) : Option Binary64 :=
  if num = 0 then some ⟨negative, 0, leastExponent⟩
  else
    let e := max (floorLog2 num den - 52) leastExponent
    let m :=
      if 0 ≤ e then divideRounded num (den <<< e.toNat)
      else divideRounded (num <<< (-e).toNat) den
    let (m, e) := if m = 1 <<< precision then (1 <<< (precision - 1), e + 1) else (m, e)
    if e > greatestExponent then none else some ⟨negative, m, e⟩

def ofNat? (n : Nat) : Option Binary64 := round false n 1

def mul? (x y : Binary64) : Option Binary64 :=
  round (x.negative != y.negative) (x.numerator * y.numerator) (x.denominator * y.denominator)

/-- The divisor is not zero. -/
def div? (x y : Binary64) : Option Binary64 :=
  round (x.negative != y.negative) (x.numerator * y.denominator) (x.denominator * y.numerator)

def neg (x : Binary64) : Binary64 := { x with negative := !x.negative }

end Binary64

end AttachmentFetch
