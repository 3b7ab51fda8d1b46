import AttachmentFetch.Number.Binary64

/-! The fewest decimal digits that read back as a given number. -/
namespace AttachmentFetch.Shortest

/-- The fractions that round to a number, as an interval whose ends, like the
number itself, are whole multiples of a common unit. -/
structure Interval where
  low : Nat
  value : Nat
  high : Nat
  unit : Nat
  closed : Bool

/-- The interval reaches half-way to either neighbour; below a power of two the
lower neighbour is nearer. Ends round to the even mantissa. -/
def interval (x : Binary64) : Interval :=
  let down := if x.mantissa = 1 <<< 52 ∧ Binary64.leastExponent < x.exponent then 1 else 2
  let scale := 1 <<< x.exponent.toNat
  { low := (4 * x.mantissa - down) * scale
    value := 4 * x.mantissa * scale
    high := (4 * x.mantissa + 2) * scale
    unit := 4 <<< (-x.exponent).toNat
    closed := x.mantissa % 2 = 0 }

def Interval.holds (i : Interval) (digits : Nat) (power : Int) : Bool :=
  let point := digits * Nat.pow 10 power.toNat * i.unit
  let scale := Nat.pow 10 (-power).toNat
  if i.closed then i.low * scale ≤ point && point ≤ i.high * scale
  else i.low * scale < point && point < i.high * scale

/-- The point of a decimal grid that lies in the interval, the nearer one of
two, and of two equally near ones the even one. -/
def Interval.onGrid? (i : Interval) (power : Int) : Option Nat :=
  let num := i.value * Nat.pow 10 (-power).toNat
  let den := i.unit * Nat.pow 10 power.toNat
  let below := num / den
  let rest := num % den
  match i.holds below power, i.holds (below + 1) power with
  | true, true =>
    if 2 * rest < den ∨ (2 * rest = den ∧ below % 2 = 0) then some below else some (below + 1)
  | true, false => some below
  | false, true => some (below + 1)
  | false, false => none

/-- Tries grids from coarse to fine. Seventeen digits always suffice. -/
def search (i : Interval) (top : Int) : Nat → Nat × Int
  | 0 =>
    let power := top - 16
    (i.value * Nat.pow 10 (-power).toNat / (i.unit * Nat.pow 10 power.toNat), power)
  | tries + 1 =>
    match i.onGrid? (top + (tries : Int) - 16) with
    | some digits => (digits, top + (tries : Int) - 16)
    | none => search i top tries

def floorLog10 (num den : Nat) : Nat → Int → Int
  | 0, power => power
  | steps + 1, power =>
    if den * Nat.pow 10 power.toNat ≤ num * Nat.pow 10 (-power).toNat then power
    else floorLog10 num den steps (power - 1)

def dropZeros : Nat → Nat → Int → Nat × Int
  | 0, digits, power => (digits, power)
  | steps + 1, digits, power =>
    if digits % 10 = 0 then dropZeros steps (digits / 10) (power + 1) else (digits, power)

def digits (x : Binary64) : Nat × Int :=
  let i := interval x
  let top := floorLog10 i.value i.unit 640 308
  let (found, power) := search i top 17
  dropZeros 20 found power

end AttachmentFetch.Shortest
