/-! Punycode: a label with characters beyond ASCII, spelled in ASCII. Its ASCII
characters stand in front. Behind them numbers tell where the others go, in
their order by code point; small digits first, in a scale that follows the size
of the numbers before. -/
namespace AttachmentFetch.Url.Punycode

def base : Nat := 36

/-- Letters stand for the first values, figures for those from 26 on. -/
def digit (value : Nat) : Char :=
  if value < 26 then Char.ofNat (97 + value) else Char.ofNat (22 + value)

/-- A digit below the threshold of its place ends a number. -/
def threshold (bias place : Nat) : Nat := max 1 (min 26 (place - bias))

def number (bias place value : Nat) : List Char :=
  let bound := threshold bias place
  if value < bound then [digit value]
  else
    digit (bound + (value - bound) % (base - bound)) ::
      number bias (place + base) ((value - bound) / (base - bound))
termination_by value
decreasing_by
  have : 1 ≤ threshold bias place := Nat.le_max_left ..
  have := Nat.div_le_self (value - threshold bias place) (base - threshold bias place)
  omega

def biasFor (shift size : Nat) : Nat :=
  if 455 < size then biasFor (shift + base) (size / 35) else shift + base * size / (size + 38)
termination_by size
decreasing_by omega

structure Spelling where
  /-- The number that the next character is going to be told by. -/
  number : Nat := 0
  bias : Nat := 72
  told : Nat
  isFirst : Bool := true
  digits : List Char := []

def Spelling.visit (turn : Nat) (spelling : Spelling) (c : Char) : Spelling :=
  if c.toNat < turn then { spelling with number := spelling.number + 1 }
  else if c.toNat = turn then
    let told := spelling.told + 1
    let size := spelling.number / (if spelling.isFirst then 700 else 2)
    { number := 0
      bias := biasFor 0 (size + size / told)
      told
      isFirst := false
      digits := spelling.digits ++ Punycode.number spelling.bias base spelling.number }
  else spelling

/-- Tells the characters that are in turn, the code points before `next` being done. -/
def spell (label : List Char) : List Nat → Nat → Spelling → Spelling
  | [], _, spelling => spelling
  | turn :: turns, next, spelling =>
    let skipped := (turn - next) * (spelling.told + 1)
    let spelling :=
      label.foldl (Spelling.visit turn) { spelling with number := spelling.number + skipped }
    spell label turns (turn + 1) { spelling with number := spelling.number + 1 }

def isAscii (c : Char) : Bool := c.toNat < 128

def encode (label : List Char) : List Char :=
  let plain := label.filter isAscii
  let turns := ((label.filter (!isAscii ·)).map Char.toNat).eraseDups.mergeSort
  plain ++ (if plain.isEmpty then [] else ['-']) ++
    (spell label turns 128 { told := plain.length }).digits

end AttachmentFetch.Url.Punycode
