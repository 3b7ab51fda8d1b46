import AttachmentFetch.Text.Utf8

/-! AES with keys of 256 bits, in the encrypting direction, which is all that
counter mode needs. -/
namespace AttachmentFetch.Crypto.Aes

abbrev Block := Vector UInt8 16
abbrev Key := Vector UInt8 32

/-- Multiplication by x in the field of 256 elements. -/
def double (a : UInt8) : UInt8 :=
  if a &&& 0x80 = 0 then a <<< 1 else (a <<< 1) ^^^ 0x1B

/-- The product in the field, by the lowest `bits` bits of the second factor. -/
def multiply (a : UInt8) : Nat → UInt8 → UInt8
  | 0, _ => 0
  | bits + 1, b => (if b &&& 1 = 0 then 0 else a) ^^^ multiply (double a) bits (b >>> 1)

def power (a : UInt8) : Nat → UInt8
  | 0 => 1
  | n + 1 => multiply a 8 (power a n)

def rotateLeft (a : UInt8) (count : UInt8) : UInt8 :=
  (a <<< count) ||| (a >>> (8 - count))

/-- The inverse in the field, zero for zero, followed by an affine map of its bits. -/
def substitution (a : UInt8) : UInt8 :=
  let b := power a 254
  b ^^^ rotateLeft b 1 ^^^ rotateLeft b 2 ^^^ rotateLeft b 3 ^^^ rotateLeft b 4 ^^^ 0x63

def substitutions : Vector UInt8 256 := Vector.ofFn fun i => substitution (UInt8.ofNat i.val)

def substitute (a : UInt8) : UInt8 :=
  substitutions.get ⟨a.toNat, a.toNat_lt⟩

abbrev Word := Vector UInt8 4

def Word.xor (a b : Word) : Word := Vector.zipWith (· ^^^ ·) a b

/-- The word that follows eight others. Every eighth one is rotated, substituted
and marked with a power of x, the one half-way between is substituted. -/
def nextWord (index : Nat) (eighth previous : Word) : Word :=
  let mixed : Word :=
    if index % 8 = 0 then
      #v[substitute previous[1] ^^^ power 2 (index / 8 - 1), substitute previous[2],
        substitute previous[3], substitute previous[0]]
    else if index % 8 = 4 then previous.map substitute
    else previous
  eighth.xor mixed

/-- The words from `index` on, given the eight before them. -/
def expand : Nat → Nat → List Word → List Word
  | 0, _, _ => []
  | count + 1, index, window =>
    let zero : Word := Vector.replicate 4 0
    let word := nextWord index (window.headD zero) (window.getLastD zero)
    word :: expand count (index + 1) (window.tail ++ [word])

def schedule (key : Key) : List Word :=
  let first : List Word := (List.range 8).map fun i =>
    Vector.ofFn fun j => key.toArray.getD (4 * i + j.val) 0
  first ++ expand 52 8 first

def roundKeys : List Word → List Block
  | a :: b :: c :: d :: rest =>
    Vector.ofFn (fun i : Fin 16 =>
      (#v[a, b, c, d].get ⟨i.val / 4, by omega⟩).get ⟨i.val % 4, by omega⟩) :: roundKeys rest
  | _ => []

def addKey (block key : Block) : Block := Vector.zipWith (· ^^^ ·) block key

/-- Row `r` of the four by four bytes, which are written column by column, moves
left by `r` places. -/
def shiftRows (block : Block) : Block :=
  Vector.ofFn fun i => block.get ⟨(i.val + 4 * (i.val % 4)) % 16, by omega⟩

def mixColumns (block : Block) : Block :=
  Vector.ofFn fun i =>
    let entry (offset : Nat) : UInt8 :=
      block.get ⟨i.val / 4 * 4 + (i.val % 4 + offset) % 4, by omega⟩
    double (entry 0) ^^^ double (entry 1) ^^^ entry 1 ^^^ entry 2 ^^^ entry 3

/-- The rounds after the first key. The last one leaves the columns alone. -/
def rounds (block : Block) : List Block → Block
  | [] => block
  | [last] => addKey (shiftRows (block.map substitute)) last
  | key :: keys => rounds (addKey (mixColumns (shiftRows (block.map substitute))) key) keys

def encryptWith (keys : List Block) (block : Block) : Block :=
  match keys with
  | [] => block
  | first :: rest => rounds (addKey block first) rest

end AttachmentFetch.Crypto.Aes
