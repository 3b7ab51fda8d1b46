/-! Bytes, and the text that they spell in UTF-8. Text is always held as `String`; bytes from
outside become text only through `decode`, which accepts the shortest form of each scalar value
alone. -/
namespace AttachmentFetch

abbrev Bytes := List UInt8

namespace Text.Utf8

def encode (text : String) : Bytes :=
  text.toList.flatMap String.utf8EncodeChar

def continuation? (byte : UInt8) : Option Nat :=
  if 0x80 ≤ byte ∧ byte < 0xC0 then some (byte.toNat - 0x80) else none

/-- The scalar value `code`, when it lies at or above `least`, the first value
that needs this many bytes, and is no surrogate. -/
def scalar? (least code : Nat) : Option Char :=
  if h : code.isValidChar then
    if least ≤ code then some (Char.ofNatAux code h) else none
  else none

def twoBytes? (lead : Nat) (b : UInt8) : Option Char := do
  scalar? 0x80 (lead * 64 + (← continuation? b))

def threeBytes? (lead : Nat) (b c : UInt8) : Option Char := do
  scalar? 0x800 ((lead * 64 + (← continuation? b)) * 64 + (← continuation? c))

def fourBytes? (lead : Nat) (b c d : UInt8) : Option Char := do
  scalar? 0x10000
    (((lead * 64 + (← continuation? b)) * 64 + (← continuation? c)) * 64 + (← continuation? d))

/-- The characters that a byte string spells, or nothing when some part of it
is not the UTF-8 form of a scalar value. -/
def chars? : Bytes → Option (List Char)
  | [] => some []
  | a :: rest =>
    if a < 0x80 then (chars? rest).map (Char.ofNat a.toNat :: ·)
    else if 0xC0 ≤ a ∧ a < 0xE0 then
      match rest with
      | b :: rest =>
        (twoBytes? (a.toNat - 0xC0) b).bind fun c => (chars? rest).map (c :: ·)
      | _ => none
    else if 0xE0 ≤ a ∧ a < 0xF0 then
      match rest with
      | b :: c :: rest =>
        (threeBytes? (a.toNat - 0xE0) b c).bind fun c => (chars? rest).map (c :: ·)
      | _ => none
    else if 0xF0 ≤ a ∧ a < 0xF8 then
      match rest with
      | b :: c :: d :: rest =>
        (fourBytes? (a.toNat - 0xF0) b c d).bind fun c => (chars? rest).map (c :: ·)
      | _ => none
    else none

def decode (bytes : Bytes) : Option String :=
  (chars? bytes).map String.ofList

/-! Bytes that are no text, as they are shown. -/

def first? (bytes : Bytes) : Option (Char × Nat) :=
  [1, 2, 3, 4].findSome? fun count =>
    match chars? (bytes.take count) with
    | some [c] => some (c, count)
    | _ => none

def follows (lead byte : UInt8) : Bool :=
  let least : UInt8 := if lead = 0xE0 then 0xA0 else if lead = 0xF0 then 0x90 else 0x80
  let most : UInt8 := if lead = 0xED then 0x9F else if lead = 0xF4 then 0x8F else 0xBF
  least ≤ byte && byte ≤ most

/-- How many bytes count as one, where no character begins: those that could have been
the beginning of one, or else the first. -/
def brokenLength : Bytes → Nat
  | a :: b :: rest =>
    if 0xE0 ≤ a ∧ a ≤ 0xF4 ∧ follows a b then
      match rest with
      | c :: _ => if 0xF0 ≤ a ∧ (continuation? c).isSome then 3 else 2
      | [] => 2
    else 1
  | _ => 1

def shownChars (bytes : Bytes) : List Char :=
  match bytes with
  | [] => []
  | _ :: rest =>
    match first? bytes with
    | some (c, count) => c :: shownChars (rest.drop (count - 1))
    | none => '\uFFFD' :: shownChars (rest.drop (brokenLength bytes - 1))
termination_by bytes.length
decreasing_by all_goals simp only [List.length_drop, List.length_cons]; omega

def shown (bytes : Bytes) : String := String.ofList (shownChars bytes)

end Text.Utf8

end AttachmentFetch
