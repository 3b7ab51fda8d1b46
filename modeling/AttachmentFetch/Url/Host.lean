import AttachmentFetch.Text.Utf8
import AttachmentFetch.Url.HostName

/-! Hosts of URLs: names, and addresses of both versions in their shortest text. -/
namespace AttachmentFetch.Url

def hexDigit? (c : Char) : Option Nat :=
  if '0' ≤ c ∧ c ≤ '9' then some (c.toNat - 48)
  else if 'a' ≤ c ∧ c ≤ 'f' then some (c.toNat - 87)
  else if 'A' ≤ c ∧ c ≤ 'F' then some (c.toNat - 55)
  else none

def upperHex (value : Nat) : Char := (Nat.digitChar value).toUpper

def escapeByte (byte : UInt8) : List Char :=
  ['%', upperHex (byte.toNat / 16), upperHex (byte.toNat % 16)]

def percentEncode (special : Char → Bool) (text : List Char) : List Char :=
  text.flatMap fun c =>
    if c.toNat < 0x20 || 0x7F ≤ c.toNat || special c then
      (String.utf8EncodeChar c).flatMap escapeByte
    else [c]

def percentDecode : List Char → Bytes
  | '%' :: a :: b :: rest =>
    match hexDigit? a, hexDigit? b with
    | some high, some low => UInt8.ofNat (high * 16 + low) :: percentDecode rest
    | _, _ => 37 :: percentDecode (a :: b :: rest)
  | c :: rest => String.utf8EncodeChar c ++ percentDecode rest
  | [] => []

/-! Addresses of version 4 -/

/-- A number in one of three bases; the mark of a base alone counts as zero. -/
def ipv4Number? (text : List Char) : Option Nat :=
  let read (base : Nat) (digits : List Char) : Option Nat :=
    digits.foldlM (fun value c => do
      let digit ← hexDigit? c
      if digit < base then some (value * base + digit) else none) 0
  match text with
  | [] => none
  | '0' :: 'x' :: digits | '0' :: 'X' :: digits => read 16 digits
  | '0' :: c :: digits => read 8 (c :: digits)
  | digits => read 10 digits

/-- The parts of a name, without the empty one that a dot at the end makes. -/
def labels (host : List Char) : List (List Char) :=
  let parts := host.splitOn '.'
  match parts.getLast? with
  | some [] => if parts.length = 1 then parts else parts.dropLast
  | _ => parts

/-- A name whose last part is a number has to be an address. -/
def endsInNumber (host : List Char) : Bool :=
  match (labels host).getLast? with
  | some last => (!last.isEmpty && last.all Char.isDigit) || (ipv4Number? last).isSome
  | none => false

def ipv4? (host : List Char) : Option Nat := do
  let parts := labels host
  if parts.length > 4 then none
  else
    let numbers ← parts.mapM ipv4Number?
    let last ← numbers.getLast?
    if numbers.dropLast.any (· > 255) then none
    else if 1 <<< (8 * (5 - numbers.length)) ≤ last then none
    else
      let high := numbers.dropLast.foldl (fun value n => value * 256 + n) 0
      some (high <<< (8 * (5 - numbers.length)) + last)

def ipv4Text (address : Nat) : List Char :=
  let byte (i : Nat) := Nat.toDigits 10 ((address >>> (8 * i)) % 256)
  byte 3 ++ '.' :: byte 2 ++ '.' :: byte 1 ++ '.' :: byte 0

/-! Addresses of version 6 -/

def ipv6Piece? (text : List Char) : Option Nat :=
  if text.isEmpty ∨ 4 < text.length then none
  else text.foldlM (fun value c => (hexDigit? c).map (value * 16 + ·)) 0

def decimalByte? (text : List Char) : Option Nat :=
  if text.isEmpty ∨ !text.all Char.isDigit ∨ 3 < text.length then none
  else
    let value := text.foldl (fun value c => value * 10 + (c.toNat - 48)) 0
    if 255 < value ∨ (1 < text.length ∧ text.head? = some '0') then none else some value

def ipv6Pieces? : List (List Char) → Option (List Nat)
  | [] => some []
  | [last] =>
    if last.contains '.' then
      match (last.splitOn '.').mapM decimalByte? with
      | some [a, b, c, d] => some [a * 256 + b, c * 256 + d]
      | _ => none
    else (ipv6Piece? last).map ([·])
  | piece :: rest => do return (← ipv6Piece? piece) :: (← ipv6Pieces? rest)

def ipv6Side? (text : List Char) : Option (List Nat) :=
  if text.isEmpty then some [] else ipv6Pieces? (text.splitOn ':')

def aroundGap : List Char → Option (List Char × List Char)
  | ':' :: ':' :: rest => some ([], rest)
  | c :: rest => (aroundGap rest).map fun (before, after) => (c :: before, after)
  | [] => none

/-- Eight parts, of which a run of zeros may be left out once. -/
def ipv6? (text : List Char) : Option (List Nat) := do
  match aroundGap text with
  | none =>
    let pieces ← ipv6Side? text
    if pieces.length = 8 then some pieces else none
  | some (before, after) =>
    let high ← ipv6Side? before
    let low ← ipv6Side? after
    if before.contains '.' ∨ 8 ≤ high.length + low.length then none
    else some (high ++ List.replicate (8 - high.length - low.length) 0 ++ low)

def longestZeros : Nat → List Nat → Nat × Nat
  | _, [] => (0, 0)
  | start, piece :: rest =>
    let here := ((piece :: rest).takeWhile (· = 0)).length
    let later := longestZeros (start + 1) rest
    if 0 < here ∧ later.2 ≤ here then (start, here) else later

def joinPieces (pieces : List Nat) : List Char :=
  (":".intercalate (pieces.map fun piece => String.ofList (Nat.toDigits 16 piece))).toList

/-- The longest run of two or more zeros is left out. -/
def ipv6Text (pieces : List Nat) : List Char :=
  let (start, length) := longestZeros 0 pieces
  let inside :=
    if 1 < length then
      joinPieces (pieces.take start) ++ ':' :: ':' :: joinPieces (pieces.drop (start + length))
    else joinPieces pieces
  '[' :: inside ++ [']']

/-! Hosts -/

def isForbiddenInName (c : Char) : Bool :=
  c.toNat ≤ 0x20 || c.toNat = 0x7F || "#%/:<>?@[\\]^|".toList.contains c

def isForbiddenInOpaque (c : Char) : Bool :=
  "\x00\t\n\r #/:<>?@[\\]^|".toList.contains c

def host? (text : List Char) : Option (List Char) :=
  match text with
  | '[' :: rest =>
    if rest.getLast? = some ']' then (ipv6? rest.dropLast).map ipv6Text else none
  | _ => do
    let decoded ← Text.Utf8.decode (percentDecode text)
    let name := HostName.toAscii decoded.toList
    if name.isEmpty ∨ name.any isForbiddenInName then none
    else if endsInNumber name then (ipv4? name).map ipv4Text
    else some name

def opaqueHost? (text : List Char) : Option (List Char) :=
  match text with
  | '[' :: rest =>
    if rest.getLast? = some ']' then (ipv6? rest.dropLast).map ipv6Text else none
  | _ => if text.any isForbiddenInOpaque then none else some (percentEncode (fun _ => false) text)

end AttachmentFetch.Url
