import AttachmentFetch.Text.Quoted
import AttachmentFetch.Text.Utf8

/-! Hexadecimal. Two digits a byte; either letter case is read, lower case is written. The
digits may stand in white space, which is taken away before they are read. -/
namespace AttachmentFetch.Text

def isBlank (c : Char) : Bool :=
  let code := c.toNat
  (9 ≤ code && code ≤ 13) || code = 32 || code = 0x85 || code = 0xA0 || code = 0x1680 ||
    (0x2000 ≤ code && code ≤ 0x200A) || code = 0x2028 || code = 0x2029 || code = 0x202F ||
    code = 0x205F || code = 0x3000

def trim (text : String) : String :=
  String.ofList (((text.toList.dropWhile isBlank).reverse.dropWhile isBlank).reverse)

namespace Hex

/-- Why a text is not hexadecimal. Characters are met byte by byte, so a
character beyond ASCII is reported by the first byte of its encoding. -/
inductive Fault where
  | oddLength
  | badDigit (byte : UInt8) (position : Nat)
  deriving DecidableEq, Repr

def Fault.message : Fault → String
  | .oddLength => "Odd number of digits"
  | .badDigit byte position =>
    s!"Invalid character {quotedChar (Char.ofNat byte.toNat)} at position {position}"

def digit (value : Nat) : Char :=
  if value < 10 then Char.ofNat (48 + value) else Char.ofNat (87 + value)

def encodeByte (byte : UInt8) : List Char :=
  [digit (byte.toNat / 16), digit (byte.toNat % 16)]

def encode (bytes : Bytes) : String :=
  String.ofList (bytes.flatMap encodeByte)

def digit? (byte : UInt8) : Option Nat :=
  let code := byte.toNat
  if 48 ≤ code ∧ code < 58 then some (code - 48)
  else if 65 ≤ code ∧ code < 71 then some (code - 55)
  else if 97 ≤ code ∧ code < 103 then some (code - 87)
  else none

def value (position : Nat) (byte : UInt8) : Except Fault Nat :=
  match digit? byte with
  | some value => .ok value
  | none => .error (.badDigit byte position)

def decodePairs (position : Nat) : Bytes → Except Fault Bytes
  | high :: low :: rest => do
    let h ← value position high
    let l ← value (position + 1) low
    return UInt8.ofNat (h * 16 + l) :: (← decodePairs (position + 2) rest)
  | _ => .ok []

/-- An odd length is reported before any digit is looked at. -/
def decode (text : Bytes) : Except Fault Bytes :=
  if text.length % 2 = 1 then .error .oddLength else decodePairs 0 text

end Hex

end AttachmentFetch.Text
