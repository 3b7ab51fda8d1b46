/-! Decimal integers of a fixed range. -/
namespace AttachmentFetch.Text

inductive IntegerFault where
  | empty
  | badDigit
  | tooLarge
  | tooSmall
  deriving DecidableEq, Repr

def IntegerFault.parseMessage : IntegerFault → String
  | .empty => "cannot parse integer from empty string"
  | .badDigit => "invalid digit found in string"
  | .tooLarge => "number too large to fit in target type"
  | .tooSmall => "number too small to fit in target type"

def decimalDigit? (c : Char) : Option Nat :=
  if '0' ≤ c ∧ c ≤ '9' then some (c.toNat - 48) else none

/-- Appends digits to `value`, up to `most`. The first digit that leads past the
bound ends the reading, whatever follows it. -/
def readDigits (most : Nat) (overflow : IntegerFault) (value : Nat) :
    List Char → Except IntegerFault Nat
  | [] => .ok value
  | c :: rest =>
    match decimalDigit? c with
    | none => .error .badDigit
    | some digit =>
      if value * 10 + digit ≤ most then readDigits most overflow (value * 10 + digit) rest
      else .error overflow

/-- Reads a sign and digits. A minus sign belongs to ranges with negative numbers only. -/
def readInteger (negatives : Option Nat) (most : Nat) (text : String) :
    Except IntegerFault Int :=
  let unsigned (digits : List Char) := (readDigits most .tooLarge 0 digits).map Int.ofNat
  match text.toList, negatives with
  | [], _ => .error .empty
  | ['+'], _ | ['-'], _ => .error .badDigit
  | '+' :: digits, _ => unsigned digits
  | '-' :: digits, some least => (readDigits least .tooSmall 0 digits).map fun n => -(n : Int)
  | digits, _ => unsigned digits

def readInt64 (text : String) : Except IntegerFault Int64 :=
  (readInteger (some 9223372036854775808) 9223372036854775807 text).map Int64.ofInt

def readUInt64 (text : String) : Except IntegerFault UInt64 :=
  (readInteger none (UInt64.size - 1) text).map fun n => UInt64.ofNat n.toNat

end AttachmentFetch.Text
