import AttachmentFetch.Json.Value
import AttachmentFetch.Number.Shortest
import AttachmentFetch.Text.Quoted

/-! The compact text of a JSON value: no white space, and an escape only where
the grammar asks for one. -/
namespace AttachmentFetch.Json

/-- Where positional notation ends, and how numbers beyond are written. -/
structure FloatNotation where
  mostWhole : Int
  mostZeros : Int
  largeMark : String

/-- A float has sixteen digits before its point at most, four zeros after it at
most, and a point in any case when it is written positionally. -/
def floatNotation : FloatNotation := ⟨16, 4, "e+"⟩

def zeros (count : Int) : List Char := List.replicate count.toNat '0'

def decimalText (style : FloatNotation) (digits : List Char) (power : Int) : List Char :=
  let whole := digits.length + power
  if 0 ≤ power ∧ whole ≤ style.mostWhole then digits ++ zeros power ++ ['.', '0']
  else if 0 < whole ∧ whole ≤ style.mostWhole then
    digits.take whole.toNat ++ '.' :: digits.drop whole.toNat
  else if -style.mostZeros ≤ whole ∧ whole ≤ 0 then '0' :: '.' :: zeros (-whole) ++ digits
  else
    let significand :=
      match digits with
      | first :: second :: rest => first :: '.' :: second :: rest
      | short => short
    let exponent := whole - 1
    let mark := if 0 ≤ exponent then style.largeMark else "e-"
    significand ++ mark.toList ++ Nat.toDigits 10 exponent.natAbs

def floatText (x : Binary64) : String :=
  let sign := if x.negative then ['-'] else []
  if x.isZero then String.ofList (sign ++ ['0', '.', '0'])
  else
    let (digits, power) := Shortest.digits x
    String.ofList (sign ++ decimalText floatNotation (Nat.toDigits 10 digits) power)

def Number.text : Number → String
  | .integer value _ => toString value
  | .float value => floatText value

def escape (c : Char) : List Char :=
  match c with
  | '"' => ['\\', '"']
  | '\\' => ['\\', '\\']
  | '\x08' => ['\\', 'b']
  | '\x0c' => ['\\', 'f']
  | '\n' => ['\\', 'n']
  | '\r' => ['\\', 'r']
  | '\t' => ['\\', 't']
  | c =>
    if c.toNat < 32 then
      ['\\', 'u', '0', '0', Nat.digitChar (c.toNat / 16), Nat.digitChar (c.toNat % 16)]
    else [c]

def stringText (text : String) : List Char :=
  '"' :: text.toList.flatMap escape ++ ['"']

mutual

def Value.chars : Value → List Char
  | .null => "null".toList
  | .bool true => "true".toList
  | .bool false => "false".toList
  | .number value => value.text.toList
  | .string text => stringText text
  | .array items => '[' :: itemChars items ++ [']']
  | .object entries => '\x7b' :: entriesChars entries ++ ['\x7d']
termination_by structural value => value

def itemChars : List Value → List Char
  | [] => []
  | item :: rest => item.chars ++ moreItemChars rest
termination_by structural items => items

def moreItemChars : List Value → List Char
  | [] => []
  | item :: rest => ',' :: item.chars ++ moreItemChars rest
termination_by structural items => items

def entryChars : String × Value → List Char
  | (name, value) => stringText name ++ ':' :: value.chars
termination_by structural entry => entry

def entriesChars : List (String × Value) → List Char
  | [] => []
  | entry :: rest => entryChars entry ++ moreEntriesChars rest
termination_by structural entries => entries

def moreEntriesChars : List (String × Value) → List Char
  | [] => []
  | entry :: rest => ',' :: entryChars entry ++ moreEntriesChars rest
termination_by structural entries => entries

end

def Value.text (value : Value) : String := String.ofList value.chars

end AttachmentFetch.Json
