import AttachmentFetch.Json.Fault
import AttachmentFetch.Json.Value
import AttachmentFetch.Text.Utf8

/-! The atoms of JSON: white space, names, numbers and strings. Every reader
takes the unread text and gives back what it leaves. -/
namespace AttachmentFetch.Json

abbrev Read (α : Type) := Except Fault (α × Bytes)

@[match_pattern] abbrev quote : UInt8 := 34
@[match_pattern] abbrev comma : UInt8 := 44
@[match_pattern] abbrev minus : UInt8 := 45
@[match_pattern] abbrev point : UInt8 := 46
@[match_pattern] abbrev colon : UInt8 := 58
@[match_pattern] abbrev listOpen : UInt8 := 91
@[match_pattern] abbrev backslash : UInt8 := 92
@[match_pattern] abbrev listClose : UInt8 := 93
@[match_pattern] abbrev objectOpen : UInt8 := 123
@[match_pattern] abbrev objectClose : UInt8 := 125
@[match_pattern] abbrev letterF : UInt8 := 102
@[match_pattern] abbrev letterN : UInt8 := 110
@[match_pattern] abbrev letterT : UInt8 := 116
@[match_pattern] abbrev letterU : UInt8 := 117

def isBlank (byte : UInt8) : Bool :=
  byte = 32 || byte = 10 || byte = 9 || byte = 13

def skipBlanks (text : Bytes) : Bytes :=
  text.dropWhile isBlank

def name : Bytes → Bytes → Except Fault Bytes
  | [], text => .ok text
  | _ :: _, [] => fail .unfinishedValue []
  | letter :: letters, byte :: rest =>
    if byte = letter then name letters rest else fail .expectedIdent rest

/-! Numbers -/

def digit? (byte : UInt8) : Option Nat :=
  if 48 ≤ byte ∧ byte < 58 then some (byte.toNat - 48) else none

def startsWithDigit : Bytes → Bool
  | byte :: _ => (digit? byte).isSome
  | [] => false

def startsExponent : Bytes → Bool
  | byte :: _ => byte = 101 || byte = 69
  | [] => false

/-- Appends digits to a significand while it stays within 64 bits, and counts them. -/
def gather (significand count : Nat) : Bytes → Nat × Nat × Bytes
  | byte :: rest =>
    match digit? byte with
    | some digit =>
      if significand * 10 + digit < 18446744073709551616 then
        gather (significand * 10 + digit) (count + 1) rest
      else (significand, count, byte :: rest)
    | none => (significand, count, byte :: rest)
  | [] => (significand, count, [])

def passDigits (count : Nat) : Bytes → Nat × Bytes
  | byte :: rest =>
    if (digit? byte).isSome then passDigits (count + 1) rest else (count, byte :: rest)
  | [] => (count, [])

def powerOfTen (power : Nat) : Option Binary64 := Binary64.ofNat? (Nat.pow 10 power)

/-- Divides by a power of ten, in steps that a float can hold. -/
def scaleDown (x : Binary64) (power : Nat) : Option Binary64 :=
  if power ≤ 308 then do x.div? (← powerOfTen power)
  else if x.isZero then some x
  else do scaleDown (← x.div? (← powerOfTen 308)) (power - 308)
termination_by power

/-- A float from significand and power of ten: each of them is rounded, and so
is their product or quotient. -/
def scaled? (negative : Bool) (significand : Nat) (power : Int) : Option Binary64 := do
  let x ← Binary64.ofNat? significand
  let scaled ←
    if power < 0 then scaleDown x power.natAbs
    else if power ≤ 308 then x.mul? (← powerOfTen power.toNat)
    else if x.isZero then some x
    else none
  return { scaled with negative := negative }

def finishFloat (negative : Bool) (significand : Nat) (power : Int) (rest : Bytes) :
    Read Number :=
  match scaled? negative significand power with
  | some value => .ok (.float value, rest)
  | none => fail .numberOutOfRange rest

def mostExponent : Nat := 2147483647

/-- The digits of an exponent, or none once they lead past every bound; then
what is left begins after the digit that did. -/
def exponentDigits (value : Nat) : Bytes → Option Nat × Bytes
  | byte :: rest =>
    match digit? byte with
    | some digit =>
      if value * 10 + digit ≤ mostExponent then exponentDigits (value * 10 + digit) rest
      else (none, rest)
    | none => (some value, byte :: rest)
  | [] => (some value, [])

def exponentSign : Bytes → Bool × Bytes
  | 43 :: rest => (false, rest)
  | 45 :: rest => (true, rest)
  | rest => (false, rest)

def exponent (negative : Bool) (significand : Nat) (power : Int) (text : Bytes) : Read Number :=
  let (down, text) := exponentSign text
  match text with
  | [] => fail .unfinishedValue []
  | byte :: rest =>
    match digit? byte with
    | none => fail .badNumber rest
    | some first =>
      match exponentDigits first rest with
      | (some value, rest) =>
        finishFloat negative significand (if down then power - value else power + value) rest
      | (none, rest) =>
        if significand ≠ 0 ∧ !down then fail .numberOutOfRange rest
        else finishFloat negative 0 0 (passDigits 0 rest).2

def afterFraction (negative : Bool) (significand : Nat) (power : Int) (text : Bytes) :
    Read Number :=
  if startsExponent text then exponent negative significand power text.tail
  else finishFloat negative significand power text

/-- Reads on after the point. Digits beyond the 64 bits of the significand are dropped. -/
def fraction (negative : Bool) (significand : Nat) (power : Int) (text : Bytes) :
    Read Number :=
  let (significand, count, rest) := gather significand 0 text
  if startsWithDigit rest then
    afterFraction negative significand (power - count) (passDigits 0 rest).2
  else if count = 0 then
    failAtNext (if rest.isEmpty then .unfinishedValue else .badNumber) rest
  else afterFraction negative significand (power - count) rest

/-- Reads on after the digits before the point. An integer that fits stays one;
minus zero is a float, as no integer has its sign. -/
def afterWhole (negative : Bool) (significand : Nat) (fits : significand < 18446744073709551616)
    (text : Bytes) : Read Number :=
  match text with
  | point :: rest => fraction negative significand 0 rest
  | _ =>
    if startsExponent text then exponent negative significand 0 text.tail
    else if !negative then .ok (.integer significand (by omega), text)
    else if h : 0 < significand ∧ significand ≤ 9223372036854775808 then
      .ok (.integer (-(significand : Int)) (by omega), text)
    else finishFloat true significand 0 text

theorem gather_lt {text : Bytes} {significand count : Nat}
    (fits : significand < 18446744073709551616) :
    (gather significand count text).1 < 18446744073709551616 := by
  induction text generalizing significand count with
  | nil => exact fits
  | cons byte rest ih =>
    rw [gather]
    split
    · split
      · exact ih (by assumption)
      · exact fits
    · exact fits

def number (negative : Bool) : Bytes → Read Number
  | [] => fail .unfinishedValue []
  | 48 :: rest =>
    if startsWithDigit rest then failAtNext .badNumber rest
    else afterWhole negative 0 (by decide) rest
  | byte :: rest =>
    match digit? byte with
    | none => fail .badNumber rest
    | some _ =>
      let whole := gather 0 0 (byte :: rest)
      if startsWithDigit whole.2.2 then
        let (dropped, rest) := passDigits 0 whole.2.2
        match rest with
        | point :: rest => fraction negative whole.1 dropped rest
        | rest => afterFraction negative whole.1 dropped rest
      else afterWhole negative whole.1 (gather_lt (by decide)) whole.2.2

/-! Strings -/

def hexDigit? (byte : UInt8) : Option Nat :=
  let code := byte.toNat
  if 48 ≤ code ∧ code < 58 then some (code - 48)
  else if 65 ≤ code ∧ code < 71 then some (code - 55)
  else if 97 ≤ code ∧ code < 103 then some (code - 87)
  else none

def codeUnit : Bytes → Read Nat
  | a :: b :: c :: d :: rest =>
    match hexDigit? a, hexDigit? b, hexDigit? c, hexDigit? d with
    | some w, some x, some y, some z => .ok (((w * 16 + x) * 16 + y) * 16 + z, rest)
    | _, _, _, _ => fail .badEscape rest
  | _ => fail .unfinishedString []

def lowSurrogate (high : Nat) : Bytes → Read Char
  | [] => fail .unfinishedString []
  | backslash :: [] => fail .unfinishedString []
  | backslash :: letterU :: rest =>
    match codeUnit rest with
    | .error fault => .error fault
    | .ok (low, rest) =>
      if 0xDC00 ≤ low ∧ low < 0xE000 then
        .ok (Char.ofNat ((high - 0xD800) * 1024 + (low - 0xDC00) + 0x10000), rest)
      else fail .loneSurrogate rest
  | backslash :: _ :: rest => fail .unfinishedSurrogate rest
  | _ :: rest => fail .unfinishedSurrogate rest

def unicodeEscape (text : Bytes) : Read Char :=
  match codeUnit text with
  | .error fault => .error fault
  | .ok (unit, rest) =>
    if 0xDC00 ≤ unit ∧ unit < 0xE000 then fail .loneSurrogate rest
    else if 0xD800 ≤ unit ∧ unit < 0xDC00 then lowSurrogate unit rest
    else .ok (Char.ofNat unit, rest)

def plainEscape? (byte : UInt8) : Option Char :=
  match byte with
  | 34 => some '"'
  | 92 => some '\\'
  | 47 => some '/'
  | 98 => some '\x08'
  | 102 => some '\x0c'
  | 110 => some '\n'
  | 114 => some '\r'
  | 116 => some '\t'
  | _ => none

/-- The rest of a string after its opening quote, as bytes of UTF-8. Each step
uses up at least one byte of `clock`, which starts as the text itself. -/
def stringBytes : Bytes → Bytes → Read Bytes
  | _, [] => fail .unfinishedString []
  | [], text => fail .unfinishedString text
  | _ :: clock, byte :: rest =>
    match byte with
    | quote => .ok ([], rest)
    | backslash =>
      match rest with
      | [] => fail .unfinishedString []
      | letter :: rest =>
        let escaped :=
          if letter = letterU then unicodeEscape rest
          else match plainEscape? letter with
            | some c => .ok (c, rest)
            | none => fail .badEscape rest
        match escaped with
        | .error fault => .error fault
        | .ok (c, rest) =>
          match stringBytes clock rest with
          | .error fault => .error fault
          | .ok (bytes, rest) => .ok (String.utf8EncodeChar c ++ bytes, rest)
    | byte =>
      if byte < 32 then fail .controlCharacter rest
      else match stringBytes clock rest with
        | .error fault => .error fault
        | .ok (bytes, rest) => .ok (byte :: bytes, rest)

def string (text : Bytes) : Read String :=
  match stringBytes text text with
  | .error fault => .error fault
  | .ok (bytes, rest) =>
    match Text.Utf8.decode bytes with
    | some value => .ok (value, rest)
    | none => fail .badCodePoint rest

end AttachmentFetch.Json
