import AttachmentFetch.Number.Binary64
import AttachmentFetch.Number.Signed
import AttachmentFetch.Text.Utf8

/-! The atoms of TOML: blanks, comments, strings, keys, numbers and dates. A
reader takes the unread text and gives back what it leaves, or nothing when the
text is not as it should be. -/
namespace AttachmentFetch.Toml

abbrev Rest (α : Type) := α × List Char

/-! Lines -/

def isBlank (c : Char) : Bool := c = ' ' || c = '\t'

def skipBlanks (text : List Char) : List Char := text.dropWhile isBlank

def isCommentChar (c : Char) : Bool :=
  c = '\t' || (' ' ≤ c && c ≤ '~') || 0x80 ≤ c.toNat

def newline : List Char → Option (List Char)
  | '\n' :: rest => some rest
  | '\r' :: '\n' :: rest => some rest
  | _ => none

def skipComment : List Char → List Char
  | '#' :: rest => rest.dropWhile isCommentChar
  | text => text

def endLine (text : List Char) : Option (List Char) :=
  match skipComment (skipBlanks text) with
  | [] => some []
  | rest => newline rest

def skipLines : List Char → List Char → List Char
  | [], text => text
  | _ :: clock, text =>
    match text with
    | '#' :: _ =>
      match newline (skipComment text) with
      | some rest => skipLines clock rest
      | none => text
    | c :: rest =>
      if isBlank c then skipLines clock rest
      else match newline text with
        | some rest => skipLines clock rest
        | none => text
    | [] => []

/-! Strings -/

def hexDigit? (c : Char) : Option Nat :=
  if '0' ≤ c ∧ c ≤ '9' then some (c.toNat - 48)
  else if 'a' ≤ c ∧ c ≤ 'f' then some (c.toNat - 87)
  else if 'A' ≤ c ∧ c ≤ 'F' then some (c.toNat - 55)
  else none

def scalarEscape (digits : Nat) (text : List Char) : Option (Rest Char) := do
  if text.length < digits then none
  else
    let values ← (text.take digits).mapM hexDigit?
    let code := values.foldl (fun value digit => value * 16 + digit) 0
    if h : code.isValidChar then some (Char.ofNatAux code h, text.drop digits) else none

def escape : List Char → Option (Rest Char)
  | 'b' :: rest => some ('\x08', rest)
  | 't' :: rest => some ('\t', rest)
  | 'n' :: rest => some ('\n', rest)
  | 'f' :: rest => some ('\x0c', rest)
  | 'r' :: rest => some ('\r', rest)
  | '"' :: rest => some ('"', rest)
  | '\\' :: rest => some ('\\', rest)
  | 'u' :: rest => scalarEscape 4 rest
  | 'U' :: rest => scalarEscape 8 rest
  | _ => none

def isStringChar (c : Char) : Bool :=
  c = '\t' || (' ' ≤ c && c ≤ '~') || 0x80 ≤ c.toNat

def basicString : List Char → List Char → Option (Rest (List Char))
  | [], _ => none
  | _ :: _, [] => none
  | _ :: clock, c :: rest =>
    if c = '"' then some ([], rest)
    else if c = '\\' then do
      let (escaped, rest) ← escape rest
      let (chars, rest) ← basicString clock rest
      return (escaped :: chars, rest)
    else if isStringChar c then do
      let (chars, rest) ← basicString clock rest
      return (c :: chars, rest)
    else none

def literalString : List Char → Option (Rest (List Char))
  | [] => none
  | c :: rest =>
    if c = '\'' then some ([], rest)
    else if isStringChar c then do
      let (chars, rest) ← literalString rest
      return (c :: chars, rest)
    else none

/-- What a backslash at the end of a line leads over: all blanks and ends of
lines up to the next other character. -/
def continued (text : List Char) : Option (List Char) := do
  let rest ← newline (skipBlanks text)
  return rest.dropWhile fun c => isBlank c || c = '\n' || c = '\r'

def quotes (quote : Char) (text : List Char) : Nat := (text.takeWhile (· = quote)).length

/-- The rest of a string of many lines, after its opening quotes and the end of
line that may follow them. Three quotes end it, and up to two right before them
belong to it. Only the basic form has escapes. -/
def longString (quote : Char) (escapes : Bool) : List Char → List Char → Option (Rest (List Char))
  | [], _ => none
  | _ :: _, [] => none
  | _ :: clock, c :: rest =>
    let further (char : Char) (rest : List Char) : Option (Rest (List Char)) := do
      let (chars, rest) ← longString quote escapes clock rest
      return (char :: chars, rest)
    if c = quote then
      let count := quotes quote (c :: rest)
      if count < 3 then further c rest
      else if count ≤ 5 then
        some (List.replicate (count - 3) quote, (c :: rest).drop count)
      else none
    else if c = '\\' && escapes then
      match continued rest with
      | some rest => longString quote escapes clock rest
      | none => do
        let (escaped, rest) ← escape rest
        further escaped rest
    else if isStringChar c then further c rest
    else do further '\n' (← newline (c :: rest))

def skipNewline (text : List Char) : List Char := (newline text).getD text

def string : Bool → List Char → Option (Rest String)
  | long, text =>
    let finish (read : Option (Rest (List Char))) : Option (Rest String) :=
      read.map fun (chars, rest) => (String.ofList chars, rest)
    match text, long with
    | '"' :: '"' :: '"' :: rest, true =>
      finish (longString '"' true (skipNewline rest) (skipNewline rest))
    | '\'' :: '\'' :: '\'' :: rest, true =>
      finish (longString '\'' false (skipNewline rest) (skipNewline rest))
    | '"' :: rest, _ => finish (basicString rest rest)
    | '\'' :: rest, _ => finish (literalString rest)
    | _, _ => none

/-! Keys -/

def isBareKeyChar (c : Char) : Bool := c.isAlphanum || c = '_' || c = '-'

def keyPart (text : List Char) : Option (Rest String) :=
  match text with
  | '"' :: _ | '\'' :: _ => string false text
  | _ =>
    match text.takeWhile isBareKeyChar with
    | [] => none
    | chars => some (String.ofList chars, text.dropWhile isBareKeyChar)

def keyParts : List Char → List Char → Option (Rest (List String))
  | [], _ => none
  | _ :: clock, text => do
    let (part, rest) ← keyPart (skipBlanks text)
    match skipBlanks rest with
    | '.' :: rest =>
      let (parts, rest) ← keyParts clock rest
      return (part :: parts, rest)
    | rest => return ([part], rest)

def depthLimit : Nat := 80

def key (text : List Char) : Option (Rest (List String)) := do
  let (parts, rest) ← keyParts ('.' :: text) text
  if parts.length < depthLimit then some (parts, rest) else none

/-! Numbers -/

def digits (isDigit : Char → Bool) : List Char → Option (Rest (List Char))
  | [] => none
  | [c] => if isDigit c then some ([c], []) else none
  | c :: d :: rest =>
    if !isDigit c then none
    else if d = '_' then do
      let (more, rest) ← digits isDigit rest
      return (c :: more, rest)
    else if isDigit d then do
      let (more, rest) ← digits isDigit (d :: rest)
      return (c :: more, rest)
    else some ([c], d :: rest)

def sign : List Char → Bool × List Char
  | '+' :: rest => (false, rest)
  | '-' :: rest => (true, rest)
  | text => (false, text)

def whole (text : List Char) : Option (Rest (List Char)) :=
  match text with
  | '0' :: rest => some (['0'], rest)
  | _ => digits Char.isDigit text

def numberOf (base : Nat) (chars : List Char) : Nat :=
  chars.foldl (fun value c => value * base + (hexDigit? c).getD 0) 0

def inBase (base : Nat) (isDigit : Char → Bool) (text : List Char) : Option (Rest Int64) := do
  let (chars, rest) ← digits isDigit text
  return (← int64? (numberOf base chars), rest)

def integer (text : List Char) : Option (Rest Int64) :=
  match text with
  | '0' :: 'x' :: rest => inBase 16 (fun c => (hexDigit? c).isSome) rest
  | '0' :: 'o' :: rest => inBase 8 (fun c => '0' ≤ c && c ≤ '7') rest
  | '0' :: 'b' :: rest => inBase 2 (fun c => c = '0' || c = '1') rest
  | _ => do
    let (negative, rest) := sign text
    let (chars, rest) ← whole rest
    let value : Int := numberOf 10 chars
    return (← int64? (if negative then -value else value), rest)

def fractionPart : List Char → Option (Rest (List Char))
  | '.' :: rest => digits Char.isDigit rest
  | text => some ([], text)

def exponentPart : List Char → Option (Rest Int)
  | 'e' :: rest | 'E' :: rest => do
    let (negative, rest) := sign rest
    let (chars, rest) ← digits Char.isDigit rest
    let value : Int := numberOf 10 chars
    return (if negative then -value else value, rest)
  | text => some (0, text)

/-- Exponents beyond this bound, shifted by the number of digits, are out of
range or vanish whatever the digits are. -/
def exponentBound : Nat := 400

def isFinite (digits : List Char) (power : Int) : Bool :=
  let value := numberOf 10 digits
  let reach := digits.length + exponentBound
  if value = 0 || power < -reach then true
  else if (reach : Int) < power then false
  else (Binary64.round false (value * Nat.pow 10 power.toNat) (Nat.pow 10 (-power).toNat)).isSome

/-- A float: digits with a fraction or an exponent. One that is too large is
refused unless it is negative. -/
def float (text : List Char) : Option (Rest String) := do
  let (negative, rest) := sign text
  let literal (rest : List Char) := String.ofList (text.take (text.length - rest.length))
  match rest with
  | 'i' :: 'n' :: 'f' :: rest | 'n' :: 'a' :: 'n' :: rest => some (literal rest, rest)
  | _ =>
    let (chars, afterWhole) ← whole rest
    let (fraction, afterFraction) ← fractionPart afterWhole
    let (exponent, rest) ← exponentPart afterFraction
    if rest.length = afterWhole.length then none
    else if negative || isFinite (chars ++ fraction) (exponent - fraction.length) then
      some (literal rest, rest)
    else none

/-! Dates and times -/

def field (count least most : Nat) (text : List Char) : Option (Rest Nat) :=
  let chars := text.take count
  let value := numberOf 10 chars
  if chars.length = count ∧ chars.all Char.isDigit ∧ least ≤ value ∧ value ≤ most then
    some (value, text.drop count)
  else none

def expect (c : Char) : List Char → Option (List Char)
  | d :: rest => if d = c then some rest else none
  | [] => none

def isLeapYear (year : Nat) : Bool :=
  year % 4 = 0 && (year % 100 ≠ 0 || year % 400 = 0)

def daysIn (year month : Nat) : Nat :=
  if month = 2 then if isLeapYear year then 29 else 28
  else if month = 4 || month = 6 || month = 9 || month = 11 then 30
  else 31

def date (text : List Char) : Option (List Char) := do
  let (year, rest) ← field 4 0 9999 text
  let (month, rest) ← field 2 1 12 (← expect '-' rest)
  let (_, rest) ← field 2 1 (daysIn year month) (← expect '-' rest)
  return rest

def time (text : List Char) : Option (List Char) := do
  let (_, rest) ← field 2 0 23 text
  let (_, rest) ← field 2 0 59 (← expect ':' rest)
  let (_, rest) ← field 2 0 60 (← expect ':' rest)
  match rest with
  | '.' :: d :: more => if d.isDigit then some (more.dropWhile Char.isDigit) else none
  | '.' :: [] => none
  | rest => some rest

def offset : List Char → Option (List Char)
  | 'Z' :: rest | 'z' :: rest => some rest
  | '+' :: rest | '-' :: rest => do
    let (_, rest) ← field 2 0 23 rest
    let (_, rest) ← field 2 0 59 (← expect ':' rest)
    return rest
  | text => some text

def datetime (text : List Char) : Option (Rest String) :=
  let literal (rest : List Char) : String × List Char :=
    (String.ofList (text.take (text.length - rest.length)), rest)
  match date text with
  | none => (time text).map literal
  | some rest =>
    let withTime : Option (List Char) :=
      match rest with
      | 'T' :: more | 't' :: more | ' ' :: more => do offset (← time more)
      | _ => none
    some (literal (withTime.getD rest))

end AttachmentFetch.Toml
