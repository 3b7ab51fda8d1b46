import AttachmentFetch.Text.Utf8

/-! What is wrong with a JSON text, and where. -/
namespace AttachmentFetch.Json

inductive Cause where
  | unfinishedValue
  | unfinishedString
  | unfinishedList
  | unfinishedObject
  | expectedValue
  | expectedIdent
  | expectedColon
  | expectedListCommaOrEnd
  | expectedObjectCommaOrEnd
  | trailingComma
  | trailingCharacters
  | keyNotString
  | badNumber
  | numberOutOfRange
  | badEscape
  | loneSurrogate
  | unfinishedSurrogate
  | controlCharacter
  | badCodePoint
  | tooDeep
  /-- The text is well formed but does not say what was asked for. -/
  | mismatch (text : String)
  deriving DecidableEq, Repr

def Cause.message : Cause → String
  | unfinishedValue => "EOF while parsing a value"
  | unfinishedString => "EOF while parsing a string"
  | unfinishedList => "EOF while parsing a list"
  | unfinishedObject => "EOF while parsing an object"
  | expectedValue => "expected value"
  | expectedIdent => "expected ident"
  | expectedColon => "expected \x60:\x60"
  | expectedListCommaOrEnd => "expected \x60,\x60 or \x60]\x60"
  | expectedObjectCommaOrEnd => "expected \x60,\x60 or \x60\x7d\x60"
  | trailingComma => "trailing comma"
  | trailingCharacters => "trailing characters"
  | keyNotString => "key must be a string"
  | badNumber => "invalid number"
  | numberOutOfRange => "number out of range"
  | badEscape => "invalid escape"
  | loneSurrogate => "lone leading surrogate in hex escape"
  | unfinishedSurrogate => "unexpected end of hex escape"
  | controlCharacter => "control character (\\u0000-\\u001F) found while parsing a string"
  | badCodePoint => "invalid unicode code point"
  | tooDeep => "recursion limit exceeded"
  | mismatch text => text

/-- A cause and the part of the text that lies behind the place it is reported at. -/
structure Fault where
  cause : Cause
  rest : Bytes
  deriving DecidableEq, Repr

/-- Line and column, in bytes, after the first `length` bytes of a text. -/
def position (text : Bytes) (length : Nat) : Nat × Nat :=
  let read := text.take length
  let column := (read.reverse.takeWhile (· ≠ 10)).length
  (1 + read.count 10, column)

def Fault.message (text : Bytes) (fault : Fault) : String :=
  let (line, column) := position text (text.length - fault.rest.length)
  s!"{fault.cause.message} at line {line} column {column}"

def fail (cause : Cause) (rest : Bytes) : Except Fault α :=
  .error ⟨cause, rest⟩

def failAtNext (cause : Cause) (rest : Bytes) : Except Fault α :=
  .error ⟨cause, rest.tail⟩

end AttachmentFetch.Json
