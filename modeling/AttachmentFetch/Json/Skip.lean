import AttachmentFetch.Json.Scan

/-! Passing by a value that nobody asked for. It has to follow the grammar, but
may nest to any depth, hold numbers of any size and escapes of any code unit. -/
namespace AttachmentFetch.Json

inductive Frame where
  | list
  | object
  deriving DecidableEq, Repr

def Frame.closer : Frame → UInt8
  | list => listClose
  | object => objectClose

def Frame.expected : Frame → Cause
  | list => .expectedListCommaOrEnd
  | object => .expectedObjectCommaOrEnd

def Frame.unfinished : Frame → Cause
  | list => .unfinishedList
  | object => .unfinishedObject

def skipDigits (text : Bytes) : Bytes := (passDigits 0 text).2

def skipExponent (text : Bytes) : Except Fault Bytes :=
  match (exponentSign text).2 with
  | [] => fail .badNumber []
  | byte :: rest =>
    if (digit? byte).isSome then .ok (skipDigits rest) else fail .badNumber rest

def skipFraction (text : Bytes) : Except Fault Bytes :=
  match text with
  | point :: rest =>
    if startsWithDigit rest then
      let rest := skipDigits rest
      if startsExponent rest then skipExponent rest.tail else .ok rest
    else failAtNext .badNumber rest
  | rest => if startsExponent rest then skipExponent rest.tail else .ok rest

def skipNumber : Bytes → Except Fault Bytes
  | [] => fail .badNumber []
  | 48 :: rest => if startsWithDigit rest then failAtNext .badNumber rest else skipFraction rest
  | byte :: rest =>
    if (digit? byte).isSome then skipFraction (skipDigits rest) else fail .badNumber rest

def skipString : Bytes → Bytes → Except Fault Bytes
  | _, [] => fail .unfinishedString []
  | [], text => fail .unfinishedString text
  | _ :: clock, byte :: rest =>
    match byte with
    | quote => .ok rest
    | backslash =>
      match rest with
      | [] => fail .unfinishedString []
      | letter :: rest =>
        if letter = letterU then
          match codeUnit rest with
          | .error ⟨cause, rest⟩ => fail cause rest
          | .ok (_, rest) => skipString clock rest
        else if (plainEscape? letter).isSome then skipString clock rest
        else fail .badEscape rest
    | byte => if byte < 32 then fail .controlCharacter (byte :: rest) else skipString clock rest

def skipName (text : Bytes) : Except Fault Bytes :=
  match skipBlanks text with
  | [] => fail .unfinishedObject []
  | quote :: rest =>
    match skipString rest rest with
    | .error fault => .error fault
    | .ok rest =>
      match skipBlanks rest with
      | [] => fail .unfinishedObject []
      | colon :: rest => .ok rest
      | rest => failAtNext .expectedColon rest
  | rest => failAtNext .keyNotString rest

def enterFrame (frame : Frame) (frames : List Frame) (text : Bytes) :
    Except Fault (List Frame × Bytes) :=
  match frame with
  | .list => .ok (frame :: frames, text)
  | .object => (skipName text).map (frame :: frames, ·)

/-- Closes frames that end here. `afterValue` tells whether a value has just
ended, as against an opening bracket. No frames are left when all is over. -/
def closeFrames : List Frame → Bool → Bytes → Except Fault (List Frame × Bytes)
  | [], _, text => .ok ([], text)
  | frame :: frames, afterValue, text =>
    match skipBlanks text with
    | [] => fail frame.unfinished []
    | byte :: rest =>
      if byte = frame.closer then closeFrames frames true rest
      else if !afterValue then enterFrame frame frames (byte :: rest)
      else if byte = comma then enterFrame frame frames rest
      else failAtNext frame.expected (byte :: rest)

def skipStart (text : Bytes) : Except Fault (Option Frame × Bytes) :=
  let plain (result : Except Fault Bytes) := result.map fun rest => ((none : Option Frame), rest)
  match skipBlanks text with
  | [] => fail .unfinishedValue []
  | listOpen :: rest => .ok (some .list, rest)
  | objectOpen :: rest => .ok (some .object, rest)
  | letterN :: rest => plain (name (Text.Utf8.encode "ull") rest)
  | letterT :: rest => plain (name (Text.Utf8.encode "rue") rest)
  | letterF :: rest => plain (name (Text.Utf8.encode "alse") rest)
  | minus :: rest => plain (skipNumber rest)
  | quote :: rest => plain (skipString rest rest)
  | byte :: rest =>
    if (digit? byte).isSome then plain (skipNumber (byte :: rest))
    else failAtNext .expectedValue (byte :: rest)

def skipWithin : Bytes → List Frame → Bytes → Except Fault Bytes
  | [], _, text => fail .unfinishedValue text
  | _ :: clock, frames, text =>
    match skipStart text with
    | .error fault => .error fault
    | .ok (opened, rest) =>
      let frames := opened.toList ++ frames
      match closeFrames frames opened.isNone rest with
      | .error fault => .error fault
      | .ok ([], rest) => .ok rest
      | .ok (frames, rest) => skipWithin clock frames rest

def skipValue (text : Bytes) : Except Fault Bytes :=
  skipWithin (0 :: text) [] text

end AttachmentFetch.Json
