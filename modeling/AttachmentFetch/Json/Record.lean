import AttachmentFetch.Json.Printer
import AttachmentFetch.Json.Reader
import AttachmentFetch.Json.Skip
import AttachmentFetch.Number.Signed

/-! Reading JSON that has to say something in particular: an integer, a name out
of a few, or a record, which may be written as an object with its fields in any
order or as a list of their values. -/
namespace AttachmentFetch.Json

inductive Found where
  | null
  | bool (value : Bool)
  | number (value : Number)
  | string (value : String)
  | list
  | object

def Value.found : Value → Found
  | .null => .null
  | .bool value => .bool value
  | .number value => .number value
  | .string value => .string value
  | .array _ => .list
  | .object _ => .object

def Found.text : Found → String
  | null => "null"
  | bool value => s!"boolean \x60{value}\x60"
  | number (.integer value _) => s!"integer \x60{value}\x60"
  | number (.float value) => s!"floating point \x60{floatText value}\x60"
  | string value => s!"string {Text.quoted value}"
  | list => "sequence"
  | object => "map"

def wrongType (found : Found) (expected : String) : Cause :=
  .mismatch s!"invalid type: {found.text}, expected {expected}"

def wrongValue (found : Found) (expected : String) : Cause :=
  .mismatch s!"invalid value: {found.text}, expected {expected}"

def wrongLength (length : Nat) (expected : String) : Cause :=
  .mismatch s!"invalid length {length}, expected {expected}"

def missingField (name : String) : Cause := .mismatch s!"missing field \x60{name}\x60"

/-- Reports a value of the wrong type. Scalars are read first, and may be
faulty in themselves; of lists and objects nothing is read. -/
def mismatched (expected : String) (text : Bytes) : Read α :=
  match text with
  | listOpen :: rest => fail (wrongType .list expected) (listOpen :: rest)
  | objectOpen :: rest => fail (wrongType .object expected) (objectOpen :: rest)
  | text =>
    match scalar text with
    | .error fault => .error fault
    | .ok (value, rest) => fail (wrongType value.found expected) rest

def Number.toInt64 (expected : String) : Number → Except Cause Int64
  | .integer value inRange =>
    match int64? value with
    | some value => .ok value
    | none => .error (wrongValue (.number (.integer value inRange)) expected)
  | .float value => .error (wrongType (.number (.float value)) expected)

def readInt64 (text : Bytes) : Read Int64 :=
  let finish (result : Read Number) : Read Int64 :=
    match result with
    | .error fault => .error fault
    | .ok (number, rest) =>
      match number.toInt64 "i64" with
      | .ok value => .ok (value, rest)
      | .error cause => fail cause rest
  match skipBlanks text with
  | [] => fail .unfinishedValue []
  | minus :: rest => finish (number true rest)
  | byte :: rest =>
    if (digit? byte).isSome then finish (number false (byte :: rest))
    else mismatched "i64" (byte :: rest)

def readString (expected : String) (text : Bytes) : Read String :=
  match skipBlanks text with
  | [] => fail .unfinishedValue []
  | quote :: rest => string rest
  | rest => mismatched expected rest

structure Field (α : Type) where
  name : String
  isSet : α → Bool
  read : α → Bytes → Read α

/-- A record of type `β`: its name, what stands for nothing read yet, its
fields, and how it is made of them, which fails with the name of a missing field. -/
structure Shape (α β : Type) where
  name : String
  empty : α
  fields : List (Field α)
  finish : α → Except String β

def Shape.expected (shape : Shape α β) : String :=
  let count := shape.fields.length
  let elements := if count = 1 then "element" else "elements"
  s!"struct {shape.name} with {count} {elements}"

/-- The place that a complaint about an object as a whole is reported at: the
end of the object, where that comes next. -/
def pastObjectEnd (text : Bytes) : Bytes :=
  match skipBlanks text with
  | objectClose :: rest => rest
  | rest => rest

def Shape.entries (shape : Shape α β) : Bytes → Bool → α → Bytes → Read α
  | [], _, _, text => fail .unfinishedObject text
  | _ :: clock, first, record, text =>
    match nextName first text with
    | .error fault => .error fault
    | .ok (false, rest) => .ok (record, rest)
    | .ok (true, rest) =>
      match string rest with
      | .error fault => .error fault
      | .ok (name, rest) =>
        match shape.fields.find? (·.name = name) with
        | none =>
          match pastColon rest with
          | .error fault => .error fault
          | .ok rest =>
            match skipValue rest with
            | .error fault => .error fault
            | .ok rest => shape.entries clock false record rest
        | some field =>
          if field.isSet record then
            fail (.mismatch s!"duplicate field \x60{name}\x60") (pastObjectEnd rest)
          else
            match pastColon rest with
            | .error fault => .error fault
            | .ok rest =>
              match field.read record rest with
              | .error fault => .error fault
              | .ok (record, rest) => shape.entries clock false record rest

def Shape.complete (shape : Shape α β) (record : α) (rest : Bytes) : Read β :=
  match shape.finish record with
  | .ok value => .ok (value, rest)
  | .error field => fail (missingField field) rest

def Shape.ofObject (shape : Shape α β) (text : Bytes) : Read β :=
  match shape.entries (objectOpen :: text) true shape.empty text with
  | .error fault => .error fault
  | .ok (record, rest) => shape.complete record (pastObjectEnd rest)

def Shape.values (shape : Shape α β) (index : Nat) : List (Field α) → α → Bytes → Read α
  | [], record, text =>
    match skipBlanks text with
    | [] => fail .unfinishedList []
    | listClose :: rest => .ok (record, rest)
    | comma :: rest =>
      match skipBlanks rest with
      | listClose :: rest => failAtNext .trailingComma (listClose :: rest)
      | rest => failAtNext .trailingCharacters rest
    | rest => failAtNext .trailingCharacters rest
  | field :: fields, record, text =>
    let one (text : Bytes) : Read α :=
      match field.read record text with
      | .error fault => .error fault
      | .ok (record, rest) => shape.values (index + 1) fields record rest
    match skipBlanks text with
    | [] => fail .unfinishedList []
    | listClose :: rest => fail (wrongLength index shape.expected) rest
    | byte :: rest =>
      if index = 0 then one (byte :: rest)
      else if byte = comma then
        match skipBlanks rest with
        | [] => fail .unfinishedValue []
        | listClose :: rest => failAtNext .trailingComma (listClose :: rest)
        | rest => one rest
      else failAtNext .expectedListCommaOrEnd (byte :: rest)

def Shape.ofList (shape : Shape α β) (text : Bytes) : Read β :=
  match shape.values 0 shape.fields shape.empty text with
  | .error fault => .error fault
  | .ok (record, rest) => shape.complete record rest

def Shape.read (shape : Shape α β) (text : Bytes) : Read β :=
  match skipBlanks text with
  | [] => fail .unfinishedValue []
  | listOpen :: rest => shape.ofList rest
  | objectOpen :: rest => shape.ofObject rest
  | rest => mismatched s!"struct {shape.name}" rest

/-- A name out of a few: a string, or the only entry of an object whose value is null. -/
def choice (choices : List (String × α)) (value : Value) : Except Cause α :=
  let choose (name : String) : Except Cause α :=
    match choices.lookup name with
    | some value => .ok value
    | none =>
      let known := " or ".intercalate (choices.map fun choice => s!"\x60{choice.1}\x60")
      .error (.mismatch s!"unknown variant \x60{name}\x60, expected {known}")
  match value with
  | .string name => choose name
  | .object [(name, content)] => do
    let chosen ← choose name
    match content with
    | .null => return chosen
    | content => throw (wrongType content.found "unit")
  | .object _ => .error (wrongValue .object "map with a single key")
  | value => .error (wrongType value.found "string or map")

end AttachmentFetch.Json
