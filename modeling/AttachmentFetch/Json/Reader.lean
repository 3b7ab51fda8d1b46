import AttachmentFetch.Json.Scan

/-! Reading JSON values. Lists and objects nest up to a given depth; entries of
objects are brought into order as they are read. -/
namespace AttachmentFetch.Json

def deepest : Nat := 127

/-- The items of a list after its opening bracket or, when not `first`, after
an item. The closing bracket is used up. -/
def items (item : Bytes → Read α) : Bytes → Bool → Bytes → Read (List α)
  | [], _, text => fail .unfinishedList text
  | _ :: clock, first, text =>
    let one (text : Bytes) : Read (List α) :=
      match item text with
      | .error fault => .error fault
      | .ok (value, rest) =>
        match items item clock false rest with
        | .error fault => .error fault
        | .ok (values, rest) => .ok (value :: values, rest)
    match skipBlanks text with
    | [] => fail .unfinishedList []
    | listClose :: rest => .ok ([], rest)
    | byte :: rest =>
      if first then one (byte :: rest)
      else if byte = comma then
        match skipBlanks rest with
        | [] => fail .unfinishedValue []
        | listClose :: rest => failAtNext .trailingComma (listClose :: rest)
        | rest => one rest
      else failAtNext .expectedListCommaOrEnd (byte :: rest)

def pastColon (text : Bytes) : Except Fault Bytes :=
  match skipBlanks text with
  | [] => fail .unfinishedObject []
  | colon :: rest => .ok rest
  | rest => failAtNext .expectedColon rest

/-- What comes next inside an object: the end, still unread, or the opening
quote of a name, which is used up. -/
def nextName (first : Bool) (text : Bytes) : Read Bool :=
  match skipBlanks text with
  | [] => fail .unfinishedObject []
  | objectClose :: rest => .ok (false, objectClose :: rest)
  | byte :: rest =>
    if first then
      if byte = quote then .ok (true, rest) else failAtNext .keyNotString (byte :: rest)
    else if byte = comma then
      match skipBlanks rest with
      | [] => fail .unfinishedValue []
      | quote :: rest => .ok (true, rest)
      | objectClose :: rest => failAtNext .trailingComma (objectClose :: rest)
      | rest => failAtNext .keyNotString rest
    else failAtNext .expectedObjectCommaOrEnd (byte :: rest)

/-- The entries of an object after its opening brace or, when not `first`,
after an entry, in the order of the text. The closing brace is used up. -/
def entries (item : Bytes → Read α) : Bytes → Bool → Bytes → Read (List (String × α))
  | [], _, text => fail .unfinishedObject text
  | _ :: clock, first, text =>
    match nextName first text with
    | .error fault => .error fault
    | .ok (false, rest) => .ok ([], rest.tail)
    | .ok (true, rest) =>
      match string rest with
      | .error fault => .error fault
      | .ok (name, rest) =>
        match pastColon rest with
        | .error fault => .error fault
        | .ok rest =>
          match item rest with
          | .error fault => .error fault
          | .ok (value, rest) =>
            match entries item clock false rest with
            | .error fault => .error fault
            | .ok (more, rest) => .ok ((name, value) :: more, rest)

def Value.ofEntries (entries : List (String × Value)) : Value :=
  .object (entries.foldl (fun sorted (name, value) => insert name value sorted) [])

/-- Reads a name whose first letter has been met, for a value. -/
def named (letters : String) (value : α) (text : Bytes) : Read α :=
  match name (Text.Utf8.encode letters) text with
  | .error fault => .error fault
  | .ok rest => .ok (value, rest)

def mapRead (f : α → β) : Read α → Read β
  | .error fault => .error fault
  | .ok (value, rest) => .ok (f value, rest)

def scalar : Bytes → Read Value
  | [] => fail .unfinishedValue []
  | letterN :: rest => named "ull" .null rest
  | letterT :: rest => named "rue" (.bool true) rest
  | letterF :: rest => named "alse" (.bool false) rest
  | minus :: rest => mapRead .number (number true rest)
  | quote :: rest => mapRead .string (string rest)
  | byte :: rest =>
    if (digit? byte).isSome then mapRead .number (number false (byte :: rest))
    else failAtNext .expectedValue (byte :: rest)

def value : Nat → Bytes → Read Value
  | 0, text =>
    match skipBlanks text with
    | listOpen :: rest => failAtNext .tooDeep (listOpen :: rest)
    | objectOpen :: rest => failAtNext .tooDeep (objectOpen :: rest)
    | rest => scalar rest
  | depth + 1, text =>
    match skipBlanks text with
    | listOpen :: rest => mapRead .array (items (value depth) (listOpen :: rest) true rest)
    | objectOpen :: rest =>
      mapRead Value.ofEntries (entries (value depth) (objectOpen :: rest) true rest)
    | rest => scalar rest

def readAll (read : Bytes → Read α) (text : Bytes) : Except Fault α :=
  match read text with
  | .error fault => .error fault
  | .ok (value, rest) =>
    match skipBlanks rest with
    | [] => .ok value
    | rest => failAtNext .trailingCharacters rest

end AttachmentFetch.Json
