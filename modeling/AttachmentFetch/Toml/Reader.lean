import AttachmentFetch.Toml.Scan
import AttachmentFetch.Toml.Table

/-! Reading TOML documents. -/
namespace AttachmentFetch.Toml

/-- The items of an array after its opening bracket or a comma, whichever
comes; the closing bracket is used up. A comma may follow the last item. -/
def items (item : List Char → Option (Rest Value)) :
    List Char → List Char → Option (Rest (List Value))
  | [], _ => none
  | _ :: clock, text =>
    match skipLines text text with
    | ']' :: rest => some ([], rest)
    | text => do
      let (value, rest) ← item text
      match skipLines rest rest with
      | ']' :: rest => return ([value], rest)
      | ',' :: rest =>
        let (values, rest) ← items item clock rest
        return (value :: values, rest)
      | _ => none

def assignment (item : List Char → Option (Rest Value)) (text : List Char) :
    Option (Rest (List String × String × Value)) := do
  let (parts, rest) ← key text
  let rest ← expect '=' rest
  let (value, rest) ← item (skipBlanks rest)
  return ((parts.dropLast, ← parts.getLast?, value), rest)

def inlineEntries (item : List Char → Option (Rest Value)) :
    List Char → Entries → List Char → Option (Rest Entries)
  | [], _, _ => none
  | _ :: clock, entries, text => do
    let ((path, key, value), rest) ← assignment item text
    let entries ← entries.assign path key value
    match skipBlanks rest with
    | '\x7d' :: rest => return (entries, rest)
    | ',' :: rest => inlineEntries item clock entries rest
    | _ => none

def inlineTable (item : List Char → Option (Rest Value)) (text : List Char) :
    Option (Rest Entries) :=
  match skipBlanks text with
  | '\x7d' :: rest => some ([], rest)
  | rest => inlineEntries item ('\x7b' :: rest) [] rest

def scalar (text : List Char) : Option (Rest Value) :=
  match text with
  | 't' :: 'r' :: 'u' :: 'e' :: rest => some (.boolean true, rest)
  | 'f' :: 'a' :: 'l' :: 's' :: 'e' :: rest => some (.boolean false, rest)
  | '"' :: _ | '\'' :: _ => (string true text).map fun (value, rest) => (.string value, rest)
  | _ =>
    ((datetime text).map fun (literal, rest) => (.datetime literal, rest))
      <|> ((float text).map fun (literal, rest) => (.float literal, rest))
      <|> ((integer text).map fun (value, rest) => (.integer value, rest))

def value : Nat → List Char → Option (Rest Value)
  | 0, text =>
    match text with
    | '[' :: _ | '\x7b' :: _ => none
    | text => scalar text
  | depth + 1, text =>
    match text with
    | '[' :: rest =>
      (items (value depth) ('[' :: rest) rest).map fun (values, rest) => (.array values, rest)
    | '\x7b' :: rest =>
      (inlineTable (value depth) rest).map fun (entries, rest) =>
        (.table (entryValues entries), rest)
    | text => scalar text

def header (closing : List Char) (text : List Char) : Option (Rest (List String × String)) := do
  let (parts, rest) ← key text
  if closing.isPrefixOf rest then
    return ((parts.dropLast, ← parts.getLast?), ← endLine (rest.drop closing.length))
  else none

/-- Reads lines into the tables; `current` names the one that entries go to. -/
def lines : List Char → List String → Entries → List Char → Option Entries
  | [], _, _, _ => none
  | _ :: clock, current, root, text =>
    match skipBlanks text with
    | [] => some root
    | '#' :: rest => do lines clock current root (← endLine ('#' :: rest))
    | '\n' :: rest => lines clock current root rest
    | '\r' :: rest => do lines clock current root (← newline ('\r' :: rest))
    | '[' :: '[' :: rest => do
      let ((path, key), rest) ← header [']', ']'] rest
      lines clock (path ++ [key]) (← root.extend path key) rest
    | '[' :: rest => do
      let ((path, key), rest) ← header [']'] rest
      lines clock (path ++ [key]) (← root.define path key) rest
    | rest => do
      let ((path, key, value), rest) ← assignment (value (depthLimit - 1)) rest
      let root ← root.within false (fun _ entries => entries.assign path key value) current false
      lines clock current root (← endLine rest)

/-- The table that a document describes. A byte order mark may come first. -/
def ofText? (text : String) : Option Value := do
  let chars := text.toList
  let chars := if chars.head? = some '\ufeff' then chars.tail else chars
  let root ← lines ('\n' :: chars) [] [] chars
  return .table (entryValues root)

end AttachmentFetch.Toml
