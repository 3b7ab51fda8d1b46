import AttachmentFetch.Url.Basic

/-! Reading URLs, alone or in relation to another one. -/
namespace AttachmentFetch.Url

/-! What is escaped where, besides control characters and all beyond ASCII. -/

def escapedInFragment (c : Char) : Bool := " \"<>\x60".toList.contains c
def escapedInPath (c : Char) : Bool := " \"<>\x60#?\x7b\x7d".toList.contains c
def escapedInUserinfo (c : Char) : Bool := escapedInPath c || "/:;=@[\\]^|".toList.contains c
def escapedInQuery (special : Bool) (c : Char) : Bool :=
  " \"#<>".toList.contains c || (special && c = '\'')

def isEdge (c : Char) : Bool := c.toNat ≤ 0x20

def clean (text : String) : List Char :=
  (((text.toList.dropWhile isEdge).reverse.dropWhile isEdge).reverse).filter fun c =>
    c ≠ '\t' && c ≠ '\n' && c ≠ '\r'

def isSchemeChar (c : Char) : Bool := c.isAlphanum || c = '+' || c = '-' || c = '.'

def scheme? (text : List Char) : Option (List Char × List Char) :=
  match text.takeWhile isSchemeChar, text.dropWhile isSchemeChar with
  | first :: more, ':' :: rest =>
    if first.isAlpha then some ((first :: more).map Char.toLower, rest) else none
  | _, _ => none

def isSlash (special : Bool) (c : Char) : Bool := c = '/' || (special && c = '\\')

def endsPath (c : Char) : Bool := c = '?' || c = '#'

def splitTail (text : List Char) : List Char × Option (List Char) × Option (List Char) :=
  let path := text.takeWhile (!endsPath ·)
  match text.dropWhile (!endsPath ·) with
  | '?' :: rest =>
    let query := rest.takeWhile (· ≠ '#')
    match rest.dropWhile (· ≠ '#') with
    | '#' :: fragment => (path, some query, some fragment)
    | _ => (path, some query, none)
  | '#' :: fragment => (path, none, some fragment)
  | _ => (path, none, none)

def isSingleDot (name : List Char) : Bool :=
  [".", "%2e"].contains (String.ofList (name.map Char.toLower))

def isDoubleDot (name : List Char) : Bool :=
  ["..", ".%2e", "%2e.", "%2e%2e"].contains (String.ofList (name.map Char.toLower))

def splitPath (special : Bool) : List Char → List (List Char)
  | [] => [[]]
  | c :: rest =>
    match isSlash special c, splitPath special rest with
    | true, pieces => [] :: pieces
    | false, piece :: pieces => (c :: piece) :: pieces
    | false, [] => [[c]]

/-- Adds names to a path. Dots are resolved, and leave an empty name at the end. -/
def addNames (path : List (List Char)) : List (List Char) → List (List Char)
  | [] => path
  | name :: rest =>
    let isLast := rest.isEmpty
    if isDoubleDot name then
      addNames (path.dropLast ++ if isLast then [[]] else []) rest
    else if isSingleDot name then addNames (path ++ if isLast then [[]] else []) rest
    else addNames (path ++ [percentEncode escapedInPath name]) rest

/-- The path that follows a host. That of a special scheme is never empty. -/
def pathAfterHost (special : Bool) (text : List Char) : UrlPath :=
  match text with
  | [] => if special then .segments [[]] else .segments []
  | c :: rest =>
    .segments (addNames [] (splitPath special (if isSlash special c then rest else c :: rest)))

def withTail (url : Url) (query fragment : Option (List Char)) : Url :=
  { url with
    query := query.map (percentEncode (escapedInQuery (isSpecial url.scheme)))
    fragment := fragment.map (percentEncode escapedInFragment) }

def splitCredentials (text : List Char) : Option (List Char) × List Char :=
  if text.contains '@' then
    let reversed := text.reverse
    (some (reversed.dropWhile (· ≠ '@')).tail.reverse, (reversed.takeWhile (· ≠ '@')).reverse)
  else (none, text)

def splitPort : Bool → List Char → List Char × Option (List Char)
  | _, [] => ([], none)
  | inside, c :: rest =>
    if c = ':' && !inside then ([], some rest)
    else
      let inside := if c = '[' then true else if c = ']' then false else inside
      let (host, number) := splitPort inside rest
      (c :: host, number)

/-- Gives no number for the scheme's own, which no digits at all mean as well. -/
def portNumber? (scheme : List Char) (text : Option (List Char)) : Option (Option Nat) :=
  match text with
  | none | some [] => some none
  | some digits =>
    if digits.all Char.isDigit then
      let value := digits.foldl (fun value c => min (value * 10 + (c.toNat - 48)) 65536) 0
      if 65535 < value then none
      else some (if defaultPort? scheme = some value then none else some value)
    else none

def afterSlashes (scheme : List Char) (text : List Char) : Option Url := do
  let special := isSpecial scheme
  let (rest, query, fragment) := splitTail text
  let authority := rest.takeWhile (!isSlash special ·)
  let path := rest.dropWhile (!isSlash special ·)
  let (credentials, address) := splitCredentials authority
  let (hostText, portText) := splitPort false address
  if hostText.isEmpty ∧ (special ∨ credentials.isSome ∨ portText.isSome) then none
  else
    let host ← if special then host? hostText else opaqueHost? hostText
    let portNumber ← portNumber? scheme portText
    let credentials := credentials.getD []
    let username := percentEncode escapedInUserinfo (credentials.takeWhile (· ≠ ':'))
    let password := percentEncode escapedInUserinfo (credentials.dropWhile (· ≠ ':')).tail
    let url : Url :=
      { scheme, username, portNumber
        password := if password.isEmpty then none else some password
        host := some host
        path := pathAfterHost special path }
    return url.withTail query fragment

def filePath (text : List Char) : UrlPath :=
  .segments <|
    match (addNames [] (splitPath true (text.dropWhile (isSlash true)))).dropWhile List.isEmpty with
    | [] => [[]]
    | names => names

def file? (scheme : List Char) (text : List Char) : Option Url := do
  let (rest, query, fragment) := splitTail text
  match rest with
  | a :: b :: rest =>
    if isSlash true a && isSlash true b then
      let hostText := rest.takeWhile (!isSlash true ·)
      let host ← if hostText.isEmpty then some [] else host? hostText
      let url : Url :=
        { scheme
          host := if host.isEmpty ∨ host = "localhost".toList then none else some host
          path := filePath (rest.dropWhile (!isSlash true ·)) }
      return url.withTail query fragment
    else return ({ scheme, path := filePath (a :: b :: rest) } : Url).withTail query fragment
  | rest => return ({ scheme, path := filePath rest } : Url).withTail query fragment

def ofScheme? (scheme text : List Char) : Option Url :=
  if isFileScheme scheme then file? scheme text
  else if isSpecial scheme then afterSlashes scheme (text.dropWhile (isSlash true))
  else
    match text with
    | '/' :: '/' :: rest => afterSlashes scheme rest
    | _ =>
      let (rest, query, fragment) := splitTail text
      let path :=
        match rest with
        | '/' :: names => UrlPath.segments (addNames [] (splitPath false names))
        | rest => .plain (percentEncode (fun _ => false) rest)
      some (({ scheme, path } : Url).withTail query fragment)

def parse? (text : String) : Option Url := do
  let (scheme, rest) ← scheme? (clean text)
  ofScheme? scheme rest

def join? (base : Url) (reference : String) : Option Url :=
  let text := clean reference
  let special := isSpecial base.scheme
  match scheme? text with
  | some (scheme, rest) => ofScheme? scheme rest
  | none =>
    let (rest, query, fragment) := splitTail text
    match rest with
    | [] =>
      match query with
      | none =>
        some { base with fragment := fragment.map (percentEncode escapedInFragment) }
      | some _ => some (base.withTail query fragment)
    | a :: more =>
      if isSlash special a then
        match more with
        | b :: _ =>
          if isSlash special b then afterSlashes base.scheme (text.dropWhile (isSlash special))
          else some ({ base with path := pathAfterHost special rest }.withTail query fragment)
        | [] => some ({ base with path := pathAfterHost special rest }.withTail query fragment)
      else
        let names :=
          match base.path with
          | .segments names => names.dropLast
          | .plain _ => []
        some ({ base with path := .segments (addNames names (splitPath special rest)) }.withTail
          query fragment)

end AttachmentFetch.Url
