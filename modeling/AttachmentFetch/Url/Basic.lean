import AttachmentFetch.Url.Host

/-! URLs in the form in which they are requested and shown: scheme and host in
lower case, what is the scheme's default left out, dots resolved, and escaped
what has to be. -/
namespace AttachmentFetch

inductive UrlPath where
  /-- Names, each with a slash before it. -/
  | segments (names : List (List Char))
  /-- The path of a URL that names nothing in a hierarchy. -/
  | plain (text : List Char)
  deriving DecidableEq, Repr

def UrlPath.chars : UrlPath → List Char
  | .segments names => names.flatMap ('/' :: ·)
  | .plain text => text

structure Url where
  scheme : List Char
  username : List Char := []
  password : Option (List Char) := none
  host : Option (List Char) := none
  portNumber : Option Nat := none
  path : UrlPath
  query : Option (List Char) := none
  fragment : Option (List Char) := none
  deriving DecidableEq, Repr

namespace Url

def defaultPort? (scheme : List Char) : Option Nat :=
  match String.ofList scheme with
  | "http" | "ws" => some 80
  | "https" | "wss" => some 443
  | "ftp" => some 21
  | _ => none

def isFileScheme (scheme : List Char) : Bool := scheme = "file".toList

def isSpecial (scheme : List Char) : Bool :=
  (defaultPort? scheme).isSome || isFileScheme scheme

def isHttp (url : Url) : Bool :=
  url.scheme = "http".toList || url.scheme = "https".toList

def authorityChars (url : Url) (host : List Char) : List Char :=
  let credentials :=
    match url.username, url.password with
    | [], none => []
    | username, none => username ++ ['@']
    | username, some password => username ++ ':' :: password ++ ['@']
  let suffix :=
    match url.portNumber with
    | some number => ':' :: Nat.toDigits 10 number
    | none => []
  '/' :: '/' :: credentials ++ host ++ suffix

def target (url : Url) : List Char :=
  url.path.chars ++
    match url.query with
    | some query => '?' :: query
    | none => []

def chars (url : Url) : List Char :=
  let authority :=
    match url.host, url.path with
    | some host, _ => url.authorityChars host
    | none, .segments ([] :: _ :: _) => ['/', '.']
    | none, _ => if isFileScheme url.scheme then ['/', '/'] else []
  let fragment :=
    match url.fragment with
    | some fragment => '#' :: fragment
    | none => []
  url.scheme ++ ':' :: authority ++ url.target ++ fragment

def text (url : Url) : String := String.ofList url.chars

def hasReadableCredentials (url : Url) : Bool :=
  let readable (text : List Char) := (Text.Utf8.decode (percentDecode text)).isSome
  readable url.username && (!url.username.isEmpty || url.password.all readable)

/-- Takes the credentials out of the URL: they travel apart from it. -/
def withoutCredentials (url : Url) : Url :=
  if url.hasReadableCredentials then { url with username := [], password := none } else url

end Url

end AttachmentFetch
