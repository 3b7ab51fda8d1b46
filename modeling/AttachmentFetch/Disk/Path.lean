/-! Paths as text. -/
namespace AttachmentFetch.Path

/-- A name below a directory. An absolute name stands for itself. -/
def join (directory name : String) : String :=
  if name.startsWith "/" || directory.isEmpty then name
  else if directory.endsWith "/" then directory ++ name
  else directory ++ "/" ++ name

/-- Leaves out what adds nothing at the end of a path, which is given from its
end: slashes, and dots between them. -/
def stripEnd : List Char → List Char
  | '/' :: c :: rest => stripEnd (c :: rest)
  | '.' :: '/' :: rest => stripEnd ('/' :: rest)
  | path => path

def parent? (path : String) : Option String :=
  match stripEnd path.toList.reverse with
  | [] | ['/'] => none
  | reversed =>
    some (String.ofList (stripEnd (reversed.dropWhile (· ≠ '/'))).reverse)

def upwards : Nat → String → List String
  | 0, _ => []
  | steps + 1, path =>
    match parent? path with
    | none => []
    | some parent => path :: upwards steps parent

def directories (path : String) : List String := upwards path.length path

def names (path : String) : List String :=
  ((path.toList.splitOn '/').filter (!·.isEmpty)).map String.ofList

end AttachmentFetch.Path
