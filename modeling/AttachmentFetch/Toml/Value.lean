/-! TOML values. Nothing here computes with floats and dates, so these keep the
text that they were written as. -/
namespace AttachmentFetch.Toml

inductive Value where
  | string (value : String)
  | integer (value : Int64)
  | float (literal : String)
  | boolean (value : Bool)
  | datetime (literal : String)
  | array (items : List Value)
  | table (entries : List (String × Value))
  deriving Repr

namespace Value

def get? (value : Value) (key : String) : Option Value :=
  match value with
  | table entries => entries.lookup key
  | _ => none

def string? : Value → Option String
  | string value => some value
  | _ => none

def integer? : Value → Option Int64
  | integer value => some value
  | _ => none

end Value

end AttachmentFetch.Toml
