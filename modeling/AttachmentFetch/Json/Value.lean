import AttachmentFetch.Number.Binary64

/-! JSON values. The entries of an object are kept in the order of their names;
of two entries of one name the later replaces the earlier. -/
namespace AttachmentFetch.Json

/-- A number is an integer as long as it fits one of the two 64-bit ranges. -/
inductive Number where
  | integer (value : Int)
      (inRange : -9223372036854775808 ≤ value ∧ value < 18446744073709551616)
  | float (value : Binary64)
  deriving DecidableEq, Repr

inductive Value where
  | null
  | bool (value : Bool)
  | number (value : Number)
  | string (value : String)
  | array (items : List Value)
  | object (entries : List (String × Value))
  deriving Repr

instance : Inhabited Value := ⟨.null⟩

def insert (name : String) (value : α) : List (String × α) → List (String × α)
  | [] => [(name, value)]
  | entry :: rest =>
    if name < entry.1 then (name, value) :: entry :: rest
    else if name = entry.1 then (name, value) :: rest
    else entry :: insert name value rest

def ofInt64 (value : Int64) : Value :=
  .number (.integer value.toInt (by
    have := value.le_toInt
    have := value.toInt_lt
    omega))

end AttachmentFetch.Json
