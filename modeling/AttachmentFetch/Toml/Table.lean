import AttachmentFetch.Toml.Value

/-! Tables under construction. Headers and dotted keys may name a table before
it is defined, but each table is defined once and in one way. -/
namespace AttachmentFetch.Toml

inductive Item where
  | value (value : Value)
  /-- A table: whether it is only implied by the name of another one, whether it
  comes from a dotted key, and what it holds. -/
  | table (implied dotted : Bool) (entries : List (String × Item))
  /-- An array of tables, to the last of which new entries go. -/
  | tables (elements : List (List (String × Item)))

abbrev Entries := List (String × Item)

def Entries.replace (key : String) (item : Item) (entries : Entries) : Entries :=
  entries.map fun entry => if entry.1 = key then (key, item) else entry

/-- Changes the table at the end of a path, along which missing tables come into
being. `act` learns whether that table comes from a dotted key. A dotted path
leads through tables only that are not defined otherwise. -/
def Entries.within (dotted : Bool) (act : Bool → Entries → Option Entries) :
    List String → Bool → Entries → Option Entries
  | [], isDotted, entries => act isDotted entries
  | key :: path, _, entries =>
    match entries.lookup key with
    | none => do
      let inner ← within dotted act path dotted []
      return entries ++ [(key, .table true dotted inner)]
    | some (.value _) => none
    | some (.table implied isDotted inner) => do
      if dotted && !implied then none
      else
        let inner ← within dotted act path isDotted inner
        return entries.replace key (.table implied isDotted inner)
    | some (.tables elements) => do
      let inner ← within dotted act path false (← elements.getLast?)
      return entries.replace key (.tables (elements.dropLast ++ [inner]))

/-- Gives a value to a key of a table that has no such key, or of one of its
tables that only dotted keys have made. -/
def Entries.assign (path : List String) (key : String) (value : Value) (entries : Entries) :
    Option Entries :=
  entries.within true (fun isDotted entries =>
    if isDotted == path.isEmpty then none
    else if (entries.lookup key).isSome then none
    else some (entries ++ [(key, .value value)])) path false

def Entries.define (path : List String) (key : String) (entries : Entries) : Option Entries :=
  entries.within false (fun _ entries =>
    match entries.lookup key with
    | none => some (entries ++ [(key, .table false false [])])
    | some (.table true false inner) => some (entries.replace key (.table false false inner))
    | some _ => none) path false

def Entries.extend (path : List String) (key : String) (entries : Entries) : Option Entries :=
  entries.within false (fun _ entries =>
    match entries.lookup key with
    | none => some (entries ++ [(key, .tables [[]])])
    | some (.tables elements) => some (entries.replace key (.tables (elements ++ [[]])))
    | some _ => none) path false

mutual

def Item.toValue : Item → Value
  | .value value => value
  | .table _ _ entries => .table (entryValues entries)
  | .tables elements => .array (elementValues elements)
termination_by structural item => item

def entryValue : String × Item → String × Value
  | (key, item) => (key, item.toValue)
termination_by structural entry => entry

def entryValues : List (String × Item) → List (String × Value)
  | [] => []
  | entry :: rest => entryValue entry :: entryValues rest
termination_by structural entries => entries

def elementValues : List (List (String × Item)) → List Value
  | [] => []
  | entries :: rest => .table (entryValues entries) :: elementValues rest
termination_by structural elements => elements

end

end AttachmentFetch.Toml
