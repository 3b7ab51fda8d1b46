import AttachmentFetch.Proofs.Json.Numbers
import AttachmentFetch.Proofs.Json.Ordered
import AttachmentFetch.Proofs.Json.Strings

/-! From a value to its text and back. A tidy value without floats is read from its text as it
was, wherever a value may end. -/
namespace AttachmentFetch.Json

open Text.Utf8 (ofChars ofChars_nil ofChars_cons ofChars_append ofChars_ascii)

inductive Value.Floatless : Value → Prop
  | null : Floatless .null
  | bool (value : Bool) : Floatless (.bool value)
  | integer (value : Int) (inRange) : Floatless (.number (.integer value inRange))
  | string (text : String) : Floatless (.string text)
  | array {items} (each : ∀ item ∈ items, Floatless item) : Floatless (.array items)
  | object {entries} (each : ∀ entry ∈ entries, Floatless entry.2) : Floatless (.object entries)

/-- The reader gives the value back from its text, whatever may come next. -/
def Returns (item : Bytes → Read Value) (v : Value) : Prop :=
  ∀ rest, Closes rest → item (ofChars v.chars ++ rest) = .ok (v, rest)

theorem ofChars_stringText (text : String) :
    ofChars (stringText text) = quote :: (ofChars (text.toList.flatMap escape) ++ [quote]) := by
  rw [stringText, List.cons_append, ofChars_ascii (by decide), ofChars_append]
  rfl

section Scalars
variable {first : UInt8}

theorem skipBlanks_cons (visible : isBlank first = false) (rest : Bytes) :
    skipBlanks (first :: rest) = first :: rest := by
  rw [skipBlanks, List.dropWhile_cons, visible]
  rfl

theorem value_scalar (visible : isBlank first = false) (noList : first ≠ listOpen)
    (noObject : first ≠ objectOpen) (depth : Nat) (rest : Bytes) :
    value depth (first :: rest) = scalar (first :: rest) := by
  cases depth
  all_goals
    unfold value
    rw [skipBlanks_cons visible]
    split
    next heading => exact absurd (List.cons.inj heading).1 noList
    next heading => exact absurd (List.cons.inj heading).1 noObject
    next => rfl

end Scalars

theorem integer_head {n : Int} (inRange) : ∃ first more,
    ofChars (Number.integer n inRange).text.toList = first :: more ∧
      (first = minus ∨ (digit? first).isSome) := by
  cases n with
  | ofNat n =>
    obtain ⟨first, more, digits, digit, _⟩ := toDigits_head n
    exact ⟨first, more, by rw [text_ofNat, digits], .inr digit⟩
  | negSucc n => exact ⟨_, _, by rw [text_negSucc, ofChars_ascii (by decide)]; rfl, .inl rfl⟩

theorem ne_of_number {first other : UInt8} (head : first = minus ∨ (digit? first).isSome)
    (noMinus : other ≠ minus) (noDigit : digit? other = none) : first ≠ other := by
  rintro rfl
  rcases head with rfl | digit
  · exact noMinus rfl
  · rw [noDigit] at digit
    cases digit

theorem isBlank_number {first : UInt8} (head : first = minus ∨ (digit? first).isSome) :
    isBlank first = false := by
  have differs {other : UInt8} := @ne_of_number first other head
  rw [isBlank, decide_eq_false (differs (by decide) rfl), decide_eq_false (differs (by decide) rfl),
    decide_eq_false (differs (by decide) rfl), decide_eq_false (differs (by decide) rfl)]
  rfl

theorem value_integer {n : Int} (inRange) (depth : Nat) :
    Returns (value depth) (.number (.integer n inRange)) := by
  intro rest closes
  obtain ⟨first, more, text, head⟩ := integer_head inRange
  have read := scalar_integer inRange closes
  change value depth (ofChars (Number.integer n inRange).text.toList ++ rest) = _
  rw [text, List.cons_append] at read ⊢
  rw [value_scalar (isBlank_number head) (ne_of_number head (by decide) rfl)
    (ne_of_number head (by decide) rfl), read]

def Opens : Bytes → Prop
  | [] => False
  | first :: _ => isBlank first = false ∧ first ≠ listClose

theorem Opens.append {text : Bytes} (opens : Opens text) (rest : Bytes) : Opens (text ++ rest) := by
  cases text with
  | nil => cases opens
  | cons first text => exact opens

theorem opens_chars {v : Value} (floatless : v.Floatless) : Opens (ofChars v.chars) := by
  cases floatless with
  | null => exact ⟨rfl, by decide⟩
  | bool value => cases value <;> exact ⟨rfl, by decide⟩
  | integer n inRange =>
    obtain ⟨first, more, text, head⟩ := integer_head inRange
    change Opens (ofChars (Number.integer n inRange).text.toList)
    rw [text]
    exact ⟨isBlank_number head, ne_of_number head (by decide) rfl⟩
  | string text =>
    change Opens (ofChars (stringText text))
    rw [ofChars_stringText]
    exact ⟨rfl, by decide⟩
  | array | object => exact ⟨rfl, by decide⟩

section Lists
variable {item : Bytes → Read Value} {tick : UInt8} {clock text rest rest' : Bytes} {v : Value}
  {values : List Value}

theorem items_first (opens : Opens text) (one : item text = .ok (v, rest))
    (others : items item clock false rest = .ok (values, rest')) :
    items item (tick :: clock) true text = .ok (v :: values, rest') := by
  cases text with
  | nil => cases opens
  | cons first text =>
    unfold items
    rw [skipBlanks_cons opens.1]
    split
    next heading => cases heading
    next heading => exact absurd (List.cons.inj heading).1 opens.2
    next heading =>
      obtain ⟨rfl, rfl⟩ := List.cons.inj heading
      simp only [one, others, if_true]

theorem items_comma (opens : Opens text) (one : item text = .ok (v, rest))
    (others : items item clock false rest = .ok (values, rest')) :
    items item (tick :: clock) false (comma :: text) = .ok (v :: values, rest') := by
  cases text with
  | nil => cases opens
  | cons first text =>
    unfold items
    rw [skipBlanks_cons rfl]
    split
    next heading => cases heading
    next heading => exact absurd (List.cons.inj heading).1 (by decide)
    next heading =>
      obtain ⟨rfl, rfl⟩ := List.cons.inj heading
      rw [if_neg Bool.false_ne_true, if_pos rfl, skipBlanks_cons opens.1]
      split
      next heading => cases heading
      next heading => exact absurd (List.cons.inj heading).1 opens.2
      next => simp only [one, others]

theorem ofChars_moreItems (v : Value) (values : List Value) :
    ofChars (moreItemChars (v :: values)) =
      comma :: (ofChars v.chars ++ ofChars (moreItemChars values)) := by
  rw [moreItemChars, List.cons_append, ofChars_ascii (by decide), ofChars_append]
  rfl

theorem closes_moreItems (values : List Value) (rest : Bytes) :
    Closes (ofChars (moreItemChars values) ++ listClose :: rest) := by
  cases values with
  | nil => exact .inr (.inl rfl)
  | cons v values => exact .inl rfl

theorem items_moreItems (floatless : ∀ v ∈ values, v.Floatless)
    (returns : ∀ v ∈ values, Returns item v) (rest : Bytes)
    (enough : (ofChars (moreItemChars values)).length < clock.length) :
    items item clock false (ofChars (moreItemChars values) ++ listClose :: rest) =
      .ok (values, rest) := by
  induction values generalizing clock with
  | nil =>
    cases clock with
    | nil => cases enough
    | cons tick clock => rfl
  | cons v more ih =>
    cases clock with
    | nil => cases enough
    | cons tick clock =>
      obtain ⟨opens, floatless'⟩ := List.forall_mem_cons.1 floatless
      obtain ⟨one, returns'⟩ := List.forall_mem_cons.1 returns
      rw [ofChars_moreItems] at enough ⊢
      rw [List.length_cons, List.length_append, List.length_cons] at enough
      rw [List.cons_append, List.append_assoc]
      exact items_comma ((opens_chars opens).append _) (one _ (closes_moreItems more rest))
        (ih floatless' returns' (by omega))

theorem items_itemChars (floatless : ∀ v ∈ values, v.Floatless)
    (returns : ∀ v ∈ values, Returns item v) (rest : Bytes)
    (enough : (ofChars (itemChars values)).length < clock.length) :
    items item (tick :: clock) true (ofChars (itemChars values) ++ listClose :: rest) =
      .ok (values, rest) := by
  cases values with
  | nil => rfl
  | cons v more =>
    obtain ⟨opens, floatless'⟩ := List.forall_mem_cons.1 floatless
    obtain ⟨one, returns'⟩ := List.forall_mem_cons.1 returns
    rw [itemChars, ofChars_append] at enough ⊢
    rw [List.length_append] at enough
    rw [List.append_assoc]
    exact items_first ((opens_chars opens).append _) (one _ (closes_moreItems more rest))
      (items_moreItems floatless' returns' rest (by omega))

end Lists

section Objects
variable {item : Bytes → Read Value} {tick : UInt8} {clock text named rest rest' : Bytes}
  {first : Bool} {name : String} {v : Value} {found : List (String × Value)}

theorem ofChars_entry (name : String) (v : Value) (rest : Bytes) :
    ofChars (entryChars (name, v)) ++ rest = quote ::
      (ofChars (name.toList.flatMap escape) ++ quote :: colon :: (ofChars v.chars ++ rest)) := by
  rw [entryChars, ofChars_append, ofChars_stringText, ofChars_ascii (by decide)]
  simp only [List.cons_append, List.append_assoc, List.nil_append]
  rfl

theorem entries_entry (returns : Returns item v) (closes : Closes rest)
    (met : nextName first text = .ok (true, ofChars (name.toList.flatMap escape) ++
      quote :: colon :: (ofChars v.chars ++ rest)))
    (others : entries item clock false rest = .ok (found, rest')) :
    entries item (tick :: clock) first text = .ok ((name, v) :: found, rest') := by
  have past (opened : Bytes) : pastColon (colon :: opened) = .ok opened := rfl
  rw [entries, met]
  simp only [string_escaped, past, returns rest closes, others]

theorem ofChars_moreEntries (name : String) (v : Value) (found : List (String × Value))
    (rest : Bytes) :
    ofChars (moreEntriesChars ((name, v) :: found)) ++ rest =
      comma :: quote :: (ofChars (name.toList.flatMap escape) ++ quote :: colon ::
        (ofChars v.chars ++ (ofChars (moreEntriesChars found) ++ rest))) := by
  rw [moreEntriesChars, List.cons_append, ofChars_ascii (by decide), ofChars_append,
    List.cons_append, List.append_assoc, ofChars_entry]
  rfl

theorem closes_moreEntries (found : List (String × Value)) (rest : Bytes) :
    Closes (ofChars (moreEntriesChars found) ++ objectClose :: rest) := by
  cases found with
  | nil => exact .inr (.inr rfl)
  | cons entry found => exact .inl rfl

theorem entries_moreEntries (returns : ∀ entry ∈ found, Returns item entry.2) (rest : Bytes)
    (enough : (ofChars (moreEntriesChars found)).length < clock.length) :
    entries item clock false (ofChars (moreEntriesChars found) ++ objectClose :: rest) =
      .ok (found, rest) := by
  induction found generalizing clock with
  | nil =>
    cases clock with
    | nil => cases enough
    | cons tick clock => rfl
  | cons entry found ih =>
    obtain ⟨name, v⟩ := entry
    cases clock with
    | nil => cases enough
    | cons tick clock =>
      obtain ⟨one, returns'⟩ := List.forall_mem_cons.1 returns
      have left : (ofChars (moreEntriesChars found)).length < clock.length := by
        have length := congrArg List.length (ofChars_moreEntries name v found [])
        simp only [List.length_append, List.length_cons, List.length_nil] at length enough
        omega
      rw [ofChars_moreEntries]
      exact entries_entry one (closes_moreEntries found rest) rfl (ih returns' left)

theorem entries_entriesChars (returns : ∀ entry ∈ found, Returns item entry.2) (rest : Bytes)
    (enough : (ofChars (entriesChars found)).length < clock.length) :
    entries item (tick :: clock) true (ofChars (entriesChars found) ++ objectClose :: rest) =
      .ok (found, rest) := by
  cases found with
  | nil => rfl
  | cons entry found =>
    obtain ⟨name, v⟩ := entry
    obtain ⟨one, returns'⟩ := List.forall_mem_cons.1 returns
    rw [entriesChars, ofChars_append] at enough ⊢
    rw [List.length_append] at enough
    rw [List.append_assoc, ofChars_entry]
    exact entries_entry one (closes_moreEntries found rest) rfl
      (entries_moreEntries returns' rest (by omega))

end Objects

theorem ofChars_array (items : List Value) (rest : Bytes) :
    ofChars (Value.array items).chars ++ rest =
      listOpen :: (ofChars (itemChars items) ++ listClose :: rest) := by
  rw [Value.chars, List.cons_append, ofChars_ascii (by decide), ofChars_append, List.cons_append,
    List.append_assoc]
  rfl

theorem ofChars_object (entries : List (String × Value)) (rest : Bytes) :
    ofChars (Value.object entries).chars ++ rest =
      objectOpen :: (ofChars (entriesChars entries) ++ objectClose :: rest) := by
  rw [Value.chars, List.cons_append, ofChars_ascii (by decide), ofChars_append, List.cons_append,
    List.append_assoc]
  rfl

theorem value_chars {depth : Nat} {v : Value} (tidy : v.Tidy depth) (floatless : v.Floatless) :
    Returns (value depth) v := by
  -- By depth: the items of a list have one level less, and each is followed by what closes it.
  induction tidy with
  | @null depth => exact fun rest closes => by cases depth <;> rfl
  | @bool depth value => exact fun rest closes => by cases depth <;> cases value <;> rfl
  | @number depth value =>
    cases floatless with
    | integer n inRange => exact value_integer inRange depth
  | @string depth text =>
    intro rest _
    have read := congrArg (mapRead Value.string) (string_escaped text rest)
    change value depth (ofChars (stringText text) ++ rest) = _
    rw [ofChars_stringText, List.cons_append, List.append_assoc]
    cases depth <;> exact read
  | @array depth items each ih =>
    cases floatless with
    | array floatless =>
      intro rest _
      have returns : ∀ item ∈ items, Returns (value depth) item :=
        fun item listed => ih item listed (floatless item listed)
      rw [ofChars_array]
      exact congrArg (mapRead Value.array) (items_itemChars floatless returns rest (by simp))
  | @object depth entries ordered each ih =>
    cases floatless with
    | object floatless =>
      intro rest _
      have returns : ∀ entry ∈ entries, Returns (value depth) entry.2 :=
        fun entry listed => ih entry listed (floatless entry listed)
      rw [ofChars_object, ← ofEntries_ordered ordered]
      exact congrArg (mapRead Value.ofEntries) (entries_entriesChars returns rest (by simp))

end AttachmentFetch.Json
