import AttachmentFetch.Json.Reader

/-! What a value that was read is like: lists and objects nest no deeper than they may, and
the entries of every object are in the order of their names, each name once. -/
namespace AttachmentFetch.Json

section Insert
variable {name : String} {value : α} {entry : String × α} {entries : List (String × α)}

def Ordered (entries : List (String × α)) : Prop := entries.Pairwise (·.1 < ·.1)

theorem lt_of_not_lt {a b : String} (notLt : ¬a < b) (ne : a ≠ b) : b < a := by
  refine Decidable.byContradiction fun notGt => ne ?_
  exact String.le_antisymm (String.not_lt.1 notGt) (String.not_lt.1 notLt)

theorem eq_or_mem_of_insert (listed : entry ∈ insert name value entries) :
    entry = (name, value) ∨ entry ∈ entries := by
  induction entries with
  | nil => exact .inl (List.mem_singleton.1 listed)
  | cons first rest ih =>
    unfold insert at listed
    split at listed
    · exact List.mem_cons.1 listed
    split at listed
    · exact (List.mem_cons.1 listed).imp_right (List.mem_cons_of_mem _)
    · rcases List.mem_cons.1 listed with rfl | later
      · exact .inr (List.mem_cons_self ..)
      · exact (ih later).imp_right (List.mem_cons_of_mem _)

theorem Ordered.insert (ordered : Ordered entries) : Ordered (insert name value entries) := by
  induction entries with
  | nil => exact List.pairwise_singleton ..
  | cons first rest ih =>
    obtain ⟨least, others⟩ := List.pairwise_cons.1 ordered
    unfold Json.insert
    split
    next before =>
      refine List.pairwise_cons.2 ⟨fun entry listed => ?_, ordered⟩
      rcases List.mem_cons.1 listed with rfl | later
      · exact before
      · exact String.lt_trans before (least entry later)
    next notBefore =>
      split
      next same =>
        subst same
        exact List.pairwise_cons.2 ⟨least, others⟩
      next differs =>
        refine List.pairwise_cons.2 ⟨fun entry listed => ?_, ih others⟩
        rcases eq_or_mem_of_insert listed with rfl | later
        · exact lt_of_not_lt notBefore differs
        · exact least entry later

theorem insert_last (last : ∀ entry ∈ entries, entry.1 < name) :
    insert name value entries = entries ++ [(name, value)] := by
  induction entries with
  | nil => rfl
  | cons first rest ih =>
    obtain ⟨here, there⟩ := List.forall_mem_cons.1 last
    have differs : name ≠ first.1 := by
      rintro rfl
      exact String.lt_irrefl _ here
    rw [insert, if_neg (String.lt_asymm here), if_neg differs, ih there, List.cons_append]

end Insert

/-- Lists and objects nest up to `depth`, and all entries are in order. -/
inductive Value.Tidy : Nat → Value → Prop
  | null {depth} : Tidy depth .null
  | bool {depth} (value : Bool) : Tidy depth (.bool value)
  | number {depth} (value : Number) : Tidy depth (.number value)
  | string {depth} (text : String) : Tidy depth (.string text)
  | array {depth items} (each : ∀ item ∈ items, Tidy depth item) : Tidy (depth + 1) (.array items)
  | object {depth entries} (ordered : Ordered entries)
      (each : ∀ entry ∈ entries, Tidy depth entry.2) : Tidy (depth + 1) (.object entries)

section Entries
variable {entries sorted : List (String × Value)} {depth : Nat}

/-- Entries that are in order are taken as they are. -/
theorem foldl_insert_ordered (ordered : Ordered (sorted ++ entries)) :
    entries.foldl (fun sorted (name, value) => insert name value sorted) sorted =
      sorted ++ entries := by
  induction entries generalizing sorted with
  | nil => exact (List.append_nil _).symm
  | cons entry rest ih =>
    obtain ⟨name, value⟩ := entry
    have last : ∀ before ∈ sorted, before.1 < name := fun before listed =>
      (List.pairwise_append.1 ordered).2.2 before listed _ (List.mem_cons_self ..)
    have moved : sorted ++ [(name, value)] ++ rest = sorted ++ (name, value) :: rest := by
      rw [List.append_assoc, List.singleton_append]
    rw [List.foldl_cons, ← moved, ← ih (moved ▸ ordered)]
    exact congrArg (rest.foldl _) (insert_last last)

theorem ofEntries_ordered (ordered : Ordered entries) : Value.ofEntries entries = .object entries :=
  congrArg Value.object (foldl_insert_ordered ordered)

theorem foldl_insert_tidy (ordered : Ordered sorted)
    (held : ∀ entry ∈ sorted, entry.2.Tidy depth) (each : ∀ entry ∈ entries, entry.2.Tidy depth) :
    Value.Tidy (depth + 1) (.object
      (entries.foldl (fun sorted (name, value) => insert name value sorted) sorted)) := by
  induction entries generalizing sorted with
  | nil => exact .object ordered held
  | cons entry rest ih =>
    obtain ⟨here, there⟩ := List.forall_mem_cons.1 each
    refine ih ordered.insert (fun other listed => ?_) there
    rcases eq_or_mem_of_insert listed with rfl | earlier
    · exact here
    · exact held other earlier

theorem ofEntries_tidy (each : ∀ entry ∈ entries, entry.2.Tidy depth) :
    (Value.ofEntries entries).Tidy (depth + 1) :=
  foldl_insert_tidy .nil (by simp) each

end Entries

section Readers
variable {item : Bytes → Read α} {tick : UInt8} {clock text rest : Bytes} {first : Bool}

theorem items_cases {values : List α}
    (read : items item (tick :: clock) first text = .ok (values, rest)) :
    values = [] ∨ ∃ value more text' rest', values = value :: more ∧
      item text' = .ok (value, rest') ∧ items item clock false rest' = .ok (more, rest) := by
  unfold items at read
  dsimp only at read
  -- An item is read either first of all or behind a comma.
  repeat' split at read
  all_goals cases read
  · exact .inl rfl
  all_goals next others => exact .inr ⟨_, _, _, _, rfl, ‹item _ = _›, others⟩

theorem entries_cases {found : List (String × α)}
    (read : entries item (tick :: clock) first text = .ok (found, rest)) :
    found = [] ∨ ∃ name value more text' rest', found = (name, value) :: more ∧
      item text' = .ok (value, rest') ∧ entries item clock false rest' = .ok (more, rest) := by
  unfold entries at read
  repeat' split at read
  all_goals cases read
  · exact .inl rfl
  next others => exact .inr ⟨_, _, _, _, _, rfl, ‹item _ = _›, others⟩

theorem items_all {P : α → Prop}
    (one : ∀ {text value rest}, item text = .ok (value, rest) → P value) {values : List α}
    (read : items item clock first text = .ok (values, rest)) :
    ∀ value ∈ values, P value := by
  induction clock generalizing first text values with
  | nil => cases read
  | cons tick clock ih =>
    obtain rfl | ⟨value, more, text', rest', rfl, here, there⟩ := items_cases read
    · simp
    · exact List.forall_mem_cons.2 ⟨one here, ih there⟩

theorem entries_all {P : α → Prop}
    (one : ∀ {text value rest}, item text = .ok (value, rest) → P value)
    {found : List (String × α)} (read : entries item clock first text = .ok (found, rest)) :
    ∀ entry ∈ found, P entry.2 := by
  induction clock generalizing first text found with
  | nil => cases read
  | cons tick clock ih =>
    obtain rfl | ⟨name, value, more, text', rest', rfl, here, there⟩ := entries_cases read
    · simp
    · exact List.forall_mem_cons.2 ⟨one here, ih there⟩

end Readers

theorem of_mapRead {f : α → β} {read : Read α} {value : β} {rest : Bytes}
    (mapped : mapRead f read = .ok (value, rest)) :
    ∃ held, read = .ok (held, rest) ∧ f held = value := by
  rcases read with fault | ⟨held, rest'⟩
  · cases mapped
  · cases mapped
    exact ⟨held, rfl, rfl⟩

theorem of_named {letters : String} {v value : α} {text rest : Bytes}
    (read : named letters v text = .ok (value, rest)) : value = v := by
  unfold named at read
  split at read <;> cases read
  rfl

theorem scalar_tidy {text rest : Bytes} {v : Value} (read : scalar text = .ok (v, rest))
    (depth : Nat) : v.Tidy depth := by
  unfold scalar at read
  split at read
  · cases read
  · exact of_named read ▸ .null
  · exact of_named read ▸ .bool true
  · exact of_named read ▸ .bool false
  · obtain ⟨number, -, rfl⟩ := of_mapRead read
    exact .number number
  · obtain ⟨text, -, rfl⟩ := of_mapRead read
    exact .string text
  · split at read
    · obtain ⟨number, -, rfl⟩ := of_mapRead read
      exact .number number
    · cases read

theorem value_tidy {depth : Nat} {text rest : Bytes} {v : Value}
    (read : value depth text = .ok (v, rest)) : v.Tidy depth := by
  induction depth generalizing text rest v with
  | zero =>
    unfold value at read
    split at read
    · cases read
    · cases read
    · exact scalar_tidy read 0
  | succ depth ih =>
    unfold value at read
    split at read
    · obtain ⟨items, listed, rfl⟩ := of_mapRead read
      exact .array (items_all ih listed)
    · obtain ⟨entries, listed, rfl⟩ := of_mapRead read
      exact ofEntries_tidy (entries_all ih listed)
    · exact scalar_tidy read _

end AttachmentFetch.Json
