import AttachmentFetch.Json.Record
import AttachmentFetch.Proofs.Json.Strings

/-! Records that are read field by field. What every field keeps holds of the whole record,
whether it was written as an object or as a list. -/
namespace AttachmentFetch.Json

open Text.Utf8 (ofChars)

namespace Shape

variable {shape : Shape α β} {field : Field α} {record next : α} {first : Bool} {tick : UInt8}
  {clock text rest : Bytes}

theorem entries_entry (shape : Shape α β) (tick : UInt8) (clock : Bytes) {name : String}
    {named named' opened : Bytes}
    (met : nextName first text = .ok (true, named)) (read : string named = .ok (name, named'))
    (known : shape.fields.find? (·.name = name) = some field) (new : field.isSet record = false)
    (past : pastColon named' = .ok opened) (valued : field.read record opened = .ok (next, rest)) :
    shape.entries (tick :: clock) first record text = shape.entries clock false next rest := by
  rw [entries, met]
  simp only [read, known, new, past, valued, Bool.false_eq_true, if_false]

theorem entries_printed (shape : Shape α β) (tick : UInt8) (clock : Bytes) {name : String}
    {opened : Bytes}
    (met : nextName first text =
      .ok (true, ofChars (name.toList.flatMap escape) ++ quote :: colon :: opened))
    (known : shape.fields.find? (·.name = name) = some field) (new : field.isSet record = false)
    (valued : field.read record opened = .ok (next, rest)) :
    shape.entries (tick :: clock) first record text = shape.entries clock false next rest :=
  shape.entries_entry tick clock met (string_escaped ..) known new rfl valued

/-- What holds of the empty record and stays when a field is read. -/
structure Keeps (shape : Shape α β) (P : α → Prop) : Prop where
  empty : P shape.empty
  field {field : Field α} (listed : field ∈ shape.fields) {record next : α} {text rest : Bytes}
    (held : P record) (read : field.read record text = .ok (next, rest)) : P next

variable {P : α → Prop}

theorem entries_cases (read : shape.entries (tick :: clock) first record text = .ok (next, rest)) :
    next = record ∨ ∃ after text',
      (after = record ∨
        ∃ field ∈ shape.fields, ∃ text, field.read record text = .ok (after, text')) ∧
      shape.entries clock false after text' = .ok (next, rest) := by
  unfold entries at read
  repeat' split at read
  all_goals try cases read
  · exact .inl rfl
  · exact .inr ⟨record, _, .inl rfl, read⟩
  · next known _ _ _ _ _ _ _ valued =>
    exact .inr ⟨_, _, .inr ⟨_, List.mem_of_find?_eq_some known, _, valued⟩, read⟩

theorem Keeps.entries (keeps : shape.Keeps P) (held : P record)
    (read : shape.entries clock first record text = .ok (next, rest)) : P next := by
  induction clock generalizing first record text with
  | nil => cases read
  | cons tick clock ih =>
    obtain rfl | ⟨after, text', step, others⟩ := entries_cases read
    · exact held
    · refine ih ?_ others
      obtain rfl | ⟨field, listed, text, valued⟩ := step
      · exact held
      · exact keeps.field listed held valued

theorem values_cons {index : Nat} {fields : List (Field α)}
    (read : shape.values index (field :: fields) record text = .ok (next, rest)) :
    ∃ text' after rest', field.read record text' = .ok (after, rest') ∧
      shape.values (index + 1) fields after rest' = .ok (next, rest) := by
  unfold values at read
  dsimp only at read
  repeat' split at read
  all_goals try cases read
  all_goals next valued => exact ⟨_, _, _, valued, read⟩

theorem Keeps.values (keeps : shape.Keeps P) {index : Nat} {fields : List (Field α)}
    (listed : ∀ field ∈ fields, field ∈ shape.fields) (held : P record)
    (read : shape.values index fields record text = .ok (next, rest)) : P next := by
  induction fields generalizing index record text with
  | nil =>
    unfold Shape.values at read
    repeat' split at read
    all_goals cases read
    exact held
  | cons field fields ih =>
    obtain ⟨here, there⟩ := List.forall_mem_cons.1 listed
    obtain ⟨text', after, rest', valued, others⟩ := values_cons read
    exact ih there (keeps.field here held valued) others

theorem of_complete {value : β} {rest' : Bytes}
    (completed : shape.complete record rest = .ok (value, rest')) :
    shape.finish record = .ok value := by
  unfold complete at completed
  split at completed
  next finished =>
    cases completed
    exact finished
  · cases completed

theorem mismatched_ne_ok {expected : String} {value : γ} :
    mismatched expected text ≠ .ok (value, rest) := by
  intro read
  unfold mismatched at read
  repeat' split at read
  all_goals cases read

theorem Keeps.read (keeps : shape.Keeps P) {value : β}
    (read : shape.read text = .ok (value, rest)) :
    ∃ record, P record ∧ shape.finish record = .ok value := by
  unfold Shape.read at read
  split at read
  · cases read
  · unfold ofList at read
    split at read
    · cases read
    next record rest' valued =>
      exact ⟨record, keeps.values (fun _ => id) keeps.empty valued, of_complete read⟩
  · unfold ofObject at read
    split at read
    · cases read
    next record rest' entered =>
      exact ⟨record, keeps.entries keeps.empty entered, of_complete read⟩
  · exact absurd read mismatched_ne_ok

end Shape

theorem of_readAll {read : Bytes → Read α} {text : Bytes} {value : α}
    (whole : readAll read text = .ok value) : ∃ rest, read text = .ok (value, rest) := by
  unfold readAll at whole
  split at whole
  · cases whole
  next held rest entered =>
    split at whole
    · cases whole
      exact ⟨rest, entered⟩
    · cases whole

end AttachmentFetch.Json
