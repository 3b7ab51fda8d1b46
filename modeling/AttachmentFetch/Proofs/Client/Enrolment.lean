import AttachmentFetch.Proofs.Machine
import AttachmentFetch.Proofs.Text.Hexadecimal
import Mathlib.Algebra.Group.Nat.Defs

/-! What a registration makes of whatever database it meets. It is two calls, of which the
second may fail when the first has succeeded; even then nothing changes but that the message
is known, and what else is stored stays as it is. -/
namespace AttachmentFetch

/-- The rows of a database's tables, on which nothing befalls the calls to come. -/
structure Scene.Tabled (scene : Scene Backend) (messages : List MessageRow)
    (rows : List AttachmentRow) : Prop where
  calm : scene.rest.databaseFaults = []
  messages : scene.rest.database.messages = some messages
  attachments : scene.rest.database.attachments = some rows

def Scene.withRows (scene : Scene Backend) (messages : List MessageRow)
    (rows : List AttachmentRow) : Scene Backend :=
  let database :=
    { scene.rest.database with messages := some messages, attachments := some rows }
  { scene with rest := { scene.rest with database } }

/-- The rows of the messages once one is known that had been received before, or else is
received now. -/
def MessageRow.noted (messages : List MessageRow) (row : MessageRow) : List MessageRow :=
  if messages.any (·.id = row.id) then messages else messages ++ [row]

theorem MessageRow.mem_noted (messages : List MessageRow) (row : MessageRow) :
    ∃ other ∈ noted messages row, other.id = row.id := by
  unfold noted
  split
  next known =>
    obtain ⟨other, listed, same⟩ := List.any_eq_true.1 known
    exact ⟨other, listed, of_decide_eq_true same⟩
  next => exact ⟨row, List.mem_append_right _ (List.mem_singleton_self row), rfl⟩

structure AttachmentRow.Fresh (row : AttachmentRow) (pointer : Pointer) : Prop where
  id : row.id = pointer.id
  message : row.message = pointer.message
  pointer : row.toPointer = .ok pointer
  state : row.state = AttachmentState.pending.name
  partFile : row.partFile = none
  storedSize : row.storedSize = none

theorem AttachmentRow.fresh_of_made {pointer : Pointer} {now : Int64} {row : AttachmentRow}
    (made : ofPointer pointer now = .ok row) : row.Fresh pointer := by
  obtain ⟨-, shows, id, message⟩ := ofPointer_shows made
  refine ⟨id, message, shows.pointer, shows.state, shows.part, ?_⟩
  unfold ofPointer at made
  split at made <;> cases made
  rfl

theorem AttachmentRow.ofPointer_cases (pointer : Pointer) (now : Int64) :
    (pointer.size.toNat ≤ 2 ^ 63 - 1 ∧ ∃ row, ofPointer pointer now = .ok row) ∨
      (2 ^ 63 - 1 < pointer.size.toNat ∧ ∃ error, ofPointer pointer now = .error error) := by
  by_cases small : pointer.size.toNat < 9223372036854775808
  · obtain ⟨row, made, -⟩ := ofPointer_toPointer now small
    exact .inl ⟨by omega, row, made⟩
  · refine .inr ⟨by omega, ?_⟩
    cases made : ofPointer pointer now with
    | error error => exact ⟨error, rfl⟩
    | ok row => exact absurd (ofPointer_shows made).1 small

namespace Scene.Tabled
variable {scene : Scene Backend} {messages : List MessageRow} {rows : List AttachmentRow}
  {pointer : Pointer}

theorem withRows (tabled : scene.Tabled messages rows) (messages' : List MessageRow)
    (rows' : List AttachmentRow) : (scene.withRows messages' rows').Tabled messages' rows' :=
  ⟨tabled.calm, rfl, rfl⟩

theorem insertMessage (tabled : scene.Tabled messages rows) (message : MessageId) :
    (Repository.insertMessage message).on scene =
      (.ok (), scene.withRows (MessageRow.noted messages ⟨message, Backend.now scene⟩) rows) := by
  rw [Repository.insertMessage, Step.bind_of_ok (Step.on_get scene)]
  apply Backend.query_of_calm tabled.calm
  rw [Database.insertMessage_of_messages tabled.messages, ← tabled.attachments]
  unfold MessageRow.noted
  split
  · rw [← tabled.messages]
    rfl
  · rfl

theorem query_refused (tabled : scene.Tabled messages rows)
    {call : Database → Except ErrorChain (α × Database)}
    (refused : ∀ made, call scene.rest.database ≠ .ok made) :
    ∃ error, (Backend.query call).on scene = (.error error, scene) := by
  obtain ⟨disk, clock, log, database, faults, network⟩ := scene
  cases tabled.calm
  rw [Backend.query, Step.on_onRest]
  unfold Step.on
  dsimp only
  cases called : call database with
  | ok made => exact absurd called (refused made)
  | error error => exact ⟨error, rfl⟩

theorem insertPointer (tabled : scene.Tabled messages rows)
    (known : ∃ row ∈ messages, row.id = pointer.message) :
    ((pointer.size.toNat ≤ 2 ^ 63 - 1 ∧ ∀ row ∈ rows, row.id ≠ pointer.id) ∧
      ∃ row : AttachmentRow, row.Fresh pointer ∧ (Repository.insertPointer pointer).on scene =
        (.ok (), scene.withRows messages (rows ++ [row]))) ∨
    (¬(pointer.size.toNat ≤ 2 ^ 63 - 1 ∧ ∀ row ∈ rows, row.id ≠ pointer.id) ∧
      ∃ error, (Repository.insertPointer pointer).on scene = (.error error, scene)) := by
  rcases Operation.insertPointer_row pointer scene with ⟨error, made, same⟩ | ⟨row, made, same⟩
  · obtain ⟨_, row, made'⟩ | ⟨large, -⟩ := AttachmentRow.ofPointer_cases pointer (Backend.now scene)
    · cases made.symm.trans made'
    · exact .inr ⟨fun ⟨small, _⟩ => absurd small (Nat.not_le.2 large), error, same⟩
  · have fresh := AttachmentRow.fresh_of_made made
    have small : pointer.size.toNat ≤ 2 ^ 63 - 1 :=
      Nat.le_of_lt_succ (AttachmentRow.ofPointer_shows made).1
    by_cases new : ∀ other ∈ rows, other.id ≠ pointer.id
    · have inserted : scene.rest.database.insertAttachment row = .ok _ :=
        (Database.insertAttachment_ok_iff tabled.attachments).2
          ⟨fresh.id ▸ new, by rwa [tabled.messages, Option.getD_some, fresh.message], rfl⟩
      refine .inl ⟨⟨small, new⟩, row, fresh, same.trans ?_⟩
      apply Backend.query_of_calm tabled.calm
      rw [inserted, ← tabled.messages]
      rfl
    · refine .inr ⟨fun ⟨_, new'⟩ => new new', ?_⟩
      rw [same]
      apply tabled.query_refused
      cases refused : scene.rest.database.insertAttachment row with
      | ok after =>
        have taken := ((Database.insertAttachment_ok_iff tabled.attachments).1 refused).1
        exact absurd (fresh.id ▸ taken) new
      | error error => exact nofun

theorem findPointer_last {row : AttachmentRow} (tabled : scene.Tabled messages (rows ++ [row]))
    (fresh : row.Fresh pointer) (new : ∀ other ∈ rows, other.id ≠ pointer.id) :
    ((Repository.findPointer pointer.id).on scene).1 = .ok (some pointer) := by
  have unmet : rows.find? (·.id = pointer.id) = none := by simpa using new
  have found : scene.rest.database.findAttachment pointer.id = .ok (some row) := by
    refine Database.findAttachment_eq.2 ⟨_, tabled.attachments, ?_⟩
    rw [List.find?_append, unmet, Option.none_or, List.find?_cons_of_pos (by simp [fresh.id])]
  rw [Repository.findPointer_of_row tabled.calm found fresh.pointer]

end Scene.Tabled

/-- A registration is an error only of its pointer. Its message is known either way. -/
theorem Client.register_on {scene : Scene Backend} {messages : List MessageRow}
    {rows : List AttachmentRow} (tabled : scene.Tabled messages rows) (pointer : Pointer) :
    let known := MessageRow.noted messages ⟨pointer.message, Backend.now scene⟩
    ((pointer.size.toNat ≤ 2 ^ 63 - 1 ∧ ∀ row ∈ rows, row.id ≠ pointer.id) ∧
      ∃ row : AttachmentRow, row.Fresh pointer ∧
        (register pointer).on scene = (.ok (), scene.withRows known (rows ++ [row]))) ∨
    (¬(pointer.size.toNat ≤ 2 ^ 63 - 1 ∧ ∀ row ∈ rows, row.id ≠ pointer.id) ∧
      ∃ error, (register pointer).on scene = (.error error, scene.withRows known rows)) := by
  intro known
  rw [register, Step.bind_of_ok (tabled.insertMessage pointer.message)]
  exact (tabled.withRows known rows).insertPointer (MessageRow.mem_noted _ _)

theorem Program.run_unspelled {registration : CommandLine.Registration} {text : String}
    (given : registration.digest = some text)
    (unspelled : ∀ digest, ¬Text.Hex.Spells text digest) (config : Config) (machine : Machine) :
    ∃ error, (run config (.register registration)).on machine =
      (.error error, ((wire config).on machine).2) := by
  have unread : ∃ error, pointer registration = .error error := by
    unfold pointer
    rw [given]
    cases read : Text.Hex.decode (Text.Utf8.encode (Text.trim text)) with
    | ok digest => exact absurd (Text.Hex.decode_iff.1 read) (unspelled digest)
    | error fault => simp only [read]; exact ⟨_, rfl⟩
  obtain ⟨error, unread⟩ := unread
  rcases ready : (wire config).on machine with ⟨error' | ⟨client, place⟩, after⟩
  · exact ⟨error', by rw [run, Step.bind_of_error ready]⟩
  · refine ⟨error, ?_⟩
    rw [run, Step.bind_of_ok ready]
    dsimp only
    rw [unread, Step.bind_of_error (Step.on_reads (fun _ => .error error) after)]

/-- A registration changes only what it names, whatever the tables hold. It succeeds if the
size can be stored and no attachment has the id yet, under whatever message; then there is one
row more, from which the pointer is rebuilt, and its message is among the messages, as it was
if it was there. If it fails the attachments are as they were, and it is as good as before to
register others of the message. A digest that is not hexadecimal changes no table. -/
theorem registration_adds_only {scene : Scene Backend} {messages : List MessageRow}
    {rows : List AttachmentRow} (tabled : scene.Tabled messages rows) (pointer : Pointer) :
    let known := MessageRow.noted messages ⟨pointer.message, Backend.now scene⟩
    let registered := (Client.register pointer).on scene
    (registered.1 = .ok () ↔
      pointer.size.toNat ≤ 2 ^ 63 - 1 ∧ ∀ row ∈ rows, row.id ≠ pointer.id) ∧
    (registered.1 = .ok () → ∃ row : AttachmentRow, row.Fresh pointer ∧
      registered.2 = scene.withRows known (rows ++ [row]) ∧
      ((Repository.findPointer pointer.id).on registered.2).1 = .ok (some pointer)) ∧
    (∀ error, registered.1 = .error error → registered.2 = scene.withRows known rows ∧
      ∀ other : Pointer, other.message = pointer.message → other.size.toNat ≤ 2 ^ 63 - 1 →
        (∀ row ∈ rows, row.id ≠ other.id) →
          ((Client.register other).on registered.2).1 = .ok ()) ∧
    ∀ (machine : Machine) (config : Config) (registration : CommandLine.Registration)
      (text : String), registration.digest = some text →
      (∀ digest, ¬Text.Hex.Spells text digest) →
        let ran := (Program.run config (.register registration)).on machine
        (∃ error, ran.1 = .error error) ∧ ran.2 = ((Program.wire config).on machine).2 ∧
          machine.Retains ran.2 := by
  intro known registered
  have refused (machine : Machine) (config : Config) (registration : CommandLine.Registration)
      (text : String) (given : registration.digest = some text)
      (unspelled : ∀ digest, ¬Text.Hex.Spells text digest) :
      let ran := (Program.run config (.register registration)).on machine
      (∃ error, ran.1 = .error error) ∧ ran.2 = ((Program.wire config).on machine).2 ∧
        machine.Retains ran.2 := by
    obtain ⟨error, ran⟩ := Program.run_unspelled given unspelled config machine
    intro ran'
    rw [show ran' = _ from ran]
    exact ⟨⟨error, rfl⟩, rfl, Program.wireAt_retains _ config machine⟩
  have after (rows' : List AttachmentRow) : (scene.withRows known rows').Tabled known rows' :=
    tabled.withRows known rows'
  rcases Client.register_on tabled pointer with ⟨taken, row, fresh, ran⟩ | ⟨untaken, error, ran⟩
  · rw [show registered = _ from ran]
    refine ⟨iff_of_true rfl taken, fun _ => ⟨row, fresh, rfl, ?_⟩, nofun, refused⟩
    exact (after (rows ++ [row])).findPointer_last fresh taken.2
  · rw [show registered = _ from ran]
    refine ⟨iff_of_false nofun untaken, nofun, fun _ _ => ⟨rfl, ?_⟩, refused⟩
    intro other _ small new
    rcases Client.register_on (after rows) other with ⟨-, _, -, ran'⟩ | ⟨untaken', -⟩
    · rw [ran']
    · exact absurd ⟨small, new⟩ untaken'

/-- An attachment that is stored is registered again, for another message: that fails and
leaves it stored, the other message is known, and takes another attachment. -/
theorem registration_adds_only_again :
    let stored : AttachmentRow := ⟨⟨5⟩, ⟨10⟩, "http://h/5", 3, none, none, none, "Done",
      some "/p/10/5.bin", some 3, 7⟩
    let scene := Scene.served.withRows [⟨⟨10⟩, 7⟩] [stored]
    let after := ((Client.register ⟨⟨5⟩, ⟨11⟩, "http://h/6", 0, none, none, none⟩).on scene).2
    scene.Tabled [⟨⟨10⟩, 7⟩] [stored] ∧ after = scene.withRows [⟨⟨10⟩, 7⟩, ⟨⟨11⟩, 0⟩] [stored] ∧
      ((Client.register ⟨⟨6⟩, ⟨11⟩, "http://h/6", 0, none, none, none⟩).on after).1 = .ok () := by
  intro stored scene after
  have tabled : scene.Tabled [⟨⟨10⟩, 7⟩] [stored] := ⟨rfl, rfl, rfl⟩
  obtain ⟨accepted, -, failed, -⟩ :=
    registration_adds_only tabled ⟨⟨5⟩, ⟨11⟩, "http://h/6", 0, none, none, none⟩
  have untaken : ((Client.register ⟨⟨5⟩, ⟨11⟩, "http://h/6", 0, none, none, none⟩).on
      scene).1 ≠ .ok () := fun ran =>
    (accepted.1 ran).2 stored (List.mem_singleton_self stored) rfl
  cases result : ((Client.register ⟨⟨5⟩, ⟨11⟩, "http://h/6", 0, none, none, none⟩).on scene).1 with
  | ok => exact absurd result untaken
  | error error =>
    obtain ⟨kept, others⟩ := failed error result
    have noted : MessageRow.noted [⟨⟨10⟩, 7⟩] ⟨⟨11⟩, Backend.now scene⟩ =
        [⟨⟨10⟩, 7⟩, ⟨⟨11⟩, 0⟩] := by decide
    exact ⟨tabled, noted ▸ kept, others _ rfl (by decide) (by decide)⟩

end AttachmentFetch
