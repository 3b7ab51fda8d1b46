import AttachmentFetch.Machine
import AttachmentFetch.Proofs.Store.Working
import Mathlib.Algebra.Group.Nat.Defs
import Mathlib.Data.List.Induction
import Mathlib.Data.List.Nodup

/-! The repository as a ledger: a map from ids to what is held of an attachment. Whatever is
asked of it, in whatever order and with the database closed and opened again in between, it
answers as that map does, and the map is what the successful operations have made it. -/
namespace AttachmentFetch

structure Holding where
  pointer : Pointer
  state : AttachmentState := .pending
  part : Option String := none
  deriving DecidableEq, Repr

structure Ledger where
  registered : MessageId → Prop
  holding : AttachmentId → Option Holding

/-- What others may ask of a repository that changes something. -/
inductive Operation where
  | insertMessage (message : MessageId)
  | insertPointer (pointer : Pointer)
  | setState (state : AttachmentState) (attachment : AttachmentId) (message : MessageId)
  | insertContent (message : MessageId) (attachment : AttachmentId) (content : Content)

namespace Operation

def perform (repository : Repository) : Operation → Step (Scene Backend) ErrorChain Unit
  | insertMessage message => Repository.insertMessage message
  | insertPointer pointer => Repository.insertPointer pointer
  | setState state attachment message => Repository.setState state attachment message
  | insertContent message attachment content =>
    repository.insertContent message attachment content

def names? : Operation → Option (AttachmentId × MessageId)
  | insertMessage _ | insertPointer _ => none
  | setState _ attachment message | insertContent message attachment _ =>
    some (attachment, message)

def state? : Operation → Option AttachmentState
  | insertMessage _ | insertPointer _ => none
  | setState state _ _ => some state
  | insertContent _ _ _ => some .done

def stores (id : AttachmentId) : Operation → Bool
  | insertContent _ attachment _ => attachment = id
  | _ => false

end Operation

namespace Ledger

def empty : Ledger := ⟨fun _ => False, fun _ => none⟩

def revise (ledger : Ledger) (attachment : AttachmentId) (message : MessageId)
    (change : Holding → Holding) : Ledger :=
  { ledger with holding := fun id => (ledger.holding id).map fun held =>
      if id = attachment ∧ held.pointer.message = message then change held else held }

/-- What a successful operation makes of a ledger. -/
def note (repository : Repository) (ledger : Ledger) : Operation → Ledger
  | .insertMessage message =>
    { ledger with registered := fun other => other = message ∨ ledger.registered other }
  | .insertPointer pointer =>
    { ledger with holding := fun id => if id = pointer.id then some { pointer }
        else ledger.holding id }
  | .setState state attachment message => ledger.revise attachment message ({ · with state })
  | .insertContent message attachment _ => ledger.revise attachment message
      ({ · with state := .done, part := some (repository.partFile message attachment) })

def after (repository : Repository) (history : List Operation) : Ledger :=
  history.foldl (note repository) empty

end Ledger

/-- A scene in which a repository has been used since its database was empty, and the
operations on it that have succeeded. Nobody else has changed the database. -/
inductive Recorded (repository : Repository) : Scene Backend → List Operation → Prop where
  | start {scene : Scene Backend} (fresh : Database.migrate {} = .ok scene.rest.database) :
    Recorded repository scene []
  | succeeded {scene after : Scene Backend} {history : List Operation} {operation : Operation}
    (recorded : Recorded repository scene history)
    (ran : (operation.perform repository).on scene = (.ok (), after)) :
    Recorded repository after (history ++ [operation])
  | failed {scene after : Scene Backend} {history : List Operation} {operation : Operation}
    {error : ErrorChain} (recorded : Recorded repository scene history)
    (ran : (operation.perform repository).on scene = (.error error, after)) :
    Recorded repository after history
  /-- The program has ended and the database is opened again, on whatever machine has it. -/
  | reopened {scene : Scene Backend} {history : List Operation} {machine next : Machine}
    {place : Place} {path : String} (recorded : Recorded repository scene history)
    (kept : machine.database? place = some scene.rest.database)
    (opened : (Machine.openDatabase path).on machine = (.ok place, next)) :
    Recorded repository (next.scene place) history
  /-- Anything else happens: reads, time, a network that comes or goes, calls that are to fail. -/
  | elsewhere {scene after : Scene Backend} {history : List Operation}
    (recorded : Recorded repository scene history)
    (database : after.rest.database = scene.rest.database) :
    Recorded repository after history

/-- The row of an attachment shows what is held of it. -/
structure AttachmentRow.Shows (row : AttachmentRow) (held : Holding) : Prop where
  pointer : row.toPointer = .ok held.pointer
  state : row.state = held.state.name
  part : row.partFile = held.part

/-- The tables show what the ledger does. -/
structure Database.Shows (db : Database) (ledger : Ledger) : Prop where
  migrated : db.migrated = true
  messages : ∃ rows, db.messages = some rows ∧
    ∀ message, ledger.registered message ↔ ∃ row ∈ rows, row.id = message
  attachments : ∃ rows, db.attachments = some rows ∧ (rows.map (·.id)).Nodup ∧
    ∀ id, Option.Rel AttachmentRow.Shows (rows.find? (·.id = id)) (ledger.holding id)

namespace AttachmentRow
variable {row : AttachmentRow} {pointer : Pointer} {held : Holding}

theorem toPointer_names (h : row.toPointer = .ok pointer) :
    pointer.id = row.id ∧ pointer.message = row.message := by
  unfold toPointer at h
  split at h <;> cases h
  exact ⟨rfl, rfl⟩

theorem ofPointer_shows {now : Int64} (h : ofPointer pointer now = .ok row) :
    pointer.size.toNat < 9223372036854775808 ∧ row.Shows { pointer } ∧ row.id = pointer.id ∧
      row.message = pointer.message := by
  have small : pointer.size.toNat < 9223372036854775808 := by
    by_contra large
    have unfit : int64? pointer.size.toNat = none := if_neg large
    rw [ofPointer, unfit] at h
    cases h
  obtain ⟨row', made, pointed, id_eq, message_eq⟩ := ofPointer_toPointer now small
  obtain rfl : row = row' := Except.ok.inj (h.symm.trans made)
  refine ⟨small, ⟨pointed, ofPointer_pending h, ?_⟩, id_eq, message_eq⟩
  unfold ofPointer at h
  split at h <;> cases h
  rfl

end AttachmentRow

namespace Database
variable {db after : Database} {id attachment : AttachmentId} {message : MessageId}
  {rows : List AttachmentRow} {row : AttachmentRow} {ledger : Ledger} {held : Holding}

theorem insertMessage_of_messages {rows : List MessageRow} (tables : db.messages = some rows)
    (row : MessageRow) :
    db.insertMessage row = .ok (if rows.any (·.id = row.id) then db
      else { db with messages := some (rows ++ [row]) }) := by
  rw [insertMessage, messageRows, tables]
  rfl

theorem find_of_mem (different : (rows.map (·.id)).Nodup) (listed : row ∈ rows) :
    rows.find? (·.id = row.id) = some row := by
  cases found : rows.find? (·.id = row.id) with
  | none => exact absurd (List.find?_eq_none.1 found row listed) (by simp)
  | some other =>
    have same : other.id = row.id := by simpa using List.find?_some found
    exact congrArg some (List.inj_on_of_nodup_map different (List.mem_of_find?_eq_some found)
      listed same)

theorem Shows.held_of_mem (shows : db.Shows ledger) (tables : db.attachments = some rows)
    (listed : row ∈ rows) : ∃ held, ledger.holding row.id = some held ∧ row.Shows held := by
  obtain ⟨rows', tables', different, same⟩ := shows.attachments
  obtain rfl : rows = rows' := Option.some.inj (tables.symm.trans tables')
  have same := same row.id
  rw [find_of_mem different listed] at same
  cases held : ledger.holding row.id with
  | none =>
    rw [held] at same
    cases same
  | some held' =>
    rw [held] at same
    cases same with
    | some shows => exact ⟨held', rfl, shows⟩

theorem Shows.any_iff (shows : db.Shows ledger) (tables : db.attachments = some rows) :
    (∃ row ∈ rows, row.id = attachment ∧ row.message = message) ↔
      ∃ held, ledger.holding attachment = some held ∧ held.pointer.message = message := by
  constructor
  · rintro ⟨row, listed, rfl, rfl⟩
    obtain ⟨held, holding, shows⟩ := shows.held_of_mem tables listed
    exact ⟨held, holding, (AttachmentRow.toPointer_names shows.pointer).2⟩
  · rintro ⟨held, holding, rfl⟩
    obtain ⟨rows', tables', -, same⟩ := shows.attachments
    obtain rfl : rows = rows' := Option.some.inj (tables.symm.trans tables')
    have same := same attachment
    rw [holding] at same
    generalize found : rows.find? (·.id = attachment) = found at same
    cases same with
    | some shows =>
      refine ⟨_, List.mem_of_find?_eq_some found, by simpa using List.find?_some found, ?_⟩
      exact (AttachmentRow.toPointer_names shows.pointer).2.symm

theorem Shows.updated (shows : db.Shows ledger) {count : Nat}
    {change : AttachmentRow → AttachmentRow} {change' : Holding → Holding}
    (updated : db.updateAttachment attachment message change = .ok (count, after))
    (sameId : ∀ row, (change row).id = row.id)
    (agree : ∀ row held, row.Shows held → (change row).Shows (change' held)) :
    after.Shows (ledger.revise attachment message change') := by
  obtain ⟨rows, tables, different, same⟩ := shows.attachments
  obtain ⟨rows', tables', rfl, -⟩ := updateAttachment_ok updated
  obtain rfl : rows = rows' := Option.some.inj (tables.symm.trans tables')
  have keepsId : ∀ row, (revise attachment message change row).id = row.id := by
    intro row
    unfold revise
    split
    · exact sameId row
    · rfl
  refine ⟨shows.migrated, shows.messages, _, rfl, ?_, fun id => ?_⟩
  · rw [List.map_map]
    exact (List.map_congr_left fun row _ => keepsId row) ▸ different
  · rw [find_revised sameId]
    have same := same id
    generalize found : rows.find? (·.id = id) = row? at same
    unfold Ledger.revise
    dsimp only
    generalize ledger.holding id = held? at same
    cases same with
    | none => exact .none
    | @some row held shows =>
      have id_eq : row.id = id := by simpa using List.find?_some found
      have names := AttachmentRow.toPointer_names shows.pointer
      refine .some ?_
      change AttachmentRow.Shows _
        (if id = attachment ∧ held.pointer.message = message then change' held else held)
      rw [revise, id_eq, ← names.2]
      split
      · exact agree row held shows
      · exact shows

theorem insertAttachment_ok_iff (tables : db.attachments = some rows) :
    db.insertAttachment row = .ok after ↔
      (∀ other ∈ rows, other.id ≠ row.id) ∧
        (∃ message ∈ db.messages.getD [], message.id = row.message) ∧
        after = { db with attachments := some (rows ++ [row]) } := by
  unfold insertAttachment attachmentRows
  simp only [tables, bind, Except.bind, pure, Except.pure]
  by_cases new : rows.any (·.id = row.id) = true
  · rw [if_pos new]
    refine ⟨nofun, fun ⟨fresh, _⟩ => ?_⟩
    obtain ⟨other, listed, same⟩ := List.any_eq_true.1 new
    exact absurd (of_decide_eq_true same) (fresh other listed)
  · rw [if_neg new]
    have fresh : ∀ other ∈ rows, other.id ≠ row.id := by simpa using new
    by_cases known : (db.messages.getD []).any (·.id = row.message) = true
    · rw [if_neg (by simp [known])]
      refine ⟨fun h => ⟨fresh, by simpa using known, (Except.ok.inj h).symm⟩, ?_⟩
      rintro ⟨-, -, rfl⟩
      rfl
    · rw [if_pos (by simpa using known)]
      exact ⟨nofun, fun ⟨_, message, _⟩ => absurd message (by simpa using known)⟩

theorem Shows.find_isNone (shows : db.Shows ledger) (tables : db.attachments = some rows)
    (id : AttachmentId) : (∀ row ∈ rows, row.id ≠ id) ↔ ledger.holding id = none := by
  obtain ⟨rows', tables', -, same⟩ := shows.attachments
  obtain rfl : rows = rows' := Option.some.inj (tables.symm.trans tables')
  have same := same id
  generalize found : rows.find? (·.id = id) = row? at same
  cases same' : ledger.holding id with
  | none =>
    rw [same'] at same
    cases same
    exact ⟨fun _ => rfl, fun _ => by simpa using found⟩
  | some held =>
    rw [same'] at same
    cases same
    refine ⟨fun none => ?_, nofun⟩
    have met := List.find?_some found
    exact absurd (of_decide_eq_true met) (none _ (List.mem_of_find?_eq_some found))

theorem Shows.insertAttachment_iff (shows : db.Shows ledger) (row : AttachmentRow) :
    (∃ after, db.insertAttachment row = .ok after) ↔
      ledger.registered row.message ∧ ledger.holding row.id = none := by
  obtain ⟨rows, tables, -⟩ := shows.attachments
  obtain ⟨messages, tables', known⟩ := shows.messages
  rw [known, ← shows.find_isNone tables]
  constructor
  · rintro ⟨after, inserted⟩
    obtain ⟨new, listed, -⟩ := (insertAttachment_ok_iff tables).1 inserted
    rw [tables'] at listed
    exact ⟨listed, new⟩
  · rintro ⟨listed, new⟩
    exact ⟨_, (insertAttachment_ok_iff tables).2 ⟨new, by rwa [tables'], rfl⟩⟩

theorem Shows.inserted (shows : db.Shows ledger) {pointer : Pointer}
    (inserted : db.insertAttachment row = .ok after) (made : row.Shows { pointer })
    (repository : Repository) : after.Shows (ledger.note repository (.insertPointer pointer)) := by
  obtain ⟨rows, tables, different, same⟩ := shows.attachments
  obtain ⟨new, -, rfl⟩ := (insertAttachment_ok_iff tables).1 inserted
  have names : pointer.id = row.id ∧ pointer.message = row.message :=
    AttachmentRow.toPointer_names made.pointer
  refine ⟨shows.migrated, shows.messages, _, rfl, ?_, fun id => ?_⟩
  · rw [List.map_append, List.nodup_append]
    refine ⟨different, List.nodup_singleton _, ?_⟩
    rintro _ listed _ last rfl
    obtain ⟨other, listed, same⟩ := List.mem_map.1 listed
    exact new other listed (same.trans (List.mem_singleton.1 last))
  · have same := same id
    have fresh : id = pointer.id → rows.find? (·.id = id) = none := by
      rintro rfl
      rw [names.1]
      simpa using new
    rw [List.find?_append]
    change Option.Rel _ _ (if id = pointer.id then some { pointer } else ledger.holding id)
    split
    next own =>
      rw [fresh own, Option.none_or, List.find?_cons_of_pos (by simp [own, names.1])]
      exact .some made
    next other =>
      have away : ¬(row.id = id) := fun same => other (same.symm.trans names.1.symm)
      rwa [List.find?_cons_of_neg (by simpa using away), List.find?_nil, Option.or_none]

theorem Shows.insertMessage (shows : db.Shows ledger) {row : MessageRow}
    (inserted : db.insertMessage row = .ok after) (repository : Repository) :
    after.Shows (ledger.note repository (.insertMessage row.id)) := by
  obtain ⟨rows, tables, known⟩ := shows.messages
  rw [insertMessage_of_messages tables] at inserted
  obtain rfl := Except.ok.inj inserted
  split
  next there =>
    refine ⟨shows.migrated, ⟨rows, tables, fun message => ?_⟩, shows.attachments⟩
    obtain ⟨other, listed, same⟩ := List.any_eq_true.1 there
    refine (or_congr_right (known message)).trans (or_iff_right_of_imp ?_)
    rintro rfl
    exact ⟨other, listed, of_decide_eq_true same⟩
  next =>
    refine ⟨shows.migrated, ⟨_, rfl, fun message => ?_⟩, shows.attachments⟩
    refine (or_congr_right (known message)).trans ?_
    simp only [List.mem_append, List.mem_singleton, or_and_right, exists_or, exists_eq_left]
    rw [or_comm, @eq_comm _ message]

end Database

namespace Operation
variable {repository : Repository} {ledger : Ledger} {scene after : Scene Backend}

/-- What the ledger shows where an operation succeeds. -/
def Permitted (ledger : Ledger) : Operation → Prop
  | insertPointer pointer => pointer.size.toNat < 9223372036854775808 ∧
      ledger.registered pointer.message ∧ ledger.holding pointer.id = none
  | insertContent message attachment _ =>
      ∃ held, ledger.holding attachment = some held ∧ held.pointer.message = message
  | insertMessage _ | setState _ _ _ => True

theorem insertPointer_row (pointer : Pointer) (scene : Scene Backend) :
    (∃ error, AttachmentRow.ofPointer pointer (Backend.now scene) = .error error ∧
      (Repository.insertPointer pointer).on scene = (.error error, scene)) ∨
    ∃ row, AttachmentRow.ofPointer pointer (Backend.now scene) = .ok row ∧
      (Repository.insertPointer pointer).on scene = (Backend.query fun db =>
        inContext s!"failed to insert attachment {pointer.id} of message {pointer.message}"
          (((db.insertAttachment row).mapError DatabaseError.chain).map ((), ·))).on scene := by
  rw [Repository.insertPointer, Step.bind_of_ok (Step.on_get scene)]
  dsimp only
  cases made : AttachmentRow.ofPointer pointer (Backend.now scene) with
  | error error =>
    rw [Step.bind_of_error (Step.on_reads (fun _ => Except.error error) scene)]
    exact .inl ⟨error, rfl, rfl⟩
  | ok row =>
    rw [Step.bind_of_ok (Step.on_reads (fun _ => Except.ok row) scene)]
    exact .inr ⟨row, rfl, rfl⟩

theorem failed_database {operation : Operation} {error : ErrorChain}
    (ran : (operation.perform repository).on scene = (.error error, after)) :
    after.rest.database = scene.rest.database := by
  cases operation with
  | insertMessage message =>
    rw [perform, Repository.insertMessage, Step.bind_of_ok (Step.on_get scene)] at ran
    exact (Backend.query_error ran).1
  | insertPointer pointer =>
    rw [perform] at ran
    rcases insertPointer_row pointer scene with ⟨_, -, same⟩ | ⟨row, -, same⟩ <;> rw [same] at ran
    · cases ran
      rfl
    · exact (Backend.query_error ran).1
  | setState state attachment message => exact (Repository.setState_error ran).database
  | insertContent message attachment content => exact (Repository.insertContent_error ran).1

theorem succeeded_database {operation : Operation} (shows : scene.rest.database.Shows ledger)
    (ran : (operation.perform repository).on scene = (.ok (), after)) :
    operation.Permitted ledger ∧
      after.rest.database.Shows (ledger.note repository operation) := by
  cases operation with
  | insertMessage message =>
    rw [perform, Repository.insertMessage, Step.bind_of_ok (Step.on_get scene)] at ran
    obtain ⟨inserted, -⟩ := Repository.recorded_ok ran
    exact ⟨trivial, shows.insertMessage inserted repository⟩
  | insertPointer pointer =>
    rw [perform] at ran
    rcases insertPointer_row pointer scene with ⟨_, -, same⟩ | ⟨row, made, same⟩ <;>
      rw [same] at ran
    · cases ran
    obtain ⟨inserted, -⟩ := Repository.recorded_ok ran
    obtain ⟨small, rowShows, id_eq, message_eq⟩ := AttachmentRow.ofPointer_shows made
    obtain ⟨known, new⟩ := (shows.insertAttachment_iff row).1 ⟨_, inserted⟩
    rw [id_eq] at new
    rw [message_eq] at known
    exact ⟨⟨small, known, new⟩, shows.inserted inserted rowShows repository⟩
  | setState state attachment message =>
    obtain ⟨count, updated, -⟩ := Repository.setState_ok ran
    refine ⟨trivial, shows.updated updated (fun _ => rfl) fun row held shows => ?_⟩
    exact ⟨shows.pointer, rfl, shows.part⟩
  | insertContent message attachment content =>
    obtain ⟨-, -, ⟨stored, now, count, -, positive, updated⟩, -⟩ :=
      Repository.insertContent_ok ran
    obtain ⟨rows, tables, -, noted⟩ := Database.updateAttachment_ok updated
    refine ⟨(shows.any_iff tables).1 (noted positive), ?_⟩
    refine shows.updated updated (fun _ => rfl) fun row held shows => ?_
    exact ⟨shows.pointer, rfl, rfl⟩

theorem refused_sameStore {operation : Operation} {attachment : AttachmentId}
    {message : MessageId} (shows : scene.rest.database.Shows ledger)
    (names : operation.names? = some (attachment, message))
    (foreign : ∀ held, ledger.holding attachment = some held → held.pointer.message ≠ message) :
    scene.SameStore ((operation.perform repository).on scene).2 := by
  obtain ⟨rows, tables, -⟩ := shows.attachments
  have unowned : ¬∃ row ∈ rows, row.id = attachment ∧ row.message = message := by
    rw [shows.any_iff tables]
    rintro ⟨held, holding, same⟩
    exact foreign held holding same
  cases operation with
  | insertMessage _ => cases names
  | insertPointer _ => cases names
  | setState state attachment message =>
    cases names
    exact Repository.setState_unowned tables unowned state
  | insertContent message attachment content =>
    cases names
    obtain ⟨error, after, refused, same⟩ :=
      repository.insertContent_unowned tables unowned content
    rw [perform, refused]
    exact same

end Operation

namespace Machine
variable {machine next : Machine} {place : Place} {path : String} {database : Database}

theorem database?_keep (kept : machine.database? place = some database) (other : Database) :
    (machine.keep place other).database? place = some other := by
  unfold database? at kept ⊢
  unfold keep
  dsimp only
  split at kept
  next => simp
  next => cases kept

theorem migrate_again (kept : machine.database? place = some database)
    (migrated : database.migrated = true) :
    (migrate place).on machine = (.ok (), machine.keep place database) := by
  rw [migrate, Step.bind_of_ok (Step.on_get machine), kept]
  dsimp only
  rw [Database.migrate, if_pos migrated]
  rfl

theorem databasePlace_kept (found : (databasePlace path).on machine = (.ok place, next))
    (kept : machine.database? place = some database) : next = machine := by
  rw [databasePlace, Step.bind_of_ok (Step.on_get machine)] at found
  split at found
  · obtain ⟨made, middle, creating, found⟩ := Step.bind_ok found
    have creating := Step.mapError_ok creating
    rw [onDisk, Step.on_within] at creating
    rcases new : (Disk.createNew path).on machine.disk with ⟨result, disk⟩
    rw [new] at creating
    cases creating
    obtain ⟨_, _, -, ended⟩ := Step.bind_ok found
    cases ended
    obtain ⟨-, nothing, -⟩ := Disk.createNew_ok new
    rw [database?, nothing] at kept
    cases kept
  · rw [Step.on_reads] at found
    exact (congrArg Prod.snd found).symm
  · cases found

theorem openDatabase_kept (kept : machine.database? place = some database)
    (migrated : database.migrated = true)
    (opened : (openDatabase path).on machine = (.ok place, next)) :
    (next.scene place).rest.database = database := by
  obtain ⟨found, middle, placed, opened⟩ := Step.bind_ok (Step.mapError_ok opened)
  obtain ⟨_, last, migrating, ended⟩ := Step.bind_ok opened
  cases ended
  obtain rfl := databasePlace_kept placed kept
  rw [migrate_again kept migrated] at migrating
  cases migrating
  rw [scene, database?_keep kept]
  rfl

end Machine

section Recorded
variable {repository : Repository} {scene : Scene Backend} {history : List Operation}

theorem Ledger.after_concat (repository : Repository) (history : List Operation)
    (operation : Operation) :
    after repository (history ++ [operation]) = (after repository history).note repository
      operation := by
  rw [after, List.foldl_append]
  rfl

theorem Recorded.shows (recorded : Recorded repository scene history) :
    scene.rest.database.Shows (Ledger.after repository history) := by
  induction recorded with
  | start fresh =>
    rw [← Except.ok.inj fresh]
    exact ⟨rfl, ⟨[], rfl, by simp [Ledger.after, Ledger.empty]⟩, [], rfl, .nil, fun _ => .none⟩
  | succeeded _ ran ih =>
    rw [Ledger.after_concat]
    exact (Operation.succeeded_database ih ran).2
  | failed _ ran ih =>
    rw [Operation.failed_database ran]
    exact ih
  | reopened _ kept opened ih =>
    rw [Machine.openDatabase_kept kept ih.migrated opened]
    exact ih
  | elsewhere _ database ih =>
    rw [database]
    exact ih

end Recorded

section Answers
variable {ledger : Ledger} {scene : Scene Backend}

theorem Database.Shows.findRow (shows : scene.rest.database.Shows ledger)
    (spared : Backend.Spared scene) (id : AttachmentId) :
    ∃ row middle, (Repository.findRow id).on scene = (.ok row, middle) ∧
      Option.Rel AttachmentRow.Shows row (ledger.holding id) := by
  obtain ⟨rows, tables, -, same⟩ := shows.attachments
  have answered := Backend.query_of_spared spared (fun db =>
    ((db.findAttachment id).mapError DatabaseError.chain).map (·, db))
  rw [findAttachment, attachmentRows, tables] at answered
  exact ⟨_, _, Prod.ext answered rfl, same id⟩

theorem Database.Shows.answers (shows : scene.rest.database.Shows ledger)
    (spared : Backend.Spared scene) (id : AttachmentId) :
    ((Repository.findPointer id).on scene).1 = .ok ((ledger.holding id).map Holding.pointer) ∧
      ((Repository.findState id).on scene).1 = .ok ((ledger.holding id).map Holding.state) ∧
      ((Repository.findPart id).on scene).1 = .ok ((ledger.holding id).bind Holding.part) := by
  obtain ⟨row, middle, found, same⟩ := shows.findRow spared id
  rw [Repository.findPointer, Step.on_mapError, Repository.findState, Repository.findPart,
    Step.bind_of_ok found, Step.bind_of_ok found, Step.bind_of_ok found]
  generalize ledger.holding id = held at same
  cases same with
  | none => exact ⟨rfl, rfl, rfl⟩
  | @some row held shows =>
    dsimp only
    rw [Step.bind_of_ok (Step.on_reads (fun _ => row.toPointer) middle |>.trans
      (congrArg (·, middle) shows.pointer)), shows.state, AttachmentState.ofName?_name]
    exact ⟨rfl, rfl, congrArg Except.ok shows.part⟩

theorem Database.Shows.insertPointer_iff (shows : scene.rest.database.Shows ledger)
    (spared : Backend.Spared scene) (pointer : Pointer) :
    ((Repository.insertPointer pointer).on scene).1 = .ok () ↔
      pointer.size.toNat < 9223372036854775808 ∧ ledger.registered pointer.message ∧
        ledger.holding pointer.id = none := by
  rcases Operation.insertPointer_row pointer scene with
    ⟨error, made, same⟩ | ⟨row, made, same⟩ <;> rw [same]
  · refine ⟨nofun, fun ⟨small, _⟩ => ?_⟩
    obtain ⟨row, made', -⟩ := AttachmentRow.ofPointer_toPointer (Backend.now scene) small
    rw [made] at made'
    cases made'
  · obtain ⟨small, -, id_eq, message_eq⟩ := AttachmentRow.ofPointer_shows made
    rw [Backend.query_of_spared spared, ← id_eq, ← message_eq, ← shows.insertAttachment_iff,
      and_iff_right small]
    cases scene.rest.database.insertAttachment row with
    | error error => exact ⟨nofun, nofun⟩
    | ok after => exact ⟨fun _ => ⟨after, rfl⟩, fun _ => rfl⟩

end Answers

def Operation.writes (id : AttachmentId) (message : MessageId) (operation : Operation) :
    Option AttachmentState :=
  if operation.names? = some (id, message) then operation.state? else none

/-- What the successful operations tell of an attachment. -/
inductive Holding.Told (repository : Repository) (history : List Operation) (id : AttachmentId) :
    Option Holding → Prop where
  | unknown (unregistered : ∀ pointer, .insertPointer pointer ∈ history → pointer.id ≠ id)
    (unstored : history.any (Operation.stores id) = false) : Told repository history id none
  /-- There is one registration of it; what has been written since then counts. -/
  | known {held : Holding} (earlier later : List Operation)
    (registered : history = earlier ++ .insertPointer held.pointer :: later)
    (id_eq : held.pointer.id = id)
    (once : ∀ pointer, .insertPointer pointer ∈ earlier ++ later → pointer.id ≠ id)
    (state : held.state = ((later.filterMap
      (Operation.writes id held.pointer.message)).getLast?).getD .pending)
    (part : held.part = if history.any (Operation.stores id)
      then some (repository.partFile held.pointer.message id) else none) :
    Told repository history id (some held)

section Told
variable {repository : Repository} {history : List Operation} {id : AttachmentId}
  {operation : Operation} {held held' : Holding}

namespace Holding.Told

theorem absent (told : Told repository history id none)
    (other : ∀ pointer, operation = .insertPointer pointer → pointer.id ≠ id)
    (unstored : operation.stores id = false) :
    Told repository (history ++ [operation]) id none := by
  cases told with
  | unknown unregistered unstored' =>
    refine .unknown (fun pointer listed => ?_) (by simp [List.any_append, unstored, unstored'])
    rcases List.mem_append.1 listed with listed | last
    · exact unregistered pointer listed
    · exact other pointer (List.mem_singleton.1 last).symm

theorem begun {pointer : Pointer} (told : Told repository history pointer.id none) :
    Told repository (history ++ [.insertPointer pointer]) pointer.id (some { pointer }) := by
  cases told with
  | unknown unregistered unstored =>
    refine .known history [] rfl rfl (by simpa using unregistered) rfl ?_
    rw [List.any_append, unstored]
    rfl

theorem goesOn (told : Told repository history id (some held))
    (pointer : held'.pointer = held.pointer)
    (state : held'.state = (operation.writes id held.pointer.message).getD held.state)
    (part : held'.part = if operation.stores id
      then some (repository.partFile held.pointer.message id) else held.part)
    (other : ∀ pointer, operation = .insertPointer pointer → pointer.id ≠ id) :
    Told repository (history ++ [operation]) id (some held') := by
  cases told with
  | known earlier later registered id_eq once state' part' =>
    rw [← pointer] at *
    refine .known earlier (later ++ [operation]) (by simp [registered]) id_eq ?_ ?_ ?_
    · intro pointer listed
      rw [← List.append_assoc] at listed
      rcases List.mem_append.1 listed with listed | last
      · exact once pointer listed
      · exact other pointer (List.mem_singleton.1 last).symm
    · rw [state, state', List.filterMap_append, List.getLast?_append]
      cases written : operation.writes id held'.pointer.message <;> simp [written]
    · rw [part, part', List.any_append, List.any_cons, List.any_nil, Bool.or_false]
      cases history.any (Operation.stores id) <;> cases operation.stores id <;> rfl

end Holding.Told

theorem Operation.writes_own {operation : Operation} {attachment : AttachmentId}
    {message : MessageId} (names : operation.names? = some (attachment, message)) :
    operation.writes attachment message = operation.state? :=
  if_pos names

theorem Operation.writes_of_names {operation : Operation} {attachment : AttachmentId}
    {message : MessageId} (names : operation.names? = some (attachment, message))
    {id : AttachmentId} {owner : MessageId} (other : ¬(id = attachment ∧ owner = message)) :
    operation.writes id owner = none := by
  rw [writes, names]
  refine if_neg fun same => other ?_
  obtain ⟨rfl, rfl⟩ := Prod.mk.inj (Option.some.inj same)
  exact ⟨rfl, rfl⟩

/-- An operation that the ledger permits is told of as the ledger takes note of it. -/
theorem Ledger.note_told {ledger : Ledger} (permitted : operation.Permitted ledger)
    (told : Holding.Told repository history id (ledger.holding id)) :
    Holding.Told repository (history ++ [operation]) id
      ((ledger.note repository operation).holding id) := by
  cases operation with
  | insertMessage message =>
    change Holding.Told repository _ id (ledger.holding id)
    cases holding : ledger.holding id with
    | none => exact (holding ▸ told).absent nofun rfl
    | some held => exact (holding ▸ told).goesOn rfl rfl rfl nofun
  | insertPointer pointer =>
    change Holding.Told repository _ id (if id = pointer.id then some { pointer }
      else ledger.holding id)
    split
    next own =>
      subst own
      rw [permitted.2.2] at told
      exact told.begun
    next other =>
      have other : ∀ pointer', Operation.insertPointer pointer = .insertPointer pointer' →
          pointer'.id ≠ id := by
        rintro _ ⟨⟩ same
        exact other same.symm
      cases holding : ledger.holding id with
      | none => exact (holding ▸ told).absent other rfl
      | some held => exact (holding ▸ told).goesOn rfl rfl rfl other
  | setState state attachment message =>
    change Holding.Told repository _ id ((ledger.holding id).map _)
    cases holding : ledger.holding id with
    | none => exact (holding ▸ told).absent nofun rfl
    | some held =>
      rw [holding] at told
      rw [Option.map_some]
      split
      next own =>
        obtain ⟨rfl, rfl⟩ := own
        exact told.goesOn rfl (by rw [Operation.writes_own rfl]; rfl) rfl nofun
      next other =>
        exact told.goesOn rfl (by rw [Operation.writes_of_names rfl other]; rfl) rfl nofun
  | insertContent message attachment content =>
    change Holding.Told repository _ id ((ledger.holding id).map _)
    obtain ⟨owner, owned, rfl⟩ := permitted
    cases holding : ledger.holding id with
    | none =>
      have away : attachment ≠ id := by
        rintro rfl
        rw [holding] at owned
        cases owned
      exact (holding ▸ told).absent nofun (decide_eq_false away)
    | some held =>
      rw [holding] at told
      rw [Option.map_some]
      split
      next own =>
        obtain ⟨rfl, same⟩ := own
        refine told.goesOn rfl (by rw [same, Operation.writes_own rfl]; rfl) ?_ nofun
        rw [same]
        exact (if_pos (decide_eq_true rfl)).symm
      next other =>
        have away : attachment ≠ id := by
          rintro rfl
          rw [holding] at owned
          cases owned
          exact other ⟨rfl, rfl⟩
        refine told.goesOn rfl (by rw [Operation.writes_of_names rfl other]; rfl) ?_ nofun
        exact (if_neg (by simpa [Operation.stores] using away)).symm

end Told

theorem Recorded.told {repository : Repository} {scene : Scene Backend}
    {history : List Operation} (recorded : Recorded repository scene history)
    (id : AttachmentId) :
    Holding.Told repository history id ((Ledger.after repository history).holding id) := by
  induction recorded with
  | start _ => exact .unknown nofun rfl
  | succeeded recorded ran ih =>
    rw [Ledger.after_concat]
    exact Ledger.note_told (Operation.succeeded_database recorded.shows ran).1 ih
  | failed _ _ ih | reopened _ _ _ ih | elsewhere _ _ ih => exact ih

theorem Ledger.registered_iff (repository : Repository) (history : List Operation)
    (message : MessageId) :
    (after repository history).registered message ↔ .insertMessage message ∈ history := by
  induction history using List.reverseRecOn with
  | nil => exact iff_of_false id (List.not_mem_nil)
  | append_singleton history operation ih =>
    rw [after_concat, List.mem_append, List.mem_singleton, ← ih]
    cases operation with
    | insertMessage other =>
      exact or_comm.trans (or_congr_right ⟨congrArg _, Operation.insertMessage.inj⟩)
    | _ => exact (or_iff_left nofun).symm

/-- Whatever operations follow one another on a repository, whichever of them fail and
however often its database is closed and opened again: it is a map from ids to what is held
of an attachment. A pointer is taken in where its size can be stored, its message has been
registered and its id has not; an operation that fails leaves the tables as they are, and one
that names a message which does not have the attachment leaves all as it is. Every question
has the answer of the map: the pointer that was registered, the state written last since
then, and the part if any content has been stored. -/
theorem repository_is_ledger {repository : Repository} {scene : Scene Backend}
    {history : List Operation} (recorded : Recorded repository scene history) :
    let ledger := Ledger.after repository history
    (∀ pointer, Backend.Spared scene →
      (((Repository.insertPointer pointer).on scene).1 = .ok () ↔
        pointer.size.toNat ≤ 2 ^ 63 - 1 ∧ .insertMessage pointer.message ∈ history ∧
          ∀ other, .insertPointer other ∈ history → other.id ≠ pointer.id)) ∧
    (∀ (operation : Operation) error after,
      (operation.perform repository).on scene = (.error error, after) →
        after.rest.database = scene.rest.database) ∧
    (∀ (operation : Operation) attachment message,
      operation.names? = some (attachment, message) →
      (∀ held, ledger.holding attachment = some held → held.pointer.message ≠ message) →
        scene.SameStore ((operation.perform repository).on scene).2) ∧
    ∀ id, Holding.Told repository history id (ledger.holding id) ∧
      (Backend.Spared scene →
        ((Repository.findPointer id).on scene).1 =
          .ok ((ledger.holding id).map Holding.pointer) ∧
        ((Repository.findState id).on scene).1 = .ok ((ledger.holding id).map Holding.state) ∧
        ((Repository.findPart id).on scene).1 = .ok ((ledger.holding id).bind Holding.part)) := by
  intro ledger
  have shows := recorded.shows
  refine ⟨fun pointer spared => ?_, fun operation error after ran =>
    Operation.failed_database ran, fun operation attachment message names foreign =>
    Operation.refused_sameStore shows names foreign, fun id =>
    ⟨recorded.told id, fun spared => shows.answers spared id⟩⟩
  rw [shows.insertPointer_iff spared, Ledger.registered_iff]
  have told := recorded.told pointer.id
  refine and_congr (by omega) (and_congr_right fun _ => ?_)
  generalize (Ledger.after repository history).holding pointer.id = holding at told
  cases told with
  | unknown unregistered => exact iff_of_true rfl unregistered
  | known earlier later registered id_eq =>
    refine iff_of_false nofun fun new => new _ ?_ id_eq
    rw [registered]
    simp

/-- A registered attachment that a job has begun to work on. -/
theorem repository_is_ledger_begun :
    let repository : Repository := ⟨"/p"⟩
    let pointer : Pointer := ⟨⟨5⟩, ⟨10⟩, "http://h/5", 0, none, none, none⟩
    let history := [.insertMessage ⟨10⟩, .insertPointer pointer, .setState .started ⟨5⟩ ⟨10⟩]
    ∃ scene, Recorded repository scene history ∧
      ((Repository.findPointer ⟨5⟩).on scene).1 = .ok (some pointer) ∧
      ((Repository.findState ⟨5⟩).on scene).1 = .ok (some .started) ∧
      ((Repository.insertPointer pointer).on scene).1 ≠ .ok () := by
  intro repository pointer history
  have started : Recorded repository
      { disk := {}, rest := { database := ⟨true, some [], some []⟩, network := .down } } [] :=
    .start rfl
  have known : Recorded repository _ ([] ++ [.insertMessage ⟨10⟩]) := started.succeeded rfl
  have registered : Recorded repository _ (_ ++ [.insertPointer pointer]) :=
    known.succeeded rfl
  have begun : Recorded repository _ (_ ++ [.setState .started ⟨5⟩ ⟨10⟩]) :=
    registered.succeeded rfl
  obtain ⟨insertion, -, -, answers⟩ := repository_is_ledger begun
  obtain ⟨found, state, -⟩ := (answers ⟨5⟩).2 rfl
  refine ⟨_, begun, found, state, fun taken => ?_⟩
  obtain ⟨-, -, new⟩ := (insertion pointer rfl).1 taken
  exact new pointer (by simp) rfl

end AttachmentFetch
