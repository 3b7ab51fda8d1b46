import AttachmentFetch.Proofs.Disk.Room
import AttachmentFetch.Proofs.Store.Insertion
import AttachmentFetch.Proofs.Store.Registration

/-! A store that works: nothing befalls its calls, and its disk has room. Then what is
registered is found again, and content that is inserted is stored. -/
namespace AttachmentFetch

theorem AttachmentRow.ofPointer_toPointer {pointer : Pointer} (now : Int64)
    (small : pointer.size.toNat < 9223372036854775808) :
    ∃ row, ofPointer pointer now = .ok row ∧ row.toPointer = .ok pointer ∧
      row.id = pointer.id ∧ row.message = pointer.message := by
  obtain ⟨size, fits⟩ := exists_int64? small
  have same := toInt_of_int64? fits
  have whole : 0 ≤ size.toInt := by omega
  simp only [ofPointer, fits]
  refine ⟨_, rfl, ?_, rfl, rfl⟩
  rw [toPointer, if_pos whole, same, Int.toNat_natCast, UInt64.ofNat_toNat]

theorem Backend.query_of_calm {call : Database → Except ErrorChain (α × Database)}
    {scene : Scene Backend} (calm : scene.rest.databaseFaults = []) {value : α}
    {database : Database} (called : call scene.rest.database = .ok (value, database)) :
    (query call).on scene =
      (.ok value, { scene with rest := { scene.rest with database } }) := by
  obtain ⟨disk, clock, log, held, faults, network⟩ := scene
  cases calm
  rw [query, Step.on_onRest]
  unfold Step.on
  dsimp only
  rw [called]
  rfl

/-- A new attachment can be registered: the tables are there, none of their rows has its
id, and nothing befalls the calls to come. -/
structure Scene.Accepts (scene : Scene Backend) (attachment : AttachmentId) : Prop where
  calm : scene.rest.databaseFaults = []
  messages : ∃ rows, scene.rest.database.messages = some rows
  attachments : ∃ rows, scene.rest.database.attachments = some rows ∧
    ∀ row ∈ rows, row.id ≠ attachment

namespace Database
variable {db : Database}

theorem insertMessage_of_tables {rows : List MessageRow} (tables : db.messages = some rows)
    (row : MessageRow) :
    ∃ after, db.insertMessage row = .ok after ∧ after.attachments = db.attachments ∧
      (after.messages.getD []).any (·.id = row.id) = true := by
  have inserted : db.insertMessage row = .ok (if rows.any (·.id = row.id) then db
      else { db with messages := some (rows ++ [row]) }) := by
    rw [insertMessage, messageRows, tables]
    rfl
  refine ⟨_, inserted, insertMessage_ok inserted, ?_⟩
  split
  next known => rwa [tables]
  next => simp

theorem insertAttachment_of_new {rows : List AttachmentRow} {row : AttachmentRow}
    (tables : db.attachments = some rows) (new : ∀ other ∈ rows, other.id ≠ row.id)
    (known : (db.messages.getD []).any (·.id = row.message) = true) :
    ∃ after, db.insertAttachment row = .ok after ∧
      after.findAttachment row.id = .ok (some row) := by
  refine ⟨{ db with attachments := some (rows ++ [row]) }, ?_, ?_⟩
  · have unmet : rows.any (·.id = row.id) = false := by simpa using new
    simp only [insertAttachment, attachmentRows, tables, bind, Except.bind, unmet, known,
      Bool.false_eq_true, Bool.not_true, if_false]
    rfl
  · have unmet : rows.find? (·.id = row.id) = none := by simpa using new
    refine findAttachment_eq.2 ⟨_, rfl, ?_⟩
    rw [List.find?_append, unmet, Option.none_or, List.find?_cons_of_pos (by simp)]

end Database

section Register
variable {scene : Scene Backend} {pointer : Pointer}

theorem Repository.insertMessage_accepted (calm : scene.rest.databaseFaults = [])
    {rows : List MessageRow} (tables : scene.rest.database.messages = some rows)
    (message : MessageId) :
    ∃ database, (insertMessage message).on scene =
        (.ok (), { scene with rest := { scene.rest with database } }) ∧
      database.attachments = scene.rest.database.attachments ∧
      (database.messages.getD []).any (·.id = message) = true := by
  obtain ⟨database, inserted, same, known⟩ := Database.insertMessage_of_tables tables
    ⟨message, Backend.now scene⟩
  refine ⟨database, ?_, same, known⟩
  rw [insertMessage, Step.bind_of_ok (Step.on_get scene)]
  apply Backend.query_of_calm calm
  rw [inserted]
  rfl

theorem Repository.insertPointer_accepted (scene : Scene Backend)
    (calm : scene.rest.databaseFaults = [])
    {rows : List AttachmentRow} (tables : scene.rest.database.attachments = some rows)
    (new : ∀ row ∈ rows, row.id ≠ pointer.id)
    (known : (scene.rest.database.messages.getD []).any (·.id = pointer.message) = true)
    (small : pointer.size.toNat < 9223372036854775808) :
    ∃ database row, (insertPointer pointer).on scene =
        (.ok (), { scene with rest := { scene.rest with database } }) ∧
      database.findAttachment pointer.id = .ok (some row) ∧ row.toPointer = .ok pointer ∧
      row.message = pointer.message := by
  obtain ⟨row, made, pointed, id_eq, message_eq⟩ :=
    AttachmentRow.ofPointer_toPointer (Backend.now scene) small
  rw [← id_eq] at new ⊢
  rw [← message_eq] at known ⊢
  obtain ⟨database, added, found⟩ := Database.insertAttachment_of_new tables new known
  refine ⟨database, row, ?_, found, pointed, rfl⟩
  rw [insertPointer, Step.bind_of_ok (Step.on_get scene)]
  dsimp only
  rw [made, Step.bind_of_ok (Step.on_reads (fun _ => Except.ok row) scene)]
  apply Backend.query_of_calm calm
  rw [added]
  rfl

theorem Client.register_accepted (accepts : scene.Accepts pointer.id)
    (small : pointer.size.toNat < 9223372036854775808) :
    ∃ database row, (register pointer).on scene =
        (.ok (), { scene with rest := { scene.rest with database } }) ∧
      database.findAttachment pointer.id = .ok (some row) ∧ row.toPointer = .ok pointer ∧
      row.message = pointer.message := by
  obtain ⟨calm, ⟨messages, tables⟩, attachments, tables', new⟩ := accepts
  obtain ⟨db, inserted, same, known⟩ :=
    Repository.insertMessage_accepted calm tables pointer.message
  rw [register, Step.bind_of_ok inserted]
  exact Repository.insertPointer_accepted { scene with rest := { scene.rest with database := db } }
    calm (same.trans tables') new known small

end Register

namespace Database
variable {db : Database} {attachment : AttachmentId} {message : MessageId}

theorem Owner.listed (owned : db.Owner attachment message) :
    ∃ rows, db.attachments = some rows ∧
      ∃ row ∈ rows, row.id = attachment ∧ row.message = message := by
  obtain ⟨row, found, message_eq⟩ := owned
  obtain ⟨rows, tables, first⟩ := findAttachment_eq.1 found
  exact ⟨rows, tables, row, List.mem_of_find?_eq_some first, findAttachment_id found, message_eq⟩

theorem Owner.update (owned : db.Owner attachment message)
    (change : AttachmentRow → AttachmentRow) :
    ∃ count after, db.updateAttachment attachment message change = .ok (count + 1, after) := by
  obtain ⟨rows, tables, row, listed, id_eq, message_eq⟩ := owned.listed
  have positive : 0 < rows.countP fun row => row.id = attachment ∧ row.message = message :=
    List.countP_pos_iff.2 ⟨row, listed, by simp [id_eq, message_eq]⟩
  obtain ⟨count, counted⟩ := Nat.exists_eq_succ_of_ne_zero (Nat.pos_iff_ne_zero.1 positive)
  exact ⟨count, _, counted ▸ updateAttachment_of_rows tables⟩

end Database

namespace Repository
variable {scene : Scene Backend} {attachment : AttachmentId} {message : MessageId}

theorem findPointer_of_row (calm : scene.rest.databaseFaults = []) {row : AttachmentRow}
    {pointer : Pointer} (found : scene.rest.database.findAttachment attachment = .ok (some row))
    (pointed : row.toPointer = .ok pointer) :
    (findPointer attachment).on scene = (.ok (some pointer), scene) := by
  have asked : (findRow attachment).on scene = (.ok (some row), scene) := by
    apply Backend.query_of_calm calm
    rw [found]
    rfl
  rw [findPointer, Step.on_mapError, Step.bind_of_ok asked]
  dsimp only
  rw [pointed]
  rfl

theorem owns_of_owner (calm : scene.rest.databaseFaults = [])
    (owned : scene.rest.database.Owner attachment message) :
    (owns message attachment).on scene = (.ok true, scene) := by
  obtain ⟨rows, tables, row, listed, id_eq, message_eq⟩ := owned.listed
  have met : (rows.any fun row => row.id = attachment && row.message = message) = true :=
    List.any_eq_true.2 ⟨row, listed, by simp [id_eq, message_eq]⟩
  apply Backend.query_of_calm calm
  rw [Database.attachmentRows, tables, ← met]
  rfl

theorem setState_of_owner (calm : scene.rest.databaseFaults = [])
    (owned : scene.rest.database.Owner attachment message) (state : AttachmentState) :
    ∃ after, (setState state attachment message).on scene = (.ok (), after) ∧
      after.disk = scene.disk ∧ after.rest.databaseFaults = [] ∧
      after.rest.network = scene.rest.network ∧ after.rest.database.Owner attachment message := by
  obtain ⟨count, database, updated⟩ :=
    owned.update ({ · with state := state.name, updatedAt := Backend.now scene })
  have queried : (Backend.query fun db => (db.updateAttachment attachment message
      ({ · with state := state.name, updatedAt := Backend.now scene })).mapError
        DatabaseError.chain).on scene =
      (.ok (count + 1), { scene with rest := { scene.rest with database } }) := by
    apply Backend.query_of_calm calm
    rw [updated]
    rfl
  refine ⟨{ scene with rest := { scene.rest with database } }, ?_, rfl, calm, rfl,
    owned.revised updated (fun _ => rfl) fun _ => rfl⟩
  rw [setState, Step.bind_of_ok (Step.on_get scene), Step.on_bind, Step.on_mapError, queried]
  rfl

variable (scene) in
theorem publishDone_of_owner (calm : scene.rest.databaseFaults = [])
    (owned : scene.rest.database.Owner attachment message) (part : String) {written : Nat}
    (short : written < 9223372036854775808) :
    ∃ count after, (publishDone attachment message part written).on scene =
      (.ok (count + 1), after) := by
  obtain ⟨stored, fits⟩ := exists_int64? short
  obtain ⟨count, database, updated⟩ :=
    owned.update (doneRow part stored (Backend.now scene))
  refine ⟨count, { scene with rest := { scene.rest with database } }, ?_⟩
  rw [publishDone, Step.bind_of_ok (Step.on_get scene)]
  dsimp only
  rw [fits]
  apply Backend.query_of_calm calm
  change (scene.rest.database.updateAttachment attachment message
    (doneRow part stored (Backend.now scene))).mapError _ = _
  rw [updated]
  rfl

variable (scene) in
/-- Where there is room for a part, there is room for all of its content. -/
theorem writePart_of_room {unfinished part : String} {created moved : Disk} {place : Place}
    (calm : scene.disk.faults = [])
    (creating : (Disk.create unfinished).on scene.disk = (.ok place, created))
    (moving : (Disk.rename unfinished part).on created = (.ok (), moved)) (bytes : Bytes) :
    ∃ disk, (writePart unfinished part { bytes } id).on scene =
      (.ok bytes.length, { scene with disk }) := by
  have calm' : created.faults = [] := (Disk.create_staysCalm unfinished).related creating calm
  obtain ⟨-, empty, -⟩ := Disk.create_ok creating
  have appending := Disk.append_of_calm calm' empty bytes
  have refilled := Disk.SameShape.refill (Disk.file?_eq_some.1 empty) ([] ++ bytes)
  generalize created.put place (.file ([] ++ bytes)) = filled at appending refilled
  have synced := Disk.sync_of_calm (refilled.faults.trans calm') place
  have moving' : (Disk.rename unfinished part).on filled =
      (.ok (), ((Disk.rename unfinished part).on filled).2) :=
    Prod.ext ((Disk.rename_byShape unfinished part).result refilled moving) rfl
  have meanwhile : (modify id : Step (Scene Backend) IoError PUnit).on
      { scene with disk := created } = (.ok ⟨⟩, { scene with disk := created }) := rfl
  refine ⟨((Disk.rename unfinished part).on filled).2, ?_⟩
  rw [writePart, Step.bind_of_ok (Step.onDisk_of_ok creating), Step.bind_of_ok meanwhile,
    Step.bind_of_ok (Step.onDisk_of_ok appending)]
  change (Scene.onDisk (Disk.sync place) >>= fun _ =>
    Scene.onDisk (Disk.rename unfinished part) >>= fun _ => pure bytes.length).on
      { scene with disk := filled } = _
  rw [Step.bind_of_ok (Step.onDisk_of_ok synced), Step.bind_of_ok (Step.onDisk_of_ok moving')]
  rfl

variable (scene) in
theorem insertContent_of_room {repository : Repository} (calm : scene.rest.databaseFaults = [])
    (calm' : scene.disk.faults = []) (owned : scene.rest.database.Owner attachment message)
    (room : ((Disk.rehearsePart (repository.messageDirectory message)
      (repository.unfinishedFile message attachment)
      (repository.partFile message attachment)).on scene.disk).1 = .ok ()) {bytes : Bytes}
    (short : bytes.length < 9223372036854775808) :
    ∃ after,
      (repository.insertContent message attachment { bytes }).on scene = (.ok (), after) := by
  rcases rehearsed : (Disk.rehearsePart (repository.messageDirectory message)
    (repository.unfinishedFile message attachment)
    (repository.partFile message attachment)).on scene.disk with ⟨result, last⟩
  rw [rehearsed] at room
  obtain rfl : result = .ok () := room
  obtain ⟨_, ready, making, rehearsed⟩ := Step.bind_ok rehearsed
  obtain ⟨place, created, creating, moving⟩ := Step.bind_ok rehearsed
  have calmReady : ready.faults = [] := (Disk.makeDirectories_staysCalm _).related making calm'
  obtain ⟨disk, wrote⟩ :=
    writePart_of_room { scene with disk := ready } calmReady creating moving bytes
  have delivered : (repository.deliver message attachment { bytes } id).on scene =
      (.ok bytes.length, { scene with disk }) := by
    rw [deliver, Step.bind_of_ok (owns_of_owner calm owned)]
    simp only [Bool.not_true, Bool.false_eq_true, if_false]
    rw [Step.bind_of_ok (Step.mapError_of_ok _ (Step.onDisk_of_ok making)),
      Step.bind_of_ok (Step.on_outcome _ _), wrote]
    rfl
  obtain ⟨count, after, published⟩ := publishDone_of_owner { scene with disk } calm owned
    (repository.partFile message attachment) short
  refine ⟨after, ?_⟩
  rw [insertContent, insertDuring, Step.bind_of_ok delivered, publish,
    Step.bind_of_ok (Step.on_outcome _ _), published]
  rfl

end Repository

end AttachmentFetch
