import AttachmentFetch.Proofs.Store.Part
import AttachmentFetch.Proofs.Store.Rows

/-! Storing content: the part file is written beside its final place and moved
there, and then the row is changed. What is said here holds whatever others do to the
database in between, and whichever calls fail. -/
namespace AttachmentFetch

def Scene.others (change : Database → Database) (scene : Scene Backend) : Scene Backend :=
  { scene with rest := { scene.rest with database := change scene.rest.database } }

namespace Repository

section Write
variable {unfinished part : String} {content : Content} {change : Database → Database}
  {scene after : Scene Backend}

theorem writePart_ok {written : Nat}
    (h : (writePart unfinished part content (Scene.others change)).on scene =
      (.ok written, after))
    (plain : part.endsWith "/" = false) :
    written = content.bytes.length ∧ content.failure = none ∧
      after.disk.content? part = some content.bytes ∧
      Disk.TouchesOnly [unfinished, part] scene.disk after.disk ∧
      after.rest.database = change scene.rest.database := by
  obtain ⟨file, disk₁, created, h⟩ := Step.bind_onDisk_ok h
  obtain ⟨here, empty, touches₁⟩ := Disk.create_ok created
  obtain ⟨_, _, meanwhile, h⟩ := Step.bind_ok h
  cases meanwhile
  obtain ⟨_, disk₂, appended, h⟩ := Step.bind_onDisk_ok h
  have filled := Disk.append_ok empty appended
  have touches₂ := Disk.append_touches_ok (here.trans (touches₁.target unfinished).symm) appended
  cases failure : content.failure with
  | some error =>
    rw [failure] at h
    cases h
  | none =>
    rw [failure] at h
    obtain ⟨_, disk₃, synced, h⟩ := Step.bind_onDisk_ok h
    obtain rfl := Disk.sync_ok synced
    obtain ⟨_, disk₄, renamed, h⟩ := Step.bind_onDisk_ok h
    cases h
    obtain ⟨moved, held, located, arrived, touches₄⟩ := Disk.rename_ok renamed
    have touches := touches₁.trans touches₂
    have same : content.bytes = moved := by
      rw [Disk.target_started, touches.target, ← here, Disk.file?_started, filled] at held
      exact Option.some.inj held
    refine ⟨rfl, rfl, Disk.content?_eq_some.2 ⟨?_, ?_⟩, ?_, rfl⟩
    · rw [touches₄.target]
      exact Disk.locate_of_touches touches₄ plain located
    · rw [touches₄.target, same]
      exact arrived
    · have both : Disk.TouchesOnly [unfinished, part] scene.disk disk₂ := touches.mono (by simp)
      exact (both.trans (Disk.touchesOnly_started disk₂ _)).trans touches₄

theorem writePart_clears {written : Nat}
    (h : (writePart unfinished part content (Scene.others change)).on scene =
      (.ok written, after))
    (apart : ∀ disk : Disk, disk.target unfinished ≠ disk.target part) :
    after.disk.file? (after.disk.target unfinished) = none := by
  obtain ⟨file, disk₁, -, h⟩ := Step.bind_onDisk_ok h
  obtain ⟨_, _, -, h⟩ := Step.bind_ok h
  obtain ⟨_, disk₂, -, h⟩ := Step.bind_onDisk_ok h
  cases failure : content.failure with
  | some error =>
    rw [failure] at h
    cases h
  | none =>
    rw [failure] at h
    obtain ⟨_, disk₃, -, h⟩ := Step.bind_onDisk_ok h
    obtain ⟨_, disk₄, renamed, h⟩ := Step.bind_onDisk_ok h
    cases h
    obtain ⟨_, -, -, -, touches⟩ := Disk.rename_ok renamed
    rw [touches.target]
    exact Disk.rename_source renamed (apart disk₃)

theorem writePart_error {error : IoError}
    (h : (writePart unfinished part content (Scene.others change)).on scene =
      (.error error, after)) :
    Disk.TouchesOnly [unfinished] scene.disk after.disk ∧
      (after.rest.database = scene.rest.database ∨
        after.rest.database = change scene.rest.database) := by
  rcases Step.bind_onDisk_error h with ⟨disk₁, created, rfl⟩ | ⟨file, disk₁, created, h⟩
  · refine ⟨?_, .inl rfl⟩
    have touches := Disk.create_keeps unfinished scene.disk
    rwa [created] at touches
  obtain ⟨here, -, touches₁⟩ := Disk.create_ok created
  have here := here.trans (touches₁.target unfinished).symm
  rcases Step.bind_error h with h | ⟨_, _, meanwhile, h⟩
  · cases h
  cases meanwhile
  -- From here on others have changed the database, and the unfinished file is there.
  rcases Step.bind_onDisk_error h with ⟨disk₂, appended, rfl⟩ | ⟨_, disk₂, appended, h⟩
  · exact ⟨touches₁.trans (Disk.append_touches_ok here appended), .inr rfl⟩
  have touches := touches₁.trans (Disk.append_touches_ok here appended)
  cases failure : content.failure with
  | some error =>
    rw [failure] at h
    cases h
    exact ⟨touches, .inr rfl⟩
  | none =>
    rw [failure] at h
    rcases Step.bind_onDisk_error h with ⟨disk₃, synced, rfl⟩ | ⟨_, disk₃, synced, h⟩
    · obtain rfl : disk₃ = disk₂.started := Disk.faultable_error synced
      exact ⟨touches.trans (Disk.touchesOnly_started disk₂ _), .inr rfl⟩
    obtain rfl := Disk.sync_ok synced
    rcases Step.bind_onDisk_error h with ⟨disk₄, renamed, rfl⟩ | ⟨_, disk₄, renamed, h⟩
    · obtain rfl : disk₄ = disk₂.started.started := Disk.faultable_error renamed
      exact ⟨(touches.trans (Disk.touchesOnly_started disk₂ _)).trans
        (Disk.touchesOnly_started _ _), .inr rfl⟩
    · cases h

end Write

theorem clearAway_on (path : String) (scene : Scene ρ) :
    ∃ after, (clearAway path : Step (Scene ρ) ε Unit).on scene = (.ok (), after) ∧
      after.disk = ((Disk.remove path).on scene.disk).2 ∧ after.rest = scene.rest := by
  unfold clearAway
  rw [Step.bind_of_ok (Step.on_outcome _ scene)]
  split
  · exact ⟨_, rfl, rfl, rfl⟩
  · split <;> exact ⟨_, rfl, rfl, rfl⟩

section Insert
variable {repository : Repository} {message : MessageId} {attachment : AttachmentId}
  {content : Content} {change : Database → Database} {scene after : Scene Backend}

theorem owns_keeps (message : MessageId) (attachment : AttachmentId) :
    Step.Keeps Scene.SameStore (owns message attachment) := by
  intro scene
  rcases ran : (owns message attachment).on scene with ⟨error | owned, after⟩
  · obtain ⟨database, disk⟩ := Backend.query_error ran
    exact ⟨database, disk⟩
  · obtain ⟨database, called, same, disk⟩ := Backend.query_ok ran
    cases rows : scene.rest.database.attachmentRows <;> rw [rows] at called <;> cases called
    exact ⟨same, disk⟩

theorem deliver_ok {written : Nat}
    (h : (repository.deliver message attachment content (Scene.others change)).on scene =
      (.ok written, after)) :
    written = content.bytes.length ∧ content.failure = none ∧
      after.disk.content? (repository.partFile message attachment) = some content.bytes ∧
      Disk.TouchesOnly [repository.unfinishedFile message attachment,
        repository.partFile message attachment] scene.disk after.disk ∧
      after.rest.database = change scene.rest.database := by
  obtain ⟨owned, middle, asked, h⟩ := Step.bind_ok h
  have same := (owns_keeps _ _).related asked
  split at h
  · cases h
  obtain ⟨_, ready, making, h⟩ := Step.bind_ok h
  obtain ⟨disk, made, rfl⟩ := Step.onDisk_ok (Step.mapError_ok making)
  rw [Step.bind_of_ok (Step.on_outcome _ _)] at h
  rcases wrote : (writePart (repository.unfinishedFile message attachment)
      (repository.partFile message attachment) content (Scene.others change)).on
      { middle with disk } with ⟨error | written, last⟩
  · rw [wrote] at h
    obtain ⟨_, _, -, h⟩ := Step.bind_ok h
    cases h
  · rw [wrote] at h
    cases h
    obtain ⟨length, whole, held, touches, database⟩ :=
      writePart_ok wrote (endsWith_partFile repository message attachment)
    refine ⟨length, whole, held, ?_, ?_⟩
    · rw [← same.disk]
      exact ((Disk.makeDirectories_keeps _ _).related made).trans touches
    · rw [database, ← same.database]

theorem deliver_clears {written : Nat}
    (h : (repository.deliver message attachment content (Scene.others change)).on scene =
      (.ok written, after)) :
    after.disk.file? (after.disk.target (repository.unfinishedFile message attachment)) = none := by
  obtain ⟨owned, middle, -, h⟩ := Step.bind_ok h
  split at h
  · cases h
  obtain ⟨_, ready, -, h⟩ := Step.bind_ok h
  rw [Step.bind_of_ok (Step.on_outcome _ _)] at h
  rcases wrote : (writePart (repository.unfinishedFile message attachment)
      (repository.partFile message attachment) content (Scene.others change)).on ready
    with ⟨error | written, last⟩
  · rw [wrote] at h
    obtain ⟨_, _, -, h⟩ := Step.bind_ok h
    cases h
  · rw [wrote] at h
    cases h
    exact writePart_clears wrote fun disk =>
      (target_partFile_ne_unfinishedFile repository message attachment disk _ _).symm

theorem deliver_error {error : ErrorChain}
    (h : (repository.deliver message attachment content (Scene.others change)).on scene =
      (.error error, after)) :
    Disk.TouchesOnly [repository.unfinishedFile message attachment] scene.disk after.disk ∧
      (after.rest.database = scene.rest.database ∨
        after.rest.database = change scene.rest.database) := by
  rcases Step.bind_error h with h | ⟨owned, middle, asked, h⟩
  · have same := (owns_keeps _ _).related h
    exact ⟨same.disk ▸ Std.Refl.refl _, .inl same.database⟩
  have same := (owns_keeps _ _).related asked
  rw [← same.disk, ← same.database]
  split at h
  · cases h
    exact ⟨Std.Refl.refl _, .inl rfl⟩
  rcases Step.bind_error h with h | ⟨_, ready, making, h⟩
  · obtain ⟨_, -, h⟩ := Step.mapError_error h
    obtain ⟨disk, made, rfl⟩ := Step.onDisk_error h
    exact ⟨(Disk.makeDirectories_keeps _ _).related made, .inl rfl⟩
  obtain ⟨disk, made, rfl⟩ := Step.onDisk_ok (Step.mapError_ok making)
  have touches := (Disk.makeDirectories_keeps
    [repository.unfinishedFile message attachment] _).related made
  rw [Step.bind_of_ok (Step.on_outcome _ _)] at h
  rcases wrote : (writePart (repository.unfinishedFile message attachment)
      (repository.partFile message attachment) content (Scene.others change)).on
      { middle with disk } with ⟨error | written, last⟩
  · rw [wrote] at h
    obtain ⟨touches', database⟩ := writePart_error wrote
    obtain ⟨cleared, clearing, removed, rest⟩ :=
      clearAway_on (repository.unfinishedFile message attachment) last
    rw [Step.bind_of_ok clearing] at h
    cases h
    rw [removed, rest]
    exact ⟨(touches.trans touches').trans (Disk.remove_keeps _ _), database⟩
  · rw [wrote] at h
    cases h

theorem publish_ok {written : Nat}
    (h : (repository.publish message attachment written).on scene = (.ok (), after)) :
    ∃ stored count, int64? written = some stored ∧ count ≠ 0 ∧
      scene.rest.database.updateAttachment attachment message
        (doneRow (repository.partFile message attachment) stored (Backend.now scene)) =
        .ok (count, after.rest.database) ∧
      after.disk = scene.disk := by
  unfold publish at h
  rw [Step.bind_of_ok (Step.on_outcome _ _)] at h
  rcases published : (publishDone attachment message (repository.partFile message attachment)
      written).on scene with ⟨error | count, last⟩
  · rw [published] at h
    obtain ⟨_, _, -, h⟩ := Step.bind_ok h
    cases h
  · rw [published] at h
    obtain ⟨stored, fits, updated, disk⟩ := publishDone_ok published
    cases count with
    | zero =>
      obtain ⟨_, _, -, h⟩ := Step.bind_ok h
      cases h
    | succ count =>
      cases h
      exact ⟨stored, count + 1, fits, nofun, updated, disk⟩

/-- A publication that fails leaves the rows as they are, and removes what lies
at the final place, whatever that is. -/
theorem publish_error {written : Nat} {error : ErrorChain}
    (h : (repository.publish message attachment written).on scene = (.error error, after)) :
    after.rest.database = scene.rest.database ∧
      after.disk = ((Disk.remove (repository.partFile message attachment)).on scene.disk).2 := by
  unfold publish at h
  rw [Step.bind_of_ok (Step.on_outcome _ _)] at h
  rcases published : (publishDone attachment message (repository.partFile message attachment)
      written).on scene with ⟨error | count, last⟩
  · rw [published] at h
    have same := publishDone_error published
    obtain ⟨cleared, clearing, removed, rest⟩ :=
      clearAway_on (repository.partFile message attachment) last
    rw [Step.bind_of_ok clearing] at h
    cases h
    rw [removed, rest, same.database, same.disk]
    exact ⟨rfl, rfl⟩
  · rw [published] at h
    obtain ⟨stored, -, updated, disk⟩ := publishDone_ok published
    cases count with
    | zero =>
      obtain ⟨cleared, clearing, removed, rest⟩ :=
        clearAway_on (repository.partFile message attachment) last
      change (clearAway _ >>= fun _ => throw _ : Step _ _ _).on last = _ at h
      rw [Step.bind_of_ok clearing] at h
      cases h
      rw [removed, rest, disk, Database.updateAttachment_none updated]
      exact ⟨rfl, rfl⟩
    | succ count => cases h

/-- An insertion that succeeds has put all of the content into the part, and its
row says so. -/
theorem insertContent_ok
    (h : (repository.insertContent message attachment content).on scene = (.ok (), after)) :
    content.failure = none ∧
      after.disk.content? (repository.partFile message attachment) = some content.bytes ∧
      (∃ stored now count, int64? content.bytes.length = some stored ∧ count ≠ 0 ∧
        scene.rest.database.updateAttachment attachment message
          (doneRow (repository.partFile message attachment) stored now) =
          .ok (count, after.rest.database)) ∧
      Disk.TouchesOnly [repository.unfinishedFile message attachment,
        repository.partFile message attachment] scene.disk after.disk := by
  obtain ⟨written, delivered, delivering, publishing⟩ := Step.bind_ok h
  have delivering : (repository.deliver message attachment content (Scene.others id)).on scene =
    (.ok written, delivered) := delivering
  obtain ⟨rfl, whole, held, touches, database⟩ := deliver_ok delivering
  obtain ⟨stored, count, fits, positive, updated, disk⟩ := publish_ok publishing
  rw [database] at updated
  rw [disk]
  exact ⟨whole, held, ⟨stored, _, count, fits, positive, updated⟩, touches⟩

theorem insertContent_clears
    (h : (repository.insertContent message attachment content).on scene = (.ok (), after)) :
    after.disk.file? (after.disk.target (repository.unfinishedFile message attachment)) = none := by
  obtain ⟨written, delivered, delivering, publishing⟩ := Step.bind_ok h
  have delivering : (repository.deliver message attachment content (Scene.others id)).on scene =
    (.ok written, delivered) := delivering
  obtain ⟨_, _, -, -, -, disk⟩ := publish_ok publishing
  rw [disk]
  exact deliver_clears delivering

/-- An insertion that fails leaves all files but those of the attachment, and the rows
unless others have changed them. -/
theorem insertDuring_error {error : ErrorChain}
    (h : (repository.insertDuring message attachment content (Scene.others change)).on scene =
      (.error error, after)) :
    (after.rest.database = scene.rest.database ∨
        after.rest.database = change scene.rest.database) ∧
      Disk.TouchesOnly [repository.unfinishedFile message attachment,
        repository.partFile message attachment] scene.disk after.disk := by
  rcases Step.bind_error h with undelivered | ⟨written, delivered, delivering, publishing⟩
  · obtain ⟨touches, database⟩ := deliver_error undelivered
    exact ⟨database, touches.mono (by simp)⟩
  · obtain ⟨-, -, -, touches, database⟩ := deliver_ok delivering
    obtain ⟨kept, removed⟩ := publish_error publishing
    have clears := Disk.remove_keeps (repository.partFile message attachment) delivered.disk
    rw [← removed] at clears
    exact ⟨.inr (kept.trans database), touches.trans (clears.mono (by simp))⟩

theorem insertContent_error {error : ErrorChain}
    (h : (repository.insertContent message attachment content).on scene = (.error error, after)) :
    after.rest.database = scene.rest.database ∧
      Disk.TouchesOnly [repository.unfinishedFile message attachment,
        repository.partFile message attachment] scene.disk after.disk := by
  have h : (repository.insertDuring message attachment content (Scene.others id)).on scene =
    (.error error, after) := h
  obtain ⟨database, touches⟩ := insertDuring_error h
  exact ⟨database.elim id id, touches⟩

end Insert

section Unowned
variable {scene : Scene Backend} {rows : List AttachmentRow} {message : MessageId}
  {attachment : AttachmentId} (tables : scene.rest.database.attachments = some rows)
  (unowned : ¬∃ row ∈ rows, row.id = attachment ∧ row.message = message)
include tables unowned

theorem setState_unowned (state : AttachmentState) :
    scene.SameStore ((setState state attachment message).on scene).2 := by
  rcases ran : (setState state attachment message).on scene with ⟨error | _, after⟩
  · exact setState_error ran
  · obtain ⟨count, updated, disk⟩ := setState_ok ran
    obtain ⟨rows', tables', -, noted⟩ := Database.updateAttachment_ok updated
    obtain rfl : rows = rows' := Option.some.inj (tables.symm.trans tables')
    obtain rfl : count = 0 := by_contra fun some => unowned (noted some)
    exact ⟨Database.updateAttachment_none updated, disk⟩

variable (repository : Repository)

theorem deliver_unowned (content : Content) (meanwhile : Scene Backend → Scene Backend) :
    ∃ error after, (repository.deliver message attachment content meanwhile).on scene =
      (.error error, after) ∧ scene.SameStore after := by
  rcases asked : (owns message attachment).on scene with ⟨error | owned, middle⟩
  · exact ⟨error, middle, Step.bind_of_error asked, (owns_keeps _ _).related asked⟩
  · obtain ⟨database, called, -⟩ := Backend.query_ok asked
    rw [Database.attachmentRows, tables] at called
    obtain rfl : owned = false := by
      rw [← (Prod.mk.inj (Except.ok.inj called)).1]
      simpa using unowned
    exact ⟨_, middle, Step.bind_of_ok asked, (owns_keeps _ _).related asked⟩

theorem insertContent_unowned (content : Content) :
    ∃ error after, (repository.insertContent message attachment content).on scene =
      (.error error, after) ∧ scene.SameStore after := by
  obtain ⟨error, after, undelivered, same⟩ :=
    repository.deliver_unowned tables unowned content id
  exact ⟨error, after, Step.bind_of_error undelivered, same⟩

end Unowned

end Repository

end AttachmentFetch
