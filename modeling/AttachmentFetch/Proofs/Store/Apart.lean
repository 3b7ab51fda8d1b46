import AttachmentFetch.Proofs.Store.Atomicity
import AttachmentFetch.Proofs.Store.Tables

/-! What belongs to one attachment: the rows with its id, and the files that its content is
written to, of whatever message. What is done for another attachment leaves all of it. -/
namespace AttachmentFetch

theorem Disk.TouchesOnly.held {paths : List String} {before after : Disk} {path : String}
    (touches : TouchesOnly paths before after)
    (apart : ∀ other ∈ paths, before.target path ≠ before.target other) :
    after.file? (after.target path) = before.file? (before.target path) := by
  rw [touches.target, touches.files _ apart]

namespace Database

def rowsOf (db : Database) (id : AttachmentId) : Option (List AttachmentRow) :=
  db.attachments.map (·.filter (·.id = id))

section Rows
variable {db after : Database} {id other : AttachmentId} {message : MessageId}
  {change : AttachmentRow → AttachmentRow} {count : Nat}

theorem revise_id (sameId : ∀ row, (change row).id = row.id) (row : AttachmentRow) :
    (revise id message change row).id = row.id := by
  unfold revise
  split
  · exact sameId row
  · rfl

theorem rowsOf_updated (updated : db.updateAttachment id message change = .ok (count, after))
    (sameId : ∀ row, (change row).id = row.id) (other : AttachmentId) :
    after.rowsOf other = (db.rowsOf other).map (·.map (revise id message change)) := by
  obtain ⟨rows, tables, rfl, -⟩ := updateAttachment_ok updated
  have same : (fun row : AttachmentRow => decide (row.id = other)) ∘ revise id message change =
      fun row => decide (row.id = other) := by
    funext row
    simp only [Function.comp, revise_id sameId]
  simp only [rowsOf, tables, Option.map_some, List.filter_map, same]

theorem rowsOf_updated_other
    (updated : db.updateAttachment id message change = .ok (count, after))
    (sameId : ∀ row, (change row).id = row.id) (apart : other ≠ id) :
    after.rowsOf other = db.rowsOf other := by
  rw [rowsOf_updated updated sameId, rowsOf, Option.map_map]
  congr 1
  funext rows
  refine (List.map_congr_left fun row listed => if_neg ?_).trans (List.map_id _)
  have own : row.id = other := by simpa using (List.mem_filter.1 listed).2
  exact fun chosen => apart (own.symm.trans chosen.1)

end Rows

/-- The tables are the same but for what a download changes in the rows of attachments. -/
structure SameOutline (before after : Database) : Prop where
  migrated : after.migrated = before.migrated
  messages : after.messages = before.messages
  headings : after.headings = before.headings

namespace SameOutline
variable {first second third : Database}

theorem symm (h : SameOutline first second) : SameOutline second first :=
  ⟨h.migrated.symm, h.messages.symm, h.headings.symm⟩

theorem trans (h : SameOutline first second) (h' : SameOutline second third) :
    SameOutline first third :=
  ⟨h'.migrated.trans h.migrated, h'.messages.trans h.messages, h'.headings.trans h.headings⟩

theorem of_updated {id : AttachmentId} {message : MessageId}
    {change : AttachmentRow → AttachmentRow} {count : Nat}
    (updated : first.updateAttachment id message change = .ok (count, second))
    (keeps : ∀ row, (change row).heading = row.heading) : SameOutline first second := by
  have headings := headings_updated updated keeps
  obtain ⟨rows, -, rfl, -⟩ := updateAttachment_ok updated
  exact ⟨rfl, rfl, headings⟩

end SameOutline
end Database

namespace Repository

def unfinished? (repository : Repository) (disk : Disk) (message : MessageId)
    (attachment : AttachmentId) : Option Bytes :=
  disk.file? (disk.target (repository.unfinishedFile message attachment))

section Files
variable {repository : Repository} {message message' : MessageId}
  {attachment attachment' : AttachmentId} {before after : Disk} {directory : String}
  {paths : List String}

theorem unfinished?_of_touches_other (touches : Disk.TouchesOnly
      [repository.unfinishedFile message' attachment', repository.partFile message' attachment']
      before after)
    (other : ¬(message = message' ∧ attachment = attachment')) :
    repository.unfinished? after message attachment =
      repository.unfinished? before message attachment := by
  refine touches.held fun path listed => ?_
  rcases List.mem_pair.1 listed with rfl | rfl
  · exact fun same => other (target_unfinishedFile_inj same)
  · exact (target_partFile_ne_unfinishedFile _ _ _ _ _ _).symm

variable (inside : ∀ path ∈ paths, ∃ number, path = Path.join directory (ScratchFile.name number))
  (touches : Disk.TouchesOnly paths before after)
include inside touches

theorem part?_of_touches_scratch :
    repository.part? after message attachment = repository.part? before message attachment := by
  refine touches.held fun path listed => ?_
  obtain ⟨number, rfl⟩ := inside path listed
  exact target_partFile_ne_scratch _ _ _ _ _ _

theorem unfinished?_of_touches_scratch :
    repository.unfinished? after message attachment =
      repository.unfinished? before message attachment := by
  refine touches.held fun path listed => ?_
  obtain ⟨number, rfl⟩ := inside path listed
  exact target_unfinishedFile_ne_scratch _ _ _ _ _ _

end Files

structure Unaffected (repository : Repository) (id : AttachmentId)
    (before after : Scene Backend) : Prop where
  rows : after.rest.database.rowsOf id = before.rest.database.rowsOf id
  part : ∀ message,
    repository.part? after.disk message id = repository.part? before.disk message id
  unfinished : ∀ message,
    repository.unfinished? after.disk message id = repository.unfinished? before.disk message id

/-- Only what belongs to one attachment was changed, and its rows are still for the same
content. -/
structure Confined (repository : Repository) (id : AttachmentId)
    (before after : Scene Backend) : Prop where
  outline : before.rest.database.SameOutline after.rest.database
  others : ∀ other, other ≠ id → repository.Unaffected other before after

namespace Unaffected
variable {repository : Repository} {id : AttachmentId} {first second third : Scene Backend}

theorem trans (h : repository.Unaffected id first second)
    (h' : repository.Unaffected id second third) : repository.Unaffected id first third :=
  ⟨h'.rows.trans h.rows, fun message => (h'.part message).trans (h.part message),
    fun message => (h'.unfinished message).trans (h.unfinished message)⟩

theorem of_scratch {directory : String} {number : Nat}
    (writes : first.WritesOnly [Path.join directory (ScratchFile.name number)] second) :
    repository.Unaffected id first second := by
  have inside : ∀ path ∈ [Path.join directory (ScratchFile.name number)],
      ∃ number, path = Path.join directory (ScratchFile.name number) :=
    fun path listed => ⟨number, List.mem_singleton.1 listed⟩
  exact ⟨congrArg (·.rowsOf id) writes.database,
    fun _ => part?_of_touches_scratch inside writes.disk,
    fun _ => unfinished?_of_touches_scratch inside writes.disk⟩

end Unaffected

namespace Confined
variable {repository : Repository} {id : AttachmentId} {message : MessageId}
  {first second third : Scene Backend} {change : AttachmentRow → AttachmentRow} {count : Nat}

theorem trans (h : repository.Confined id first second)
    (h' : repository.Confined id second third) : repository.Confined id first third :=
  ⟨h.outline.trans h'.outline,
    fun other apart => (h.others other apart).trans (h'.others other apart)⟩

theorem of_database (same : second.rest.database = first.rest.database)
    (others : ∀ other, other ≠ id → repository.Unaffected other first second) :
    repository.Confined id first second :=
  ⟨same ▸ ⟨rfl, rfl, rfl⟩, others⟩

theorem of_same (same : first.SameStore second) : repository.Confined id first second :=
  of_database same.database fun other _ =>
    ⟨congrArg (·.rowsOf other) same.database,
      fun message => congrArg (repository.part? · message other) same.disk,
      fun message => congrArg (repository.unfinished? · message other) same.disk⟩

theorem of_alike (alike : first.Alike second) : repository.Confined id first second :=
  of_same ⟨congrArg Backend.database alike.rest, alike.disk⟩

theorem of_scratch {directory : String} {number : Nat}
    (writes : first.WritesOnly [Path.join directory (ScratchFile.name number)] second) :
    repository.Confined id first second :=
  of_database writes.database fun _ _ => .of_scratch writes

theorem of_updated
    (updated : first.rest.database.updateAttachment id message change =
      .ok (count, second.rest.database))
    (keeps : ∀ row, (change row).heading = row.heading)
    (touches : Disk.TouchesOnly
      [repository.unfinishedFile message id, repository.partFile message id] first.disk
      second.disk) : repository.Confined id first second := by
  refine ⟨.of_updated updated keeps, fun other apart => ⟨?_, fun _ => ?_, fun _ => ?_⟩⟩
  · exact Database.rowsOf_updated_other updated (fun row => congrArg Prod.fst (keeps row)) apart
  · exact part?_of_touches_other touches fun same => apart same.2
  · exact unfinished?_of_touches_other touches fun same => apart same.2

theorem of_insertion {content : Content} {result : Except ErrorChain Unit}
    (inserted : (repository.insertContent message id content).on first = (result, second)) :
    repository.Confined id first second := by
  cases result with
  | error error =>
    obtain ⟨same, touches⟩ := insertContent_error inserted
    refine of_database same fun other apart => ⟨congrArg (·.rowsOf other) same, fun _ => ?_,
      fun _ => ?_⟩
    · exact part?_of_touches_other touches fun same => apart same.2
    · exact unfinished?_of_touches_other touches fun same => apart same.2
  | ok =>
    obtain ⟨-, -, ⟨stored, now, count, -, -, updated⟩, touches⟩ := insertContent_ok inserted
    exact of_updated updated (fun _ => rfl) touches

theorem of_marked {state : AttachmentState} {result : Except ErrorChain Unit}
    (marked : (setState state id message).on first = (result, second)) :
    repository.Confined id first second := by
  cases result with
  | error => exact of_same (setState_error marked)
  | ok =>
    obtain ⟨count, updated, disk⟩ := setState_ok marked
    exact of_updated updated (fun _ => rfl) (disk ▸ Std.Refl.refl _)

end Confined

end Repository

end AttachmentFetch
