import AttachmentFetch.Proofs.Store.Insertion
import Mathlib.Data.List.Basic

/-! What is left of an insertion that fails. The rows are as they were and so are
the other parts, but the part itself has been replaced by the time the row is
changed: if that fails, what lay there before is lost. -/
namespace AttachmentFetch.Repository

/-- What is stored on a disk as the content of an attachment of a message. -/
def part? (repository : Repository) (disk : Disk) (message : MessageId)
    (attachment : AttachmentId) : Option Bytes :=
  disk.file? (disk.target (repository.partFile message attachment))

section Parts
variable {repository : Repository} {message message' : MessageId}
  {attachment attachment' : AttachmentId} {before after : Disk}

theorem part?_of_touches_unfinished (touches : Disk.TouchesOnly
      [repository.unfinishedFile message' attachment'] before after) :
    repository.part? after message attachment = repository.part? before message attachment := by
  rw [part?, part?, touches.target, touches.files]
  intro path listed
  rw [List.mem_singleton.1 listed]
  exact target_partFile_ne_unfinishedFile _ _ _ _ _ _

theorem part?_of_touches_other (touches : Disk.TouchesOnly
      [repository.unfinishedFile message' attachment', repository.partFile message' attachment']
      before after)
    (other : ¬(message = message' ∧ attachment = attachment')) :
    repository.part? after message attachment = repository.part? before message attachment := by
  rw [part?, part?, touches.target, touches.files]
  intro path listed
  rcases List.mem_pair.1 listed with rfl | rfl
  · exact target_partFile_ne_unfinishedFile _ _ _ _ _ _
  · exact fun same => other (target_partFile_inj same)

theorem part?_of_removed {content : Bytes}
    (held : before.content? (repository.partFile message attachment) = some content) :
    repository.part? ((Disk.remove (repository.partFile message attachment)).on before).2
        message attachment =
      if before.faults.head?.join = none then none else some content := by
  obtain ⟨-, file⟩ := Disk.content?_eq_some.1 held
  split
  next spared =>
    obtain ⟨after, removed⟩ := Disk.remove_of_find (Disk.find_of_content? held) spared
    obtain ⟨gone, touches⟩ := Disk.remove_ok removed
    rw [removed, part?, touches.target, gone]
  next faulty =>
    obtain ⟨fault, befallen⟩ := Option.ne_none_iff_exists'.1 faulty
    rw [show (Disk.remove _).on before = _ from Disk.faultable_of_fault befallen]
    exact file

end Parts

section Failure
variable {repository : Repository} {message : MessageId} {attachment : AttachmentId}
  {content : Content} {change : Database → Database} {scene delivered after : Scene Backend}
  {written : Nat} {error : ErrorChain}

theorem part?_of_undelivered
    (undelivered : (repository.deliver message attachment content (Scene.others change)).on scene =
      (.error error, after)) (message' : MessageId) (attachment' : AttachmentId) :
    repository.part? after.disk message' attachment' =
      repository.part? scene.disk message' attachment' :=
  part?_of_touches_unfinished (deliver_error undelivered).1

theorem part?_of_unpublished
    (delivering : (repository.deliver message attachment content (Scene.others change)).on scene =
      (.ok written, delivered))
    (publishing : (repository.publish message attachment written).on delivered =
      (.error error, after)) :
    repository.part? after.disk message attachment =
      if delivered.disk.faults.head?.join = none then none else some content.bytes := by
  obtain ⟨-, -, held, -, -⟩ := deliver_ok delivering
  obtain ⟨-, removed⟩ := publish_error publishing
  rw [removed]
  exact part?_of_removed held

/-- An insertion that fails leaves the rows as they are, or as others have made
them meanwhile, and all other parts. It leaves the part itself if and only if nothing
had been delivered, or what had been delivered and then cleared away makes no
difference to what was there before. -/
theorem failed_insertion
    (failed : ((repository.insertDuring message attachment content (Scene.others change)).on
      scene).1 = .error error) :
    let after :=
      ((repository.insertDuring message attachment content (Scene.others change)).on scene).2
    (after.rest.database = scene.rest.database ∨
      after.rest.database = change scene.rest.database) ∧
    (∀ message' attachment', ¬(message' = message ∧ attachment' = attachment) →
      repository.part? after.disk message' attachment' =
        repository.part? scene.disk message' attachment') ∧
    ((∀ message' attachment', repository.part? after.disk message' attachment' =
        repository.part? scene.disk message' attachment') ↔
      ∀ written delivered,
        (repository.deliver message attachment content (Scene.others change)).on scene =
          (.ok written, delivered) →
        repository.part? scene.disk message attachment =
          if delivered.disk.faults.head?.join = none then none else some content.bytes) := by
  rcases ran : (repository.insertDuring message attachment content (Scene.others change)).on scene
    with ⟨result, after⟩
  rw [ran] at failed
  obtain rfl : result = .error error := failed
  dsimp only
  obtain ⟨database, touches⟩ := insertDuring_error ran
  have others : ∀ message' attachment', ¬(message' = message ∧ attachment' = attachment) →
      repository.part? after.disk message' attachment' =
        repository.part? scene.disk message' attachment' :=
    fun message' attachment' other => part?_of_touches_other touches other
  refine ⟨database, others, ?_⟩
  rcases Step.bind_error ran with undelivered | ⟨written, delivered, delivering, publishing⟩
  · apply iff_of_true (part?_of_undelivered undelivered)
    intro written delivered delivering
    rw [undelivered] at delivering
    cases delivering
  · have left := part?_of_unpublished delivering publishing
    constructor
    · intro same written' delivered' delivering'
      obtain ⟨-, rfl⟩ := Prod.mk.inj (delivering.symm.trans delivering')
      rw [← same, left]
    · intro own message' attachment'
      by_cases other : message' = message ∧ attachment' = attachment
      · rw [other.1, other.2, left, own written delivered delivering]
      · exact others message' attachment' other

end Failure

def storedScene : Scene Backend where
  disk := {
    nodes := [(["p", "10", "5.bin"], .file [1]), (["p", "10"], .directory), (["p"], .directory)] }
  rest := {
    database := {
      migrated := true
      messages := some [⟨⟨10⟩, 0⟩, ⟨⟨11⟩, 0⟩]
      attachments := some [{
        id := ⟨5⟩
        message := ⟨10⟩
        url := ""
        size := 0
        key := none
        digest := none
        contentType := none
        state := "Done"
        partFile := some "/p/10/5.bin"
        storedSize := some 1
        updatedAt := 0 }] }
    network := .down }

/-- The attachment is given to the other message while new content is written. -/
theorem failed_insertion_moved :
    let step := (⟨"/p"⟩ : Repository).insertDuring ⟨10⟩ ⟨5⟩ { bytes := [0xaa, 0xbb] }
      (Scene.others (·.moveAttachment ⟨5⟩ ⟨11⟩))
    (step.on storedScene).1 = .error (.root "attachment 5 disappeared while storing its content") ∧
      ∀ message' attachment', ¬(message' = ⟨10⟩ ∧ attachment' = ⟨5⟩) →
        part? ⟨"/p"⟩ (step.on storedScene).2.disk message' attachment' =
          part? ⟨"/p"⟩ storedScene.disk message' attachment' := by
  intro step
  have failed : (step.on storedScene).1 =
      .error (.root "attachment 5 disappeared while storing its content") := by decide +kernel
  exact ⟨failed, (failed_insertion failed).2.1⟩

/-- The earlier content is gone, although the insertion failed. -/
theorem failed_insertion_loses_part :
    let step := (⟨"/p"⟩ : Repository).insertDuring ⟨10⟩ ⟨5⟩ { bytes := [0xaa, 0xbb] }
      (Scene.others (·.moveAttachment ⟨5⟩ ⟨11⟩))
    (step.on storedScene).1 = .error (.root "attachment 5 disappeared while storing its content") ∧
      part? ⟨"/p"⟩ storedScene.disk ⟨10⟩ ⟨5⟩ = some [1] ∧
      part? ⟨"/p"⟩ (step.on storedScene).2.disk ⟨10⟩ ⟨5⟩ = none := by
  decide +kernel

end AttachmentFetch.Repository
