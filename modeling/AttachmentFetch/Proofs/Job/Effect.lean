import AttachmentFetch.Client
import AttachmentFetch.Proofs.Download.Transfer
import AttachmentFetch.Proofs.Envelope
import AttachmentFetch.Proofs.Job.Course
import AttachmentFetch.Proofs.Store.Rows

/-! What an attempt does to a real store. It publishes that it has started, then
writes to its scratch file only, then inserts; before the first nothing has changed,
and after the last only the scratch file changes. -/
namespace AttachmentFetch

def ServiceCall.isInsertion : ServiceCall → Bool
  | insertContent .. => true
  | _ => false

def NoInsertion (seen : List (Sighting ρ)) : Prop :=
  ∀ sighting ∈ seen, sighting.call.isInsertion = false

theorem NoInsertion.nil : NoInsertion ([] : List (Sighting ρ)) := by
  intro sighting listed
  cases listed

theorem NoInsertion.cons {sighting : Sighting ρ} {seen : List (Sighting ρ)}
    (h : sighting.call.isInsertion = false) (h' : NoInsertion seen) :
    NoInsertion (sighting :: seen) := by
  intro other listed
  rcases List.mem_cons.1 listed with rfl | listed
  · exact h
  · exact h' other listed

theorem ScratchFile.makeIn_touches (directory : String) (disk : Disk) :
    ∃ number, Disk.TouchesOnly [Path.join directory (name number)] disk
        ((makeIn directory).on disk).2 ∧
      ∀ file after, (makeIn directory).on disk = (.ok file, after) →
        file.path = Path.join directory (name number) := by
  rcases ran : (makeIn directory).on disk with ⟨error | file, after⟩
  · refine ⟨0, ?_, nofun⟩
    exact (makeIn_error ran).mono nofun
  · obtain ⟨⟨number, path⟩, -, touches, -⟩ := makeIn_ok ran
    refine ⟨number, path ▸ touches, ?_⟩
    rintro other after ⟨⟩
    exact path

namespace DownloadJob
variable {repository : Repository} {settings : DownloadSettings} {task : DownloadTask}
  {pointer : Pointer} {path : String} {start after : Scene Backend}
  {seen : List (Sighting Backend)}

theorem openContent_keeps {ρ : Type} {services : Services ρ} (paths : List String)
    (isSealed : pointer.isSealed = false) :
    Step.Keeps (Scene.WritesFiles paths : Scene ρ → Scene ρ → Prop)
      (openContent services pointer path) := by
  simp only [openContent, isSealed, Bool.false_eq_true, if_false]
  refine .bind (.mapError _ (.onDisk fun disk => ?_)) fun file =>
    .bind (.mapError _ (.onDisk fun disk => ?_)) fun _ => .pure _
  · rw [Disk.openToRead_on]
    exact Disk.touchesOnly_started disk _
  · rw [Disk.drain_state]
    exact Disk.touchesOnly_started disk _

theorem openContent_disks {ρ : Type} {services : Services ρ} {R : Disk → Disk → Prop}
    [Std.Refl R] [Trans R R R] (starts : ∀ disk, R disk disk.started)
    (isSealed : pointer.isSealed = false) :
    Step.Keeps (Scene.Disks R : Scene ρ → Scene ρ → Prop) (openContent services pointer path) := by
  simp only [openContent, isSealed, Bool.false_eq_true, if_false]
  refine .bind (.mapError _ (.onDisk fun disk => ?_)) fun file =>
    .bind (.mapError _ (.onDisk fun disk => ?_)) fun _ => .pure _
  · rw [Disk.openToRead_on]
    exact starts disk
  · rw [Disk.drain_state]
    exact starts disk

theorem Opened.writes {result : Except AttemptError Content}
    (opened : Opened repository.services pointer path start seen result after)
    (paths : List String) : start.WritesOnly paths after ∧ NoInsertion seen := by
  cases opened with
  | keyless => exact ⟨Std.Refl.refl _, .nil⟩
  | @unsealed key result _ _ _ opened =>
    have opened : (Envelope.openFile path pointer.size key (pointer.digest.getD [])).on start =
      (result, after) := opened
    have writes := (Envelope.openFile_keeps paths path pointer.size key _).related opened
    exact ⟨writes.writesOnly, .cons rfl .nil⟩
  | plain isSealed read =>
    have writes := (openContent_keeps paths isSealed).related read
    exact ⟨writes.writesOnly, .nil⟩

section Relations
variable (repository : Repository) (settings : DownloadSettings) (task : DownloadTask)

/-- What a delivery does: it writes to one file, and then it may insert. -/
inductive Delivery (path : String) (attachment : AttachmentId) (start : Scene Backend) :
    List (Sighting Backend) → Except AttemptError Unit → Scene Backend → Prop
  | undelivered {seen error after} (noInsertion : NoInsertion seen)
    (writes : start.WritesOnly [path] after) :
    Delivery path attachment start seen (.error error) after
  | inserted {seen content result ready after} (noInsertion : NoInsertion seen)
    (writes : start.WritesOnly [path] ready)
    (inserting : (repository.insertContent task.message attachment content).on ready =
      (result, after)) :
    Delivery path attachment start
      (seen ++ [⟨.insertContent task.message attachment content result, ready, after⟩])
      (result.mapError .storage) after

/-- The database takes note that a download has begun, or nothing has changed. -/
def Begun (start marked : Scene Backend) : Prop :=
  (∃ now count, start.rest.database.updateAttachment task.attachment task.message
      ({ · with state := AttachmentState.started.name, updatedAt := now }) =
      .ok (count, marked.rest.database)) ∧
    marked.disk = start.disk

inductive Effect (start : Scene Backend) :
    List (Sighting Backend) → Except AttemptError Unit → Scene Backend → Prop
  | unmarked {seen error after} (noInsertion : NoInsertion seen) (same : start.SameStore after) :
    Effect start seen (.error error) after
  | undelivered {seen error marked number after} (noInsertion : NoInsertion seen)
    (begun : Begun task start marked)
    (writes : marked.WritesOnly
      [Path.join settings.cacheDirectory (ScratchFile.name number)] after) :
    Effect start seen (.error error) after
  | inserted {seen content result marked number ready last after} (noInsertion : NoInsertion seen)
    (begun : Begun task start marked)
    (writes : marked.WritesOnly
      [Path.join settings.cacheDirectory (ScratchFile.name number)] ready)
    (inserting : (repository.insertContent task.message task.attachment content).on ready =
      (result, last))
    (clears : last.WritesOnly
      [Path.join settings.cacheDirectory (ScratchFile.name number)] after) :
    Effect start
      (seen ++ [⟨.insertContent task.message task.attachment content result, ready, last⟩])
      (result.mapError .storage) after

end Relations

theorem Delivered.delivery {result : Except AttemptError Unit}
    (delivered : Delivered repository.services settings task pointer path start seen result after) :
    Delivery repository task path pointer.id start seen result after := by
  have fetching : ∀ {result middle}, (repository.services.download path pointer.url
      settings.maxBytes settings.options).on start = (result, middle) →
      start.WritesOnly [path] middle := fun fetched =>
    (Transfer.download_keeps path pointer.url settings.maxBytes settings.options).related fetched
  cases delivered with
  | undelivered fetched => exact .undelivered (.cons rfl .nil) (fetching fetched)
  | unopened fetched opened =>
    obtain ⟨writes, noInsertion⟩ := opened.writes [path]
    exact .undelivered (.cons rfl noInsertion) ((fetching fetched).trans writes)
  | handed fetched opened inserting =>
    obtain ⟨writes, noInsertion⟩ := opened.writes [path]
    exact .inserted (.cons rfl noInsertion) ((fetching fetched).trans writes) inserting

theorem removed_writes {file : ScratchFile} (cleared : (file.removed start).Alike after) :
    start.WritesOnly [file.path] after := by
  have writes := Scene.WritesFiles.onDisk (Disk.remove_keeps file.path) start
  refine ⟨?_, ?_⟩
  · rw [cleared.rest]
    exact congrArg Backend.database writes.rest
  · rw [cleared.disk]
    exact writes.disk

theorem begun_of_marked {result : Except ErrorChain (Option Pointer)} {middle : Scene Backend}
    (found : (repository.services.findPointer task.attachment).on start = (result, middle))
    (marked : (repository.services.setState .started task.attachment task.message).on middle =
      (.ok (), after)) : Begun task start after := by
  have same := (Repository.findPointer_keeps _).related found
  obtain ⟨count, updated, disk⟩ := Repository.setState_ok marked
  rw [same.database] at updated
  exact ⟨⟨_, count, updated⟩, disk.trans same.disk⟩

theorem Attempted.effect {result : Except AttemptError Unit}
    (attempted : Attempted repository.services settings task start seen result after) :
    Effect repository settings task start seen result after := by
  cases attempted with
  | unfound found | absent found =>
    exact .unmarked (.cons rfl .nil) ((Repository.findPointer_keeps _).related found)
  | unmarked found marked =>
    have same := (Repository.findPointer_keeps _).related found
    exact .unmarked (.cons rfl (.cons rfl .nil))
      (Trans.trans same (Repository.setState_error marked))
  | @unmade _ _ ready error _ found marked making =>
    obtain ⟨number, touches, -⟩ := ScratchFile.makeIn_touches settings.cacheDirectory ready.disk
    obtain ⟨disk, made, rfl⟩ := Step.onDisk_error making
    rw [made] at touches
    exact .undelivered (.cons rfl (.cons rfl .nil)) (begun_of_marked found marked) ⟨rfl, touches⟩
  | @ended pointer middle ready file _ _ _ last _ found marked making delivered cleared =>
    obtain ⟨number, touches, path_eq⟩ :=
      ScratchFile.makeIn_touches settings.cacheDirectory ready.disk
    obtain ⟨disk, made, rfl⟩ := Step.onDisk_ok making
    rw [made] at touches
    have begun := begun_of_marked found marked
    have makes : ready.WritesOnly [Path.join settings.cacheDirectory (ScratchFile.name number)]
        { ready with disk } := ⟨rfl, touches⟩
    have clears := removed_writes cleared
    have delivery := delivered.delivery
    rw [path_eq file disk made] at delivery clears
    cases delivery with
    | undelivered noInsertion writes =>
      exact .undelivered (.cons rfl (.cons rfl noInsertion)) begun
        ((makes.trans writes).trans clears)
    | @inserted seen content result before _ noInsertion writes inserting =>
      have noInsertion' : NoInsertion
          (⟨.findPointer task.attachment (.ok (some pointer)), start, middle⟩ ::
            ⟨.setState .started task.attachment task.message (.ok ()), middle, ready⟩ :: seen) :=
        .cons rfl (.cons rfl noInsertion)
      rw [Repository.findPointer_id found] at inserting ⊢
      exact .inserted noInsertion' begun (makes.trans writes) inserting clears

end DownloadJob

end AttachmentFetch
