import AttachmentFetch.Proofs.Job.Effect
import AttachmentFetch.Proofs.Store.Insertion

/-! Scratch files. An attempt has at most one, at a path where nothing was, and removes it
when it ends. So a run leaves none of them, unless the disk fails when one is removed. -/
namespace AttachmentFetch

namespace ScratchFile
variable {directory : String} {disk after : Disk}

theorem gone_of_spared {file : ScratchFile} {scene after : Scene ρ}
    (located : scene.disk.locate file.path = .ok (scene.disk.target file.path))
    (cleared : (file.removed scene).Alike after) (spared : scene.disk.faults.head?.join = none) :
    after.disk.file? (scene.disk.target file.path) = none := by
  rw [cleared.disk, removed, Step.on_onDisk]
  change ((Disk.remove file.path).on scene.disk).2.file? (scene.disk.target file.path) = none
  cases held : scene.disk.file? (scene.disk.target file.path) with
  | some content =>
    have found := Disk.find_of_content? (Disk.content?_eq_some.2 ⟨located, held⟩)
    obtain ⟨gone, removed⟩ := Disk.remove_of_find found spared
    obtain ⟨absent, -⟩ := Disk.remove_ok removed
    rw [removed, absent]
  | none =>
    rcases removed : (Disk.remove file.path).on scene.disk with ⟨error | _, gone⟩
    · rw [Disk.faultable_error removed]
      exact held
    · obtain ⟨absent, -⟩ := Disk.remove_ok removed
      exact absent

end ScratchFile

namespace DownloadJob

/-- The attempt that begins in a scene has its scratch file at a path, and something
befalls the call that is to remove it when the attempt ends. -/
inductive Refused (services : Services ρ) (settings : DownloadSettings) (task : DownloadTask)
    (path : String) (start : Scene ρ) : Prop
  | intro {pointer middle ready file making seen result last fault}
    (found : (services.findPointer task.attachment).on start = (.ok (some pointer), middle))
    (marked : (services.setState .started task.attachment task.message).on middle =
      (.ok (), ready))
    (made : (Scene.onDisk (ScratchFile.makeIn settings.cacheDirectory)).on ready =
      (.ok file, making))
    (delivered : Delivered services settings task pointer file.path making seen result last)
    (path_eq : file.path = path)
    (befallen : last.disk.faults.head?.join = some fault) :
    Refused services settings task path start

theorem Attempted.begins {services : Services ρ} {settings : DownloadSettings}
    {task : DownloadTask} {start after : Scene ρ} {seen : List (Sighting ρ)}
    {result : Except AttemptError Unit}
    (attempted : Attempted services settings task start seen result after) :
    ∃ found middle later, seen = ⟨.findPointer task.attachment found, start, middle⟩ :: later := by
  cases attempted <;> exact ⟨_, _, _, rfl⟩

variable {repository : Repository} {settings : DownloadSettings} {task : DownloadTask}
  {start after : Scene Backend} {seen : List (Sighting Backend)}

theorem Delivery.touches {path : String} {attachment : AttachmentId}
    {result : Except AttemptError Unit}
    (delivery : Delivery repository task path attachment start seen result after) :
    Disk.TouchesOnly [path, repository.unfinishedFile task.message attachment,
      repository.partFile task.message attachment] start.disk after.disk := by
  cases delivery with
  | undelivered _ writes => exact writes.disk.mono (by simp)
  | @inserted _ _ result ready _ _ writes inserting =>
    have inserts : Disk.TouchesOnly [repository.unfinishedFile task.message attachment,
        repository.partFile task.message attachment] ready.disk after.disk := by
      cases result with
      | error => exact (Repository.insertContent_error inserting).2
      | ok =>
        obtain ⟨-, -, -, touches⟩ := Repository.insertContent_ok inserting
        exact touches
    exact (writes.disk.mono (by simp)).trans (inserts.mono (by simp))

end DownloadJob

end AttachmentFetch
