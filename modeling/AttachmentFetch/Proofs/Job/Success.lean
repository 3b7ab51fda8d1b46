import AttachmentFetch.Proofs.Job.Course
import AttachmentFetch.Proofs.Job.Retries
import AttachmentFetch.Proofs.Job.Verdict

/-! How an execution succeeds: each of its calls does, one after the other. -/
namespace AttachmentFetch

variable {ρ : Type}

theorem ScratchFile.finish_on (file : ScratchFile) (scene : Scene ρ) :
    ∃ after, (file.finish : Step (Scene ρ) ε Unit).on scene = (.ok (), after) ∧
      (file.removed scene).Alike after := by
  rw [finish, Step.bind_of_ok (Step.on_outcome _ scene)]
  split
  · exact ⟨_, rfl, .refl _⟩
  · exact ⟨_, rfl, .record ..⟩

theorem ScratchFile.abandon_on (file : ScratchFile) (scene : Scene ρ) :
    (file.abandon : Step (Scene ρ) ε Unit).on scene = (.ok (), file.removed scene) := rfl

theorem ScratchFile.during_of_ok (file : ScratchFile) {body : Step (Scene ρ) ε α}
    {scene ended : Scene ρ} {value : α} (ran : body.on scene = (.ok value, ended)) :
    ∃ after, (file.during body).on scene = (.ok value, after) ∧
      (file.removed ended).Alike after := by
  obtain ⟨after, finishing, alike⟩ := file.finish_on ended
  refine ⟨after, ?_, alike⟩
  rw [during, Step.bind_of_ok (Step.on_outcome _ scene), ran]
  dsimp only
  rw [Step.bind_of_ok finishing]
  rfl

theorem ScratchFile.during_of_error (file : ScratchFile) {body : Step (Scene ρ) ε α}
    {scene ended : Scene ρ} {error : ε} (ran : body.on scene = (.error error, ended)) :
    (file.during body).on scene = (.error error, file.removed ended) := by
  rw [during, Step.bind_of_ok (Step.on_outcome _ scene), ran]
  rfl

namespace DownloadJob
variable {services : Services ρ} {settings : DownloadSettings} {task : DownloadTask}

theorem attempt_of_ok {pointer : Pointer} {file : ScratchFile} {content : Content} {made : Disk}
    {scene found marked filled ready stored : Scene ρ}
    (finding : (services.findPointer task.attachment).on scene = (.ok (some pointer), found))
    (marking : (services.setState .started task.attachment task.message).on found =
      (.ok (), marked))
    (making : (ScratchFile.makeIn settings.cacheDirectory).on marked.disk = (.ok file, made))
    (downloading : (services.download file.path pointer.url settings.maxBytes
      settings.options).on { marked with disk := made } = (.ok (), filled))
    (opening : (openContent services pointer file.path).on filled = (.ok content, ready))
    (inserting : (services.insertContent task.message pointer.id content).on ready =
      (.ok (), stored)) :
    ∃ after, (attempt services settings task).on scene = (.ok (), after) ∧
      (file.removed stored).Alike after := by
  have delivering : (do
      (services.download file.path pointer.url settings.maxBytes settings.options).mapError
        .download
      let content ← openContent services pointer file.path
      (services.insertContent task.message pointer.id content).mapError .storage :
        Step (Scene ρ) AttemptError Unit).on { marked with disk := made } = (.ok (), stored) := by
    rw [Step.bind_of_ok (Step.mapError_of_ok _ downloading), Step.bind_of_ok opening]
    exact Step.mapError_of_ok _ inserting
  obtain ⟨after, ended, cleared⟩ := file.during_of_ok delivering
  refine ⟨after, ?_, cleared⟩
  rw [attempt, Step.bind_of_ok (Step.mapError_of_ok _ finding)]
  dsimp only
  rw [Step.bind_of_ok (Step.mapError_of_ok _ marking),
    Step.bind_of_ok (Step.mapError_of_ok _ (Step.onDisk_of_ok making)), ended]

theorem execute_of_ok {scene ended : Scene ρ}
    (ran : (attempt services settings task).on scene = (.ok (), ended)) :
    ∃ after, execute services settings task scene = (.succeeded, after) ∧ ended.Alike after := by
  refine ⟨_, ?_, .record ended .info "Attachment downloaded" []⟩
  unfold execute
  rw [bind_apply, show attempt services settings task scene = _ from ran]
  rfl

theorem sightings_of_ok {scene ended : Scene ρ}
    (ran : (attempt services settings task).on scene = (.ok (), ended)) (backoff : Duration) :
    Attempted services settings task scene (sightings services settings backoff task scene)
      (.ok ()) ended := by
  obtain ⟨seen, same, attempted⟩ := attempt_watches services settings task scene
  have ran : attempt services settings task scene = (.ok (), ended) := ran
  rw [ran] at same attempted
  obtain ⟨after, executed, alike⟩ := execute_of_ok (same [])
  have noted : sightings services settings backoff task scene = seen := by
    rw [sightings, Worker.process_on, Worker.retry_of_succeeded executed]
    exact congrArg Watched.seen alike.rest
  rwa [noted]

theorem execute_of_permanent {scene ended : Scene ρ} {error : AttemptError}
    (ran : (attempt services settings task).on scene = (.error error, ended))
    (permanent : error.prospect = .permanent) :
    ∃ noted, ended.Alike noted ∧
      (publishFailed services task noted).2.Alike (execute services settings task scene).2 := by
  let note : StateM (Scene ρ) Unit :=
    modify (·.record .error "Attachment download failed permanently" [("error", error.message)])
  refine ⟨(note ended).2, .record .., ?_⟩
  unfold execute
  rw [bind_apply, show attempt services settings task scene = _ from ran]
  simp only [permanent, bind_apply]
  cases (publishFailed services task (note ended).2).1 with
  | error markError => exact .record ..
  | ok => exact .refl _

end DownloadJob

end AttachmentFetch
