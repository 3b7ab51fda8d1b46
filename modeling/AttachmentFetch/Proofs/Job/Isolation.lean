import AttachmentFetch.Proofs.Download.Framing
import AttachmentFetch.Proofs.Job.Lockstep
import AttachmentFetch.Proofs.Job.Scratch
import AttachmentFetch.Proofs.Job.Success
import AttachmentFetch.Proofs.Store.Agreement

/-! Jobs for different attachments. What a job changes belongs to its own attachment; and what
comes of it depends on nothing but what belongs to that attachment and on what the network
answers, unless the database or the disk fails. -/
namespace AttachmentFetch

/-- Whether it takes a failure of the database or the disk for the error to come about. Content
that could be stored is kept from that by nothing else, or else it has a size that no row holds. -/
def AttemptError.isDisturbance (storable : Bool) : AttemptError → Bool
  | scratchFile _ | download (.io _) | decrypt (.io _) => true
  | storage _ => storable
  | noAttachment | download _ | decrypt _ => false

namespace DownloadJob

def disturbed (repository : Repository) (settings : DownloadSettings) (task : DownloadTask)
    (start : Scene Backend) : Bool :=
  match ((attempt repository.services settings task).on start).1 with
  | .ok () => false
  | .error error =>
    let found := match ((Repository.findPointer task.attachment).on start).1 with
      | .ok (some _) => true
      | _ => false
    error.isDisturbance (found && start.rest.database.has task)

section Agreement
variable {repository : Repository} {settings : DownloadSettings} {task : DownloadTask}
  {owned : Bool} {one other : Scene Backend}

/-- Both stores agree, and two files hold the same. -/
structure Filled (repository : Repository) (task : DownloadTask) (owned : Bool)
    (path path' : String) (one other : Scene Backend) : Prop where
  agree : repository.Agree task owned one other
  held : ∃ blob, one.disk.file? (one.disk.target path) = some blob ∧
    other.disk.file? (other.disk.target path') = some blob

theorem Filled.started {path path' : String}
    (filled : Filled repository task owned path path' one other) :
    Filled repository task owned path path' { one with disk := one.disk.started }
      { other with disk := other.disk.started } := by
  have starts (scene : Scene Backend) : scene.WritesFiles [Path.join "" (ScratchFile.name 0)]
      { scene with disk := scene.disk.started } := ⟨rfl, Disk.touchesOnly_started _ _⟩
  have inside : ScratchFile.InDirectory "" (Path.join "" (ScratchFile.name 0)) := ⟨0, rfl⟩
  refine ⟨filled.agree.scratch inside inside (starts one) (starts other), ?_⟩
  simpa only [Disk.file?_started, Disk.target_started] using filled.held

theorem request_agree (agree : repository.Agree task owned one other) (url : String)
    (timeout : Option Duration) {excused : TransferError → Prop} :
    Step.Together excused (repository.Agree task owned)
      (Step.Likewise (repository.Agree task owned)) (Transfer.request url timeout)
      (Transfer.request url timeout) one other := by
  have requested := Transfer.request_on url timeout one
  have requested' := Transfer.request_on url timeout other
  rw [agree.network] at requested'
  rcases got : (Http.get timeout url).on one.rest.network with ⟨error | response, network⟩
  · rw [got] at requested requested'
    exact .failed requested requested' (agree.facing network)
  · rw [got] at requested requested'
    exact .ended requested requested' ⟨rfl, agree.facing network⟩

section Download
variable {directory path path' : String} (inside : ScratchFile.InDirectory directory path)
  (inside' : ScratchFile.InDirectory directory path')
include inside inside'

theorem receive_agree (agree : repository.Agree task owned one other)
    (response : Http.Response) (limit : UInt64) (format : BodyFormat) :
    Step.Together (fun error => (AttemptError.download error).isDisturbance owned = true)
      (repository.Agree task owned) (fun _ _ => Filled repository task owned path path')
      (Transfer.receive response path limit format)
      (Transfer.receive response path' limit format) one other := by
  have keeps := Transfer.receive_keeps (ρ := Backend) response path limit format one
  have keeps' := Transfer.receive_keeps (ρ := Backend) response path' limit format other
  have came := Transfer.receive_result response path limit format one
  have came' := Transfer.receive_result response path' limit format other
  rcases came with came | ⟨-, error, failed⟩
  case inr => exact .excused ⟨_, failed, rfl⟩
  rcases came' with came' | ⟨-, error, failed⟩
  case inr => exact .excused' ⟨_, failed, rfl⟩
  have agree' := agree.scratch inside inside' keeps keeps'
  cases judged : Transfer.verdict format limit response with
  | error error =>
    rw [judged] at came came'
    exact .failed (Prod.ext came rfl) (Prod.ext came' rfl) agree'
  | ok blob =>
    rw [judged] at came came'
    obtain ⟨blob₁, judged₁, held⟩ := Transfer.receive_held_ok came
    obtain ⟨blob₂, judged₂, held'⟩ := Transfer.receive_held_ok came'
    cases judged.symm.trans judged₁
    cases judged.symm.trans judged₂
    refine .ended (Prod.ext came rfl) (Prod.ext came' rfl) ⟨agree', blob, ?_, ?_⟩
    · rw [keeps.disk.target, held]
    · rw [keeps'.disk.target, held']

theorem download_agree (agree : repository.Agree task owned one other) (url : String)
    (limit : UInt64) (options : TransferOptions) :
    Step.Together (fun error => (AttemptError.download error).isDisturbance owned = true)
      (repository.Agree task owned) (fun _ _ => Filled repository task owned path path')
      (Transfer.download path url limit options) (Transfer.download path' url limit options)
      one other := by
  refine .bind (request_agree agree url _) ?_
  rintro response _ middle middle' ⟨rfl, agree⟩
  exact receive_agree inside inside' agree response limit options.format

end Download

theorem openFile_agree {path path' : String}
    (filled : Filled repository task owned path path' one other) (expected : UInt64)
    (key digest : Bytes) :
    Step.Together (fun error => (AttemptError.decrypt error).isDisturbance owned = true)
      (repository.Agree task owned) (Step.Likewise (repository.Agree task owned))
      (Envelope.openFile path expected key digest) (Envelope.openFile path' expected key digest)
      one other := by
  have reading : Step.Together
      (fun error => (AttemptError.decrypt error).isDisturbance owned = true)
      (repository.Agree task owned) (Step.Likewise (repository.Agree task owned))
      ((Scene.onDisk (Disk.read path)).mapError OpenError.io)
      ((Scene.onDisk (Disk.read path')).mapError OpenError.io) one other := by
    refine .calls _ (fun _ => rfl) fun envelope envelope' disk disk' read read' => ?_
    obtain ⟨held, rfl⟩ := Disk.read_ok read
    obtain ⟨held', rfl⟩ := Disk.read_ok read'
    obtain ⟨blob, here, here'⟩ := filled.held
    rw [here] at held
    rw [here'] at held'
    exact ⟨Option.some.inj (held.symm.trans held'), filled.started.agree⟩
  refine reading.bind ?_
  rintro envelope _ middle middle' ⟨rfl, agree⟩
  have opening : Step.Together
      (fun error => (AttemptError.decrypt error).isDisturbance owned = true)
      (repository.Agree task owned) (Step.Likewise (repository.Agree task owned))
      (Step.reads fun _ => Envelope.openChecked envelope expected key digest)
      (Step.reads fun _ => Envelope.openChecked envelope expected key digest) middle middle' :=
    .given _ agree fun _ _ => ⟨rfl, agree⟩
  refine opening.bind ?_
  rintro plaintext _ last last' ⟨rfl, agree⟩
  exact .ended rfl rfl ⟨rfl, agree⟩

theorem openPlain_agree {pointer : Pointer} (isSealed : pointer.isSealed = false)
    {path path' : String} (filled : Filled repository task owned path path' one other) :
    Step.Together (fun error => error.isDisturbance owned = true) (repository.Agree task owned)
      (fun content content' one other =>
        content.Matches content' ∧ repository.Agree task owned one other)
      (openContent repository.services pointer path)
      (openContent repository.services pointer path') one other := by
  simp only [openContent, isSealed, Bool.false_eq_true, if_false]
  have opening : Step.Together (fun error => error.isDisturbance owned = true)
      (repository.Agree task owned)
      (fun file file' one other => file = one.disk.target path ∧ file' = other.disk.target path' ∧
        Filled repository task owned path path' one other)
      ((Scene.onDisk (Disk.openToRead path)).mapError AttemptError.scratchFile)
      ((Scene.onDisk (Disk.openToRead path')).mapError AttemptError.scratchFile) one other := by
    refine .calls _ (fun _ => rfl) fun file file' disk disk' opened opened' => ?_
    obtain ⟨rfl, rfl⟩ := Disk.openToRead_ok opened
    obtain ⟨rfl, rfl⟩ := Disk.openToRead_ok opened'
    exact ⟨rfl, rfl, filled.started⟩
  refine opening.bind ?_
  rintro file file' middle middle' ⟨rfl, rfl, filled⟩
  have draining : Step.Together (fun error => error.isDisturbance owned = true)
      (repository.Agree task owned)
      (fun drained drained' one other =>
        (drained.2 = none → drained'.2 = none → drained.1 = drained'.1) ∧
          repository.Agree task owned one other)
      ((Scene.onDisk (Disk.drain (middle.disk.target path))).mapError AttemptError.scratchFile)
      ((Scene.onDisk (Disk.drain (middle'.disk.target path'))).mapError AttemptError.scratchFile)
      middle middle' := by
    refine .calls _ (fun _ => rfl) fun drained drained' disk disk' ran ran' => ?_
    obtain ⟨blob, here, here'⟩ := filled.held
    obtain ⟨rfl, whole⟩ := Disk.drain_ok here ran
    obtain ⟨rfl, whole'⟩ := Disk.drain_ok here' ran'
    exact ⟨fun none none' => (whole none).trans (whole' none').symm, filled.started.agree⟩
  refine draining.bind ?_
  rintro drained drained' last last' ⟨same, agree⟩
  exact .ended rfl rfl ⟨same, agree⟩

theorem openContent_agree (pointer : Pointer) {path path' : String}
    (filled : Filled repository task owned path path' one other) :
    Step.Together (fun error => error.isDisturbance owned = true) (repository.Agree task owned)
      (fun content content' one other =>
        content.Matches content' ∧ repository.Agree task owned one other)
      (openContent repository.services pointer path)
      (openContent repository.services pointer path') one other := by
  cases isSealed : pointer.isSealed with
  | false => exact openPlain_agree isSealed filled
  | true =>
    simp only [openContent, isSealed, if_true]
    have keyed : Step.Together (fun error => error.isDisturbance owned = true)
        (repository.Agree task owned)
        (fun key key' one other => key = key' ∧ Filled repository task owned path path' one other)
        (Step.reads fun _ => pointer.keyBytes.mapError AttemptError.decrypt)
        (Step.reads fun _ => pointer.keyBytes.mapError AttemptError.decrypt) one other :=
      .given _ filled.agree fun _ _ => ⟨rfl, filled⟩
    refine keyed.bind ?_
    rintro key _ middle middle' ⟨rfl, filled⟩
    refine .mapError _ ((openFile_agree filled pointer.size key _).mono (fun _ => id) ?_)
    rintro content _ last last' ⟨rfl, agree⟩
    exact ⟨fun _ _ => rfl, agree⟩

section Attempt
variable {directory : String} {file file' : ScratchFile}
  (inside : ScratchFile.InDirectory directory file.path)
  (inside' : ScratchFile.InDirectory directory file'.path)
include inside inside'

theorem removed_agree (agree : repository.Agree task owned one other)
    {after after' : Scene Backend} (cleared : (file.removed one).Alike after)
    (cleared' : (file'.removed other).Alike after') :
    repository.Agree task owned after after' := by
  have removes (file : ScratchFile) (scene : Scene Backend) :
      scene.WritesFiles [file.path] (file.removed scene) :=
    Scene.WritesFiles.onDisk (Disk.remove_keeps file.path) scene
  exact (agree.scratch inside inside' (removes file one) (removes file' other)).alike cleared
    cleared'

theorem during_agree {body body' : Step (Scene Backend) AttemptError Unit}
    {excused : AttemptError → Prop}
    (h : Step.Together excused (repository.Agree task owned)
      (fun _ _ => repository.Agree task owned) body body' one other) :
    Step.Together excused (repository.Agree task owned) (fun _ _ => repository.Agree task owned)
      (file.during body) (file'.during body') one other := by
  have fails {file : ScratchFile} {body : Step (Scene Backend) AttemptError Unit}
      {scene : Scene Backend} (h : Step.Fails excused body scene) :
      Step.Fails excused (file.during body) scene := by
    obtain ⟨error, failed, here⟩ := h
    exact ⟨error, congrArg Prod.fst (file.during_of_error (Prod.ext failed rfl)), here⟩
  cases h with
  | excused failed => exact .excused (fails failed)
  | excused' failed => exact .excused' (fails failed)
  | failed ran ran' agree =>
    exact .failed (file.during_of_error ran) (file'.during_of_error ran')
      (removed_agree inside inside' agree (.refl _) (.refl _))
  | ended ran ran' agree =>
    obtain ⟨after, ended, cleared⟩ := file.during_of_ok ran
    obtain ⟨after', ended', cleared'⟩ := file'.during_of_ok ran'
    exact .ended ended ended' (removed_agree inside inside' agree cleared cleared')

theorem deliver_agree (agree : repository.Agree task owned one other) {pointer : Pointer}
    (own : pointer.id = task.attachment) :
    let deliver (file : ScratchFile) : Step (Scene Backend) AttemptError Unit := do
      (repository.services.download file.path pointer.url settings.maxBytes
        settings.options).mapError .download
      let content ← openContent repository.services pointer file.path
      (repository.services.insertContent task.message pointer.id content).mapError .storage
    Step.Together (fun error => error.isDisturbance owned = true) (repository.Agree task owned)
      (fun _ _ => repository.Agree task owned) (deliver file) (deliver file') one other := by
  refine .bind (.mapError _ (download_agree inside inside' agree pointer.url settings.maxBytes
    settings.options)) fun _ _ middle middle' filled => ?_
  refine .bind (openContent_agree pointer filled) fun content content' ready ready' opened => ?_
  rw [own]
  exact .mapError _ (Repository.insertContent_agree opened.2 opened.1)

end Attempt

theorem pursue_agree (agree : repository.Agree task owned one other) {pointer : Pointer}
    (own : pointer.id = task.attachment) :
    let pursue : Step (Scene Backend) AttemptError Unit := do
      (repository.services.setState .started task.attachment task.message).mapError .storage
      let file ← (Scene.onDisk (ScratchFile.makeIn settings.cacheDirectory)).mapError .scratchFile
      file.during do
        (repository.services.download file.path pointer.url settings.maxBytes
          settings.options).mapError .download
        let content ← openContent repository.services pointer file.path
        (repository.services.insertContent task.message pointer.id content).mapError .storage
    Step.Together (fun error => error.isDisturbance owned = true) (repository.Agree task owned)
      (fun _ _ => repository.Agree task owned) pursue pursue one other := by
  refine .bind (.mapError _ (Repository.setState_agree agree .started))
    fun _ _ marked marked' agree => ?_
  have making : Step.Together (fun error => error.isDisturbance owned = true)
      (repository.Agree task owned)
      (fun file file' one other => ScratchFile.InDirectory settings.cacheDirectory file.path ∧
        ScratchFile.InDirectory settings.cacheDirectory file'.path ∧
          repository.Agree task owned one other)
      ((Scene.onDisk (ScratchFile.makeIn settings.cacheDirectory)).mapError
        AttemptError.scratchFile)
      ((Scene.onDisk (ScratchFile.makeIn settings.cacheDirectory)).mapError
        AttemptError.scratchFile) marked marked' := by
    refine .calls _ (fun _ => rfl) fun file file' disk disk' made made' => ?_
    obtain ⟨inside, -, touches, -⟩ := ScratchFile.makeIn_ok made
    obtain ⟨inside', -, touches', -⟩ := ScratchFile.makeIn_ok made'
    exact ⟨inside, inside', agree.scratch inside inside' ⟨rfl, touches⟩ ⟨rfl, touches'⟩⟩
  refine making.bind fun file file' made made' ⟨inside, inside', agree⟩ => ?_
  exact during_agree inside inside' (deliver_agree inside inside' agree own)

theorem publishFailed_agree (agree : repository.Agree task owned one other) :
    repository.Agree task owned (publishFailed repository.services task one).2
      (publishFailed repository.services task other).2 := by
  have marked : Step.Together (fun _ => False) (repository.Agree task owned)
      (fun _ _ => repository.Agree task owned) (publishFailed repository.services task)
      (publishFailed repository.services task) one other :=
    .mapError _ (Repository.setState_agree agree .failed)
  exact (marked.same (fun ⟨_, _, excused⟩ => excused) fun ⟨_, _, excused⟩ => excused).2

section Attempt
variable (agree : repository.Agree task owned one other)
  (undisturbed : disturbed repository settings task one = false)
  (undisturbed' : disturbed repository settings task other = false)

theorem not_fails_of_undisturbed {start found : Scene Backend} {pointer : Pointer}
    (looked : (Repository.findPointer task.attachment).on start = (.ok (some pointer), found))
    (has : start.rest.database.has task = owned)
    (undisturbed : disturbed repository settings task start = false) :
    ¬Step.Fails (fun error => error.isDisturbance owned = true)
      (attempt repository.services settings task) start := by
  rintro ⟨error, failed, here⟩
  simp only [disturbed, failed, looked, has, Bool.true_and] at undisturbed
  exact Bool.false_ne_true (undisturbed.symm.trans here)

include agree undisturbed undisturbed'

theorem attempt_agree :
    ((attempt repository.services settings task).on one).1 =
        ((attempt repository.services settings task).on other).1 ∧
      repository.Agree task owned ((attempt repository.services settings task).on one).2
        ((attempt repository.services settings task).on other).2 := by
  have looked : (repository.services.findPointer task.attachment).on one = _ :=
    Repository.findPointer_on agree.calm task.attachment
  have looked' : (repository.services.findPointer task.attachment).on other = _ :=
    Repository.findPointer_on agree.calm' task.attachment
  -- A pointer comes out of the rows alone, so that both look-ups come to the same.
  rw [agree.rows] at looked'
  generalize Except.mapError _ _ = found at looked looked'
  rcases found with error | _ | pointer
  · rw [attempt, Step.bind_of_error (Step.mapError_of_error _ looked),
      Step.bind_of_error (Step.mapError_of_error _ looked')]
    exact ⟨rfl, agree.asked⟩
  · rw [attempt, Step.bind_of_ok (Step.mapError_of_ok _ looked),
      Step.bind_of_ok (Step.mapError_of_ok _ looked')]
    exact ⟨rfl, agree.asked⟩
  · have steady := not_fails_of_undisturbed looked agree.owned undisturbed
    have steady' := not_fails_of_undisturbed looked' agree.owned' undisturbed'
    rw [Step.Fails, attempt, Step.bind_of_ok (Step.mapError_of_ok _ looked)] at steady
    rw [Step.Fails, attempt, Step.bind_of_ok (Step.mapError_of_ok _ looked')] at steady'
    rw [attempt, Step.bind_of_ok (Step.mapError_of_ok _ looked),
      Step.bind_of_ok (Step.mapError_of_ok _ looked')]
    exact (pursue_agree agree.asked (Repository.findPointer_id looked)).same steady steady'

theorem execute_agree :
    (execute repository.services settings task one).1 =
        (execute repository.services settings task other).1 ∧
      repository.Agree task owned (execute repository.services settings task one).2
        (execute repository.services settings task other).2 := by
  have attempted := attempt_agree agree undisturbed undisturbed'
  rcases ran : attempt repository.services settings task one with ⟨result, after⟩
  rcases ran' : attempt repository.services settings task other with ⟨result', after'⟩
  rw [Step.on, Step.on, ran, ran'] at attempted
  obtain ⟨rfl, agree⟩ := attempted
  cases result with
  | ok =>
    simp only [execute, bind_apply, ran, ran']
    exact ⟨rfl, agree.alike (.record ..) (.record ..)⟩
  | error error =>
    refine ⟨(execute_outcome _ _ _ ran).trans (execute_outcome _ _ _ ran').symm, ?_⟩
    cases prospect : error.prospect with
    | retryable =>
      simp only [execute, bind_apply, ran, ran', prospect]
      exact agree.alike (.record ..) (.record ..)
    | permanent =>
      obtain ⟨noted, noting, done⟩ := execute_of_permanent ran prospect
      obtain ⟨noted', noting', done'⟩ := execute_of_permanent ran' prospect
      exact (publishFailed_agree (agree.alike noting noting')).alike done done'

end Attempt

theorem agree_withstands : Worker.Withstands (repository.Agree task owned) where
  record _ _ _ agree := agree.alike (.record ..) (.refl _)
  record' _ _ _ agree := agree.alike (.refl _) (.record ..)
  elapse _ agree := agree.alike (.elapse ..) (.elapse ..)

theorem agree_matches :
    Worker.Matches (repository.Agree task owned)
      (fun start => disturbed repository settings task start = false)
      (downloadJob repository.services settings task)
      (downloadJob repository.services settings task) where
  label := rfl
  factoryKey := rfl
  maxFailures := rfl
  errorText := rfl
  execute := execute_agree
  hook := publishFailed_agree

theorem process_agree (backoff : Duration) (agree : repository.Agree task owned one other)
    (undisturbed : ∀ start ∈ Worker.begins (downloadJob repository.services settings task)
      ⟨settings.maxFailures, backoff⟩ 0 one, disturbed repository settings task start = false)
    (undisturbed' : ∀ start ∈ Worker.begins (downloadJob repository.services settings task)
      ⟨settings.maxFailures, backoff⟩ 0 other, disturbed repository settings task start = false) :
    let process := Worker.process backoff (downloadJob repository.services settings task)
    (process one).1 = (process other).1 ∧
      repository.Agree task owned (process one).2 (process other).2 :=
  agree_withstands.process agree_matches backoff agree undisturbed undisturbed'

end Agreement

end DownloadJob

end AttachmentFetch
