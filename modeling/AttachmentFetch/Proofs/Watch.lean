import AttachmentFetch.Job.Worker
import AttachmentFetch.Job.Download
import AttachmentFetch.Proofs.Step

/-! Watching a job: its services note every call that the job makes of them, and
otherwise do what they do. Claims about what a run does, in which order, are claims
about what has been noted. -/
namespace AttachmentFetch

inductive ServiceCall where
  | findPointer (attachment : AttachmentId) (result : Except ErrorChain (Option Pointer))
  | setState (state : AttachmentState) (attachment : AttachmentId) (message : MessageId)
      (result : Except ErrorChain Unit)
  | insertContent (message : MessageId) (attachment : AttachmentId) (content : Content)
      (result : Except ErrorChain Unit)
  | download (destination url : String) (limit : UInt64) (options : TransferOptions)
      (result : Except TransferError Unit)
  | openSealed (source : String) (expected : UInt64) (key digest : Bytes)
      (result : Except OpenError Content)
  deriving Repr

structure Sighting (ρ : Type) where
  call : ServiceCall
  before : Scene ρ
  after : Scene ρ

structure Watched (ρ : Type) where
  inner : ρ
  seen : List (Sighting ρ)

namespace Scene

def watched (scene : Scene ρ) (seen : List (Sighting ρ)) : Scene (Watched ρ) where
  disk := scene.disk
  clock := scene.clock
  log := scene.log
  rest := ⟨scene.rest, seen⟩

def unwatched (scene : Scene (Watched ρ)) : Scene ρ where
  disk := scene.disk
  clock := scene.clock
  log := scene.log
  rest := scene.rest.inner

end Scene

def watch (call : Except ε α → ServiceCall) (step : Step (Scene ρ) ε α) :
    Step (Scene (Watched ρ)) ε α := fun scene =>
  let (result, after) := step scene.unwatched
  (result, after.watched (scene.rest.seen ++ [⟨call result, scene.unwatched, after⟩]))

def Services.watched (services : Services ρ) : Services (Watched ρ) where
  findPointer attachment :=
    watch (.findPointer attachment) (services.findPointer attachment)
  setState state attachment message :=
    watch (.setState state attachment message) (services.setState state attachment message)
  insertContent message attachment content :=
    watch (.insertContent message attachment content)
      (services.insertContent message attachment content)
  download destination url limit options :=
    watch (.download destination url limit options)
      (services.download destination url limit options)
  openSealed source expected key digest :=
    watch (.openSealed source expected key digest)
      (services.openSealed source expected key digest)

def sightings (services : Services ρ) (settings : DownloadSettings) (backoff : Duration)
    (task : DownloadTask) (scene : Scene ρ) : List (Sighting ρ) :=
  (Worker.process backoff (downloadJob services.watched settings task)
    (scene.watched [])).2.rest.seen

/-- From a scene, a watched computation does what the unwatched one does, and
what it adds to the sightings is as described. -/
def Watches (watched : StateM (Scene (Watched ρ)) α) (plain : StateM (Scene ρ) α)
    (scene : Scene ρ) (seen : List (Sighting ρ) → α → Scene ρ → Prop) : Prop :=
  ∃ new, (∀ earlier, watched (scene.watched earlier) =
      ((plain scene).1, (plain scene).2.watched (earlier ++ new))) ∧
    seen new (plain scene).1 (plain scene).2

namespace Watches
variable {scene : Scene ρ}

theorem silent {watched : StateM (Scene (Watched ρ)) α} {plain : StateM (Scene ρ) α}
    {seen : List (Sighting ρ) → α → Scene ρ → Prop}
    (same : ∀ earlier, watched (scene.watched earlier) =
      ((plain scene).1, (plain scene).2.watched earlier))
    (h : seen [] (plain scene).1 (plain scene).2) : Watches watched plain scene seen := by
  refine ⟨[], fun earlier => ?_, h⟩
  rw [same, List.append_nil]

theorem modify {change : Scene ρ → Scene ρ} {change' : Scene (Watched ρ) → Scene (Watched ρ)}
    {seen : List (Sighting ρ) → Unit → Scene ρ → Prop}
    (same : ∀ earlier, change' (scene.watched earlier) = (change scene).watched earlier)
    (h : seen [] () (change scene)) :
    Watches (MonadState.modifyGet fun state => ((), change' state))
      (MonadState.modifyGet fun state => ((), change state)) scene seen :=
  silent (fun earlier => congrArg (Prod.mk ()) (same earlier)) h

theorem call {step : Step (Scene ρ) ε α} (noted : Except ε α → ServiceCall)
    {seen : List (Sighting ρ) → Except ε α → Scene ρ → Prop}
    (h : seen [⟨noted (step.on scene).1, scene, (step.on scene).2⟩] (step.on scene).1
      (step.on scene).2) :
    Watches (watch noted step) step scene seen :=
  ⟨_, fun _ => rfl, h⟩

theorem mono {watched : StateM (Scene (Watched ρ)) α} {plain : StateM (Scene ρ) α}
    {seen more : List (Sighting ρ) → α → Scene ρ → Prop} (h : Watches watched plain scene seen)
    (implies : ∀ new value after, plain scene = (value, after) → seen new value after →
      more new value after) : Watches watched plain scene more := by
  obtain ⟨new, same, holds⟩ := h
  exact ⟨new, same, implies _ _ _ rfl holds⟩

theorem andThen {first : StateM (Scene ρ) α} {first' : StateM (Scene (Watched ρ)) α}
    {next : α → StateM (Scene ρ) β} {next' : α → StateM (Scene (Watched ρ)) β}
    {seen : List (Sighting ρ) → β → Scene ρ → Prop}
    (h : Watches first' first scene fun new value middle =>
      Watches (next' value) (next value) middle fun later => seen (new ++ later)) :
    Watches (first' >>= next') (first >>= next) scene seen := by
  obtain ⟨new, same, later, sameLater, holds⟩ := h
  refine ⟨new ++ later, fun earlier => ?_, holds⟩
  change next' (first' _).1 (first' _).2 = _
  rw [same, sameLater, List.append_assoc]
  rfl

theorem bind {first : Step (Scene ρ) ε α} {first' : Step (Scene (Watched ρ)) ε α}
    {next : α → Step (Scene ρ) ε β} {next' : α → Step (Scene (Watched ρ)) ε β}
    {seen : List (Sighting ρ) → Except ε β → Scene ρ → Prop}
    (h : Watches first' first scene fun new result middle =>
      match result with
      | .error error => seen new (.error error) middle
      | .ok value => Watches (next' value) (next value) middle fun later => seen (new ++ later)) :
    Watches (first' >>= next' : Step (Scene (Watched ρ)) ε β)
      (first >>= next : Step (Scene ρ) ε β) scene seen := by
  change Watches (StateT.bind first' (ExceptT.bindCont next'))
    (StateT.bind first (ExceptT.bindCont next)) scene seen
  apply andThen
  apply h.mono
  rintro new (error | value) middle - h
  · apply silent (fun _ => rfl)
    rw [List.append_nil]
    exact h
  · exact h

theorem mapError {step : Step (Scene ρ) ε α} {step' : Step (Scene (Watched ρ)) ε α} (f : ε → ε')
    {seen : List (Sighting ρ) → Except ε' α → Scene ρ → Prop}
    (h : Watches step' step scene fun new result => seen new (result.mapError f)) :
    Watches (step'.mapError f) (step.mapError f) scene seen := by
  obtain ⟨new, same, holds⟩ := h
  have result : step.mapError f scene = ((step scene).1.mapError f, (step scene).2) :=
    Step.on_mapError f step scene
  refine ⟨new, fun earlier => ?_, ?_⟩
  · rw [show step'.mapError f _ = _ from Step.on_mapError f step' (scene.watched earlier)]
    unfold Step.on
    rw [same, result]
  · rw [result]
    exact holds

theorem outcome {step : Step (Scene ρ) ε α} {step' : Step (Scene (Watched ρ)) ε α}
    {seen : List (Sighting ρ) → Except ε' (Except ε α) → Scene ρ → Prop}
    (h : Watches step' step scene fun new result => seen new (.ok result)) :
    Watches step'.outcome step.outcome scene seen := by
  obtain ⟨new, same, holds⟩ := h
  refine ⟨new, fun earlier => ?_, holds⟩
  change (Except.ok (step' _).1, (step' _).2) = _
  rw [same]
  rfl

theorem onDisk {disk : Disk.Call α}
    {seen : List (Sighting ρ) → Except IoError α → Scene ρ → Prop}
    (h : seen [] ((Scene.onDisk disk).on scene).1 ((Scene.onDisk disk).on scene).2) :
    Watches (Scene.onDisk disk) (Scene.onDisk disk) scene seen :=
  silent (fun _ => rfl) h

end Watches

end AttachmentFetch
