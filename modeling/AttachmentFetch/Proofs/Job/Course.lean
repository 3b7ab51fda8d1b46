import AttachmentFetch.Proofs.Scene
import AttachmentFetch.Proofs.Watch

/-! The course of a download job: what an opening, a delivery, an attempt, an
execution and a whole run may come to, by what is seen of them. Whatever is
claimed of runs follows from these by cases, and by induction on `Ran`. -/
namespace AttachmentFetch

def ScratchFile.removed (file : ScratchFile) (scene : Scene ρ) : Scene ρ :=
  ((Scene.onDisk (Disk.remove file.path)).on scene).2

namespace DownloadJob

section Relations
variable (services : Services ρ) (settings : DownloadSettings) (task : DownloadTask)

inductive Opened (pointer : Pointer) (path : String) (start : Scene ρ) :
    List (Sighting ρ) → Except AttemptError Content → Scene ρ → Prop
  | keyless {error} (isSealed : pointer.isSealed = true) (key : pointer.keyBytes = .error error) :
    Opened pointer path start [] (.error (.decrypt error)) start
  | unsealed {key result after} (isSealed : pointer.isSealed = true)
    (keyed : pointer.keyBytes = .ok key)
    (opened : (services.openSealed path pointer.size key (pointer.digest.getD [])).on start =
      (result, after)) :
    Opened pointer path start
      [⟨.openSealed path pointer.size key (pointer.digest.getD []) result, start, after⟩]
      (result.mapError .decrypt) after
  | plain {result after} (isSealed : pointer.isSealed = false)
    (read : (openContent services pointer path).on start = (result, after)) :
    Opened pointer path start [] result after

inductive Delivered (pointer : Pointer) (path : String) (start : Scene ρ) :
    List (Sighting ρ) → Except AttemptError Unit → Scene ρ → Prop
  | undelivered {error after}
    (fetched : (services.download path pointer.url settings.maxBytes settings.options).on start =
      (.error error, after)) :
    Delivered pointer path start
      [⟨.download path pointer.url settings.maxBytes settings.options (.error error), start, after⟩]
      (.error (.download error)) after
  | unopened {middle seen error after}
    (fetched : (services.download path pointer.url settings.maxBytes settings.options).on start =
      (.ok (), middle))
    (opened : Opened services pointer path middle seen (.error error) after) :
    Delivered pointer path start
      (⟨.download path pointer.url settings.maxBytes settings.options (.ok ()), start, middle⟩ ::
        seen)
      (.error error) after
  | handed {middle seen content ready result after}
    (fetched : (services.download path pointer.url settings.maxBytes settings.options).on start =
      (.ok (), middle))
    (opened : Opened services pointer path middle seen (.ok content) ready)
    (inserted : (services.insertContent task.message pointer.id content).on ready =
      (result, after)) :
    Delivered pointer path start
      (⟨.download path pointer.url settings.maxBytes settings.options (.ok ()), start, middle⟩ ::
        (seen ++ [⟨.insertContent task.message pointer.id content result, ready, after⟩]))
      (result.mapError .storage) after

inductive Attempted (start : Scene ρ) :
    List (Sighting ρ) → Except AttemptError Unit → Scene ρ → Prop
  | unfound {error after}
    (found : (services.findPointer task.attachment).on start = (.error error, after)) :
    Attempted start [⟨.findPointer task.attachment (.error error), start, after⟩]
      (.error (.storage error)) after
  | absent {after} (found : (services.findPointer task.attachment).on start = (.ok none, after)) :
    Attempted start [⟨.findPointer task.attachment (.ok none), start, after⟩]
      (.error .noAttachment) after
  | unmarked {pointer middle error after}
    (found : (services.findPointer task.attachment).on start = (.ok (some pointer), middle))
    (marked : (services.setState .started task.attachment task.message).on middle =
      (.error error, after)) :
    Attempted start
      [⟨.findPointer task.attachment (.ok (some pointer)), start, middle⟩,
        ⟨.setState .started task.attachment task.message (.error error), middle, after⟩]
      (.error (.storage error)) after
  | unmade {pointer middle ready error after}
    (found : (services.findPointer task.attachment).on start = (.ok (some pointer), middle))
    (marked : (services.setState .started task.attachment task.message).on middle =
      (.ok (), ready))
    (made : (Scene.onDisk (ScratchFile.makeIn settings.cacheDirectory)).on ready =
      (.error error, after)) :
    Attempted start
      [⟨.findPointer task.attachment (.ok (some pointer)), start, middle⟩,
        ⟨.setState .started task.attachment task.message (.ok ()), middle, ready⟩]
      (.error (.scratchFile error)) after
  | ended {pointer middle ready file making seen result last after}
    (found : (services.findPointer task.attachment).on start = (.ok (some pointer), middle))
    (marked : (services.setState .started task.attachment task.message).on middle =
      (.ok (), ready))
    (made : (Scene.onDisk (ScratchFile.makeIn settings.cacheDirectory)).on ready =
      (.ok file, making))
    (delivered : Delivered services settings task pointer file.path making seen result last)
    (cleared : (file.removed last).Alike after) :
    Attempted start
      (⟨.findPointer task.attachment (.ok (some pointer)), start, middle⟩ ::
        ⟨.setState .started task.attachment task.message (.ok ()), middle, ready⟩ :: seen)
      result after

inductive Executed (start : Scene ρ) :
    List (Sighting ρ) → Outcome AttemptError → Scene ρ → Prop
  | succeeded {seen ended after}
    (attempted : Attempted services settings task start seen (.ok ()) ended)
    (noted : ended.Alike after) :
    Executed start seen .succeeded after
  | failed {seen error ended after}
    (attempted : Attempted services settings task start seen (.error error) ended)
    (noted : ended.Alike after) :
    Executed start seen (.failed error) after
  | failedPermanently {seen error ended middle result last after}
    (attempted : Attempted services settings task start seen (.error error) ended)
    (noted : ended.Alike middle)
    (marked : (services.setState .failed task.attachment task.message).on middle = (result, last))
    (logged : last.Alike after) :
    Executed start
      (seen ++ [⟨.setState .failed task.attachment task.message result, middle, last⟩])
      (.failedPermanently error) after

/-- A run is a number of attempts that fail, each followed by another, and one
that succeeds or after which the job is given up. -/
inductive Ran : Scene ρ → List (Sighting ρ) → JobEnding → Scene ρ → Prop
  | succeeded {start seen ended after}
    (attempted : Attempted services settings task start seen (.ok ()) ended)
    (noted : ended.Alike after) :
    Ran start seen .succeeded after
  | givenUp {start seen error ended middle result last ending after}
    (attempted : Attempted services settings task start seen (.error error) ended)
    (noted : ended.Alike middle)
    (marked : (services.setState .failed task.attachment task.message).on middle = (result, last))
    (logged : last.Alike after)
    (ending_eq : ending = .failedPermanently error.message ∨
      ending = .retriesExhausted error.message) :
    Ran start (seen ++ [⟨.setState .failed task.attachment task.message result, middle, last⟩])
      ending after
  | again {start seen error ended next later ending after}
    (attempted : Attempted services settings task start seen (.error error) ended)
    (noted : ended.Alike next)
    (ran : Ran next later ending after) :
    Ran start (seen ++ later) ending after

end Relations

variable (services : Services ρ) (settings : DownloadSettings) (task : DownloadTask)

theorem openContent_watches (pointer : Pointer) (path : String) (scene : Scene ρ) :
    Watches (openContent services.watched pointer path) (openContent services pointer path)
      scene (Opened services pointer path scene) := by
  cases isSealed : pointer.isSealed with
  | false =>
    obtain ⟨new, same, rfl⟩ : Watches (openContent services.watched pointer path)
        (openContent services pointer path) scene fun seen _ _ => seen = [] := by
      unfold openContent
      simp only [isSealed, Bool.false_eq_true, if_false]
      refine .bind (.mapError _ (.onDisk ?_))
      split
      · rfl
      · refine .bind (.mapError _ (.onDisk ?_))
        split
        · rfl
        · exact .silent (fun _ => rfl) rfl
    exact ⟨[], same, .plain isSealed rfl⟩
  | true =>
    unfold openContent
    simp only [isSealed, if_true]
    refine .bind (.silent (fun _ => rfl) ?_)
    cases key : pointer.keyBytes with
    | error error => exact .keyless isSealed key
    | ok key' =>
      refine .mapError _ (.call _ ?_)
      exact .unsealed isSealed key rfl

theorem deliver_watches (pointer : Pointer) (path : String) (scene : Scene ρ) :
    Watches
      (do (services.watched.download path pointer.url settings.maxBytes settings.options).mapError
            .download
          let content ← openContent services.watched pointer path
          (services.watched.insertContent task.message pointer.id content).mapError .storage :
        Step (Scene (Watched ρ)) AttemptError Unit)
      (do (services.download path pointer.url settings.maxBytes settings.options).mapError .download
          let content ← openContent services pointer path
          (services.insertContent task.message pointer.id content).mapError .storage :
        Step (Scene ρ) AttemptError Unit)
      scene (Delivered services settings task pointer path scene) := by
  refine .bind (.mapError _ (.call _ ?_))
  rcases fetched : (services.download path pointer.url settings.maxBytes settings.options).on scene
    with ⟨error | _, middle⟩
  · exact .undelivered fetched
  · refine .bind ((openContent_watches services pointer path middle).mono ?_)
    rintro seen (error | content) ready - opened
    · exact .unopened fetched opened
    · refine .mapError _ (.call _ ?_)
      exact .handed fetched opened rfl

theorem finish_watches (file : ScratchFile) (scene : Scene ρ) :
    Watches (file.finish : Step (Scene (Watched ρ)) ε Unit) file.finish scene
      fun seen result after => seen = [] ∧ result = .ok () ∧ (file.removed scene).Alike after := by
  unfold ScratchFile.finish
  refine .bind (.outcome (.onDisk ?_))
  dsimp only
  split
  · exact .silent (fun _ => rfl) ⟨rfl, rfl, .refl _⟩
  · exact .silent (fun _ => rfl) ⟨rfl, rfl, .record ..⟩

theorem abandon_watches (file : ScratchFile) (scene : Scene ρ) :
    Watches (file.abandon : Step (Scene (Watched ρ)) ε Unit) file.abandon scene
      fun seen result after => seen = [] ∧ result = .ok () ∧ (file.removed scene).Alike after :=
  .bind (.outcome (.onDisk (.silent (fun _ => rfl) ⟨rfl, rfl, .refl _⟩)))

theorem during_watches (file : ScratchFile) {body : Step (Scene ρ) ε α}
    {body' : Step (Scene (Watched ρ)) ε α} {scene : Scene ρ}
    {seen : List (Sighting ρ) → Except ε α → Scene ρ → Prop}
    (h : Watches body' body scene fun new result last =>
      ∀ after, (file.removed last).Alike after → seen new result after) :
    Watches (file.during body') (file.during body) scene seen := by
  unfold ScratchFile.during
  refine .bind (.outcome (h.mono ?_))
  rintro new (error | value) last - h
  · refine .bind ((abandon_watches file last).mono ?_)
    rintro _ _ after - ⟨rfl, rfl, cleared⟩
    apply Watches.silent (fun _ => rfl)
    rw [List.append_nil, List.append_nil]
    exact h after cleared
  · refine .bind ((finish_watches file last).mono ?_)
    rintro _ _ after - ⟨rfl, rfl, cleared⟩
    apply Watches.silent (fun _ => rfl)
    rw [List.append_nil, List.append_nil]
    exact h after cleared

theorem attempt_watches (scene : Scene ρ) :
    Watches (attempt services.watched settings task) (attempt services settings task) scene
      (Attempted services settings task scene) := by
  refine .bind (.mapError _ (.call _ ?_))
  rcases found : (services.findPointer task.attachment).on scene with ⟨error | _ | pointer, middle⟩
  · exact .unfound found
  · exact .silent (fun _ => rfl) (.absent found)
  refine .bind (.mapError _ (.call _ ?_))
  rcases marked : (services.setState .started task.attachment task.message).on middle
    with ⟨error | _, ready⟩
  · exact .unmarked found marked
  refine .bind (.mapError _ (.onDisk ?_))
  rcases made : (Scene.onDisk (ScratchFile.makeIn settings.cacheDirectory)).on ready
    with ⟨error | file, making⟩
  · exact .unmade found marked made
  refine during_watches file ((deliver_watches services settings task pointer _ making).mono ?_)
  intro seen result last _ delivered after cleared
  exact .ended found marked made delivered cleared

theorem publishFailed_watches (scene : Scene ρ) :
    Watches (publishFailed services.watched task) (publishFailed services task) scene
      fun seen _ last => ∃ result,
        (services.setState .failed task.attachment task.message).on scene = (result, last) ∧
        seen = [⟨.setState .failed task.attachment task.message result, scene, last⟩] :=
  .mapError _ (.call _ ⟨_, rfl, rfl⟩)

theorem execute_watches (scene : Scene ρ) :
    Watches (execute services.watched settings task) (execute services settings task) scene
      (Executed services settings task scene) := by
  refine .andThen ((attempt_watches services settings task scene).mono ?_)
  rintro seen (error | _) ended - attempted
  · dsimp only
    cases prospect : error.prospect with
    | retryable =>
      apply Watches.silent (fun _ => rfl)
      simp only [Outcome.ofError, prospect, List.append_nil]
      exact .failed attempted (.record ..)
    | permanent =>
      simp only [Outcome.ofError, prospect]
      refine .andThen (.silent (fun _ => rfl) (.andThen ?_))
      apply (publishFailed_watches services task _).mono
      rintro _ published last - ⟨result, marked, rfl⟩
      cases published with
      | error markError =>
        apply Watches.silent (fun _ => rfl)
        rw [List.append_nil]
        exact .failedPermanently attempted (.record ..) marked (.record ..)
      | ok =>
        apply Watches.silent (fun _ => rfl)
        rw [List.append_nil]
        exact .failedPermanently attempted (.record ..) marked (.refl last)
  · apply Watches.silent (fun _ => rfl)
    rw [List.append_nil]
    exact .succeeded attempted (.record ..)

theorem exhaust_watches (error : AttemptError) (failures : UInt32) (scene : Scene ρ) :
    Watches (Worker.exhaust (downloadJob services.watched settings task) error failures)
      (Worker.exhaust (downloadJob services settings task) error failures) scene
      fun seen _ after => ∃ middle result last, scene.Alike middle ∧
        (services.setState .failed task.attachment task.message).on middle = (result, last) ∧
        seen = [⟨.setState .failed task.attachment task.message result, middle, last⟩] ∧
        last.Alike after := by
  refine .andThen (.silent (fun _ => rfl) (.andThen ?_))
  apply (publishFailed_watches services task _).mono
  rintro _ published last - ⟨result, marked, rfl⟩
  cases published with
  | error hookError =>
    apply Watches.silent (fun _ => rfl)
    exact ⟨_, _, _, .record .., marked, rfl, .record ..⟩
  | ok =>
    apply Watches.silent (fun _ => rfl)
    exact ⟨_, _, _, .record .., marked, rfl, .refl last⟩

theorem watched_at_clock (scene : Scene ρ) (clock : Nat) (seen : List (Sighting ρ)) :
    { scene.watched seen with clock } = Scene.watched { scene with clock } seen := rfl

theorem watched_elapse (scene : Scene ρ) (span : Duration) (seen : List (Sighting ρ)) :
    (scene.watched seen).elapse span = (scene.elapse span).watched seen :=
  watched_at_clock scene (scene.clock + span.toNanos) seen

theorem pause_watches (budget : RetryBudget) (errorText : String) (failures : UInt32)
    (scene : Scene ρ) :
    Watches (Worker.pause budget errorText failures) (Worker.pause budget errorText failures) scene
      fun seen _ after => seen = [] ∧ scene.Alike after := by
  unfold Worker.pause
  refine .andThen (.modify (fun _ => rfl) (.modify (watched_elapse _ _) ⟨rfl, ?_⟩))
  exact (Scene.Alike.record scene ..).trans (.elapse _ _)

theorem retry_watches (budget : RetryBudget) (failures attempts : UInt32) :
    ∀ scene, Watches
      (Worker.retry (downloadJob services.watched settings task) budget failures attempts)
      (Worker.retry (downloadJob services settings task) budget failures attempts) scene
      fun seen report after => Ran services settings task scene seen report.1 after := by
  -- Along the worker's own recursion, which ends because failures are counted up to a bound.
  induction failures, attempts using Worker.retry.induct budget with
  | case1 failures attempts _ again =>
    intro scene
    rw [Worker.retry, Worker.retry]
    refine .andThen ((execute_watches services settings task scene).mono ?_)
    intro seen outcome middle _ executed
    cases executed with
    | succeeded attempted noted =>
      apply Watches.silent (fun _ => rfl)
      rw [List.append_nil]
      exact .succeeded attempted (noted.trans (.record ..))
    | failedPermanently attempted noted marked logged =>
      apply Watches.silent (fun _ => rfl)
      rw [List.append_nil]
      exact .givenUp attempted noted marked (logged.trans (.record ..)) (.inl rfl)
    | failed attempted noted =>
      dsimp only
      split
      next allowed =>
        refine .andThen ((pause_watches budget _ _ middle).mono ?_)
        rintro _ _ next - ⟨rfl, waited⟩
        apply (again allowed next).mono
        intro later report after _ ran
        exact .again attempted (noted.trans waited) ran
      next =>
        refine .andThen ((exhaust_watches services settings task _ _ middle).mono ?_)
        rintro _ _ last - ⟨ready, result, marked', noted', marked, rfl, logged⟩
        apply Watches.silent (fun _ => rfl)
        rw [List.append_nil]
        exact .givenUp attempted (noted.trans noted') marked logged (.inr rfl)

/-- Watching a run changes nothing about it, and what is seen is the course of a run. -/
theorem process_watches (backoff : Duration) (scene : Scene ρ) :
    Watches (Worker.process backoff (downloadJob services.watched settings task))
      (Worker.process backoff (downloadJob services settings task)) scene
      fun seen report after => Ran services settings task scene seen report.status after := by
  refine .andThen ((retry_watches services settings task _ 0 0 scene).mono ?_)
  intro seen ended after _ ran
  apply Watches.silent (fun _ => rfl)
  rw [List.append_nil]
  exact ran

theorem ran_sightings (backoff : Duration) (scene : Scene ρ) :
    Ran services settings task scene (sightings services settings backoff task scene)
      (Worker.process backoff (downloadJob services settings task) scene).1.status
      (Worker.process backoff (downloadJob services settings task) scene).2 := by
  obtain ⟨seen, same, ran⟩ := process_watches services settings task backoff scene
  have noted : sightings services settings backoff task scene = seen := by
    rw [sightings, same]
    rfl
  rw [noted]
  exact ran

theorem process_watched (backoff : Duration) (scene : Scene ρ) :
    Worker.process backoff (downloadJob services.watched settings task) (scene.watched []) =
      ((Worker.process backoff (downloadJob services settings task) scene).1,
        (Worker.process backoff (downloadJob services settings task) scene).2.watched
          (sightings services settings backoff task scene)) := by
  obtain ⟨seen, same, -⟩ := process_watches services settings task backoff scene
  rw [sightings, same]
  rfl

end DownloadJob

end AttachmentFetch
