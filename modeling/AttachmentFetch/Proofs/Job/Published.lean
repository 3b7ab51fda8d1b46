import AttachmentFetch.Proofs.Job.Effect
import AttachmentFetch.Proofs.Job.Verdict
import AttachmentFetch.Proofs.Store.Insertion

/-! What a run publishes. The last storage call of a run is the one that its report
speaks of, and when that call succeeds the row says what the report says. -/
namespace AttachmentFetch

/-- The attachment belongs to the message, as far as the database knows. -/
def Scene.Owner (scene : Scene Backend) (task : DownloadTask) : Prop :=
  scene.rest.database.Owner task.attachment task.message

def Scene.Publishes (scene : Scene Backend) (attachment : AttachmentId) (state : AttachmentState) :
    Prop :=
  ∃ row, scene.rest.database.findAttachment attachment = .ok (some row) ∧ row.state = state.name

/-- The state that a call has published for an attachment of a message. -/
def ServiceCall.published? (attachment : AttachmentId) (message : MessageId) :
    ServiceCall → Option AttachmentState
  | setState state attachment' message' (.ok ()) =>
    if attachment = attachment' ∧ message = message' then some state else none
  | _ => none

/-- The state that goes with the way in which a job ended. -/
def JobEnding.published : JobEnding → AttachmentState
  | succeeded => .done
  | failedPermanently _ | retriesExhausted _ => .failed

namespace DownloadJob
variable {repository : Repository} {settings : DownloadSettings} {task : DownloadTask}
  {start after : Scene Backend} {seen : List (Sighting Backend)}

theorem owner_of_database (same : after.rest.database = start.rest.database)
    (owned : start.Owner task) : after.Owner task := by
  unfold Scene.Owner
  rwa [same]

theorem Begun.owner (begun : Begun task start after) (owned : start.Owner task) :
    after.Owner task := by
  obtain ⟨⟨now, count, updated⟩, -⟩ := begun
  exact owned.revised updated (fun _ => rfl) fun _ => rfl

theorem Effect.owner {result : Except AttemptError Unit}
    (effect : Effect repository settings task start seen result after)
    (owned : start.Owner task) : after.Owner task := by
  cases effect with
  | unmarked _ same => exact owner_of_database same.database owned
  | undelivered _ begun writes => exact owner_of_database writes.database (begun.owner owned)
  | @inserted _ content result _ _ _ _ _ _ begun writes inserting clears =>
    apply owner_of_database clears.database
    have owned := owner_of_database writes.database (begun.owner owned)
    cases result with
    | error => exact owner_of_database (Repository.insertContent_error inserting).1 owned
    | ok =>
      obtain ⟨-, -, ⟨stored, now, count, -, -, updated⟩, -⟩ :=
        Repository.insertContent_ok inserting
      exact owned.revised updated (fun _ => rfl) fun _ => rfl

theorem Effect.publishes (effect : Effect repository settings task start seen (.ok ()) after)
    (owned : start.Owner task) : after.Publishes task.attachment .done := by
  generalize result_eq : (Except.ok () : Except AttemptError Unit) = result at effect
  cases effect with
  | unmarked | undelivered => cases result_eq
  | @inserted _ content result _ _ _ _ _ _ begun writes inserting clears =>
    have owned := owner_of_database writes.database (begun.owner owned)
    cases result with
    | error => cases result_eq
    | ok =>
      obtain ⟨-, -, ⟨stored, now, count, -, -, updated⟩, -⟩ :=
        Repository.insertContent_ok inserting
      obtain ⟨row, found⟩ := owned.find_updated updated fun _ => rfl
      rw [← clears.database] at found
      exact ⟨_, found, rfl⟩

theorem Ran.publishes {ending : JobEnding}
    (ran : Ran repository.services settings task start seen ending after)
    (owned : start.Owner task)
    (written : ∀ call ∈ storageCalls seen, call.isFailedWrite = true →
      call = .setState .failed task.attachment task.message (.ok ())) :
    after.Publishes task.attachment ending.published := by
  induction ran with
  | succeeded attempted noted =>
    unfold Scene.Publishes
    rw [noted.rest]
    exact attempted.effect.publishes owned
  | @givenUp _ _ _ _ _ result _ ending _ attempted noted marked logged ending_eq =>
    have owned := owner_of_database (congrArg Backend.database noted.rest)
      (attempted.effect.owner owned)
    have ok : result = .ok () := by
      have last := written (.setState .failed task.attachment task.message result)
        (by simp [ServiceCall.isStorage]) rfl
      injection last
    subst ok
    obtain ⟨count, updated, -⟩ := Repository.setState_ok marked
    obtain ⟨row, found⟩ := owned.find_updated updated fun _ => rfl
    have published : ending.published = .failed := by
      rcases ending_eq with rfl | rfl <;> rfl
    unfold Scene.Publishes
    rw [logged.rest, published]
    exact ⟨_, found, rfl⟩
  | again attempted noted _ ih =>
    refine ih ?_ fun call listed => written call (by simp [listed])
    exact owner_of_database (congrArg Backend.database noted.rest) (attempted.effect.owner owned)

end DownloadJob

/-- The write that gives an attachment up is made once, as the last storage call, by
the runs that fail and by no others, whose last storage call has stored the content.
Whatever comes of that write, the report is the same. With a real store, and
unless the write fails, the row of an attachment of the message ends as the report says. -/
theorem run_publishes_verdict (settings : DownloadSettings) (backoff : Duration)
    (task : DownloadTask) :
    (∀ {ρ : Type} (services : Services ρ) (scene : Scene ρ),
      EndsWith task (storageCalls (sightings services settings backoff task scene))
        (Worker.process backoff (downloadJob services settings task) scene).1.status) ∧
    (∀ {ρ : Type} (services : Services ρ)
        (write : AttachmentId → MessageId → Step (Scene ρ) ErrorChain Unit) (scene : Scene ρ),
      (Worker.process backoff (downloadJob (services.withFailedWrite write) settings task)
          scene).1 =
        (Worker.process backoff (downloadJob services settings task) scene).1) ∧
    (∀ (repository : Repository) (scene : Scene Backend), scene.Owner task →
      (∀ call ∈ storageCalls (sightings repository.services settings backoff task scene),
        call.isFailedWrite = true →
          call = .setState .failed task.attachment task.message (.ok ())) →
      (Worker.process backoff (downloadJob repository.services settings task)
          scene).2.Publishes task.attachment
        (Worker.process backoff (downloadJob repository.services settings task)
          scene).1.status.published) := by
  refine ⟨fun services scene => ?_, fun services write scene => ?_, fun repository scene => ?_⟩
  · exact (DownloadJob.ran_sightings services settings task backoff scene).endsWith
  · exact DownloadJob.process_withFailedWrite services settings task write backoff scene
  · exact (DownloadJob.ran_sightings repository.services settings task backoff scene).publishes

/-- The row of an attachment that is fetched from a server that has it, and what becomes of it
with a server that does not: the last that is written is that it was given up. -/
theorem run_publishes_verdict_served :
    let services := (⟨"/p"⟩ : Repository).services
    let settings : DownloadSettings := { cacheDirectory := "/c", maxFailures := 1 }
    let missing : Scene Backend :=
      { Scene.served with rest := { Scene.served.rest with network := .up [] [] } }
    let run := Worker.process (Duration.ofSeconds 1) (downloadJob services settings ⟨⟨5⟩, ⟨10⟩⟩)
    (run Scene.served).2.Publishes ⟨5⟩ .done ∧
      (run missing).2.Publishes ⟨5⟩ .failed ∧
      ∃ earlier, storageCalls
          (sightings services settings (Duration.ofSeconds 1) ⟨⟨5⟩, ⟨10⟩⟩ missing) =
        earlier ++ [.setState .failed ⟨5⟩ ⟨10⟩ (.ok ())] := by
  intro services settings missing run
  obtain ⟨shape, -, publishes⟩ := run_publishes_verdict settings (Duration.ofSeconds 1)
    ⟨⟨5⟩, ⟨10⟩⟩
  constructor
  · have succeeded : (run Scene.served).1.status = .succeeded := by decide +kernel
    have ends := shape services Scene.served
    have published := publishes ⟨"/p"⟩ Scene.served ⟨_, rfl, rfl⟩
    rw [succeeded] at ends published
    exact published fun call listed failed =>
      Bool.noConfusion ((ends.1 call listed).symm.trans failed)
  · have exhausted : (run missing).1.status = .retriesExhausted
        "download failed: transport error: file server responded with 404 Not Found" := by
      decide +kernel
    have ends := shape services missing
    have published := publishes ⟨"/p"⟩ missing ⟨_, rfl, rfl⟩
    rw [exhausted] at ends published
    obtain ⟨earlier, result, notGivenUp, calls⟩ := ends
    have written : (storageCalls (sightings services settings (Duration.ofSeconds 1)
        ⟨⟨5⟩, ⟨10⟩⟩ missing)).getLast?.bind (·.published? ⟨5⟩ ⟨10⟩) = some .failed := by
      decide +kernel
    obtain rfl : result = .ok () := by
      rw [calls, List.getLast?_concat] at written
      cases result with
      | ok => rfl
      | error => cases written
    refine ⟨published fun call listed failed => ?_, earlier, calls⟩
    rw [calls] at listed
    rcases List.mem_append.1 listed with listed | listed
    · exact Bool.noConfusion ((notGivenUp call listed).symm.trans failed)
    · exact List.mem_singleton.1 listed

end AttachmentFetch
