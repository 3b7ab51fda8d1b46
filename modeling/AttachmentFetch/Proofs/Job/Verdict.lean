import AttachmentFetch.Proofs.Job.Course

/-! How a run ends for the store. The write that gives an attachment up has two
owners, the execution and the worker; between them every run that fails makes it
once, after everything else, and no other run makes it. -/
namespace AttachmentFetch

namespace ServiceCall

def isStorage : ServiceCall → Bool
  | findPointer .. | setState .. | insertContent .. => true
  | download .. | openSealed .. => false

def isFailedWrite : ServiceCall → Bool
  | setState .failed .. => true
  | _ => false

end ServiceCall

def storageCalls (seen : List (Sighting ρ)) : List ServiceCall :=
  (seen.map (·.call)).filter (·.isStorage)

@[simp] theorem storageCalls_nil : storageCalls ([] : List (Sighting ρ)) = [] := rfl

@[simp] theorem storageCalls_append (seen later : List (Sighting ρ)) :
    storageCalls (seen ++ later) = storageCalls seen ++ storageCalls later := by
  simp only [storageCalls, List.map_append, List.filter_append]

@[simp] theorem storageCalls_cons (sighting : Sighting ρ) (later : List (Sighting ρ)) :
    storageCalls (sighting :: later) =
      if sighting.call.isStorage then sighting.call :: storageCalls later
      else storageCalls later := by
  simp only [storageCalls, List.map_cons, List.filter_cons]

def NotGivenUp (calls : List ServiceCall) : Prop := ∀ call ∈ calls, call.isFailedWrite = false

/-- What the storage calls of a run come to, by the way in which it ends. -/
def EndsWith (task : DownloadTask) (calls : List ServiceCall) : JobEnding → Prop
  | .succeeded => NotGivenUp calls ∧ ∃ earlier attachment content,
      calls = earlier ++ [.insertContent task.message attachment content (.ok ())]
  | .failedPermanently _ | .retriesExhausted _ => ∃ earlier result,
      NotGivenUp earlier ∧
        calls = earlier ++ [.setState .failed task.attachment task.message result]

namespace NotGivenUp

theorem nil : NotGivenUp [] := by
  intro call h
  cases h

theorem append {calls later : List ServiceCall} (h : NotGivenUp calls) (h' : NotGivenUp later) :
    NotGivenUp (calls ++ later) := by
  intro call listed
  rcases List.mem_append.1 listed with listed | listed
  · exact h call listed
  · exact h' call listed

theorem cons {call : ServiceCall} {later : List ServiceCall} (h : call.isFailedWrite = false)
    (h' : NotGivenUp later) : NotGivenUp (call :: later) := by
  intro other listed
  rcases List.mem_cons.1 listed with rfl | listed
  · exact h
  · exact h' other listed

end NotGivenUp

theorem EndsWith.after {task : DownloadTask} {calls later : List ServiceCall} {ending : JobEnding}
    (before : NotGivenUp calls) (h : EndsWith task later ending) :
    EndsWith task (calls ++ later) ending := by
  cases ending with
  | succeeded =>
    obtain ⟨notGivenUp, earlier, attachment, content, h⟩ := h
    refine ⟨before.append notGivenUp, calls ++ earlier, attachment, content, ?_⟩
    rw [h, List.append_assoc]
  | failedPermanently | retriesExhausted =>
    obtain ⟨earlier, result, notGivenUp, h⟩ := h
    refine ⟨calls ++ earlier, result, before.append notGivenUp, ?_⟩
    rw [h, List.append_assoc]

/-- The services with another way of publishing that an attachment is given up. -/
def Services.withFailedWrite (services : Services ρ)
    (write : AttachmentId → MessageId → Step (Scene ρ) ErrorChain Unit) : Services ρ :=
  { services with
    setState := fun state attachment message =>
      if state = .failed then write attachment message
      else services.setState state attachment message }

namespace DownloadJob
variable {services : Services ρ} {settings : DownloadSettings} {task : DownloadTask}

theorem Opened.storageCalls_eq {pointer : Pointer} {path : String} {start after : Scene ρ}
    {seen : List (Sighting ρ)} {result : Except AttemptError Content}
    (opened : Opened services pointer path start seen result after) : storageCalls seen = [] := by
  cases opened <;> rfl

theorem Delivered.storageCalls_eq {pointer : Pointer} {path : String} {start after : Scene ρ}
    {seen : List (Sighting ρ)} {result : Except AttemptError Unit}
    (delivered : Delivered services settings task pointer path start seen result after) :
    (storageCalls seen = [] ∧ ∃ error, result = .error error) ∨
      ∃ content inserted, result = inserted.mapError .storage ∧
        storageCalls seen = [.insertContent task.message pointer.id content inserted] := by
  cases delivered with
  | undelivered => exact .inl ⟨rfl, _, rfl⟩
  | unopened _ opened =>
    refine .inl ⟨?_, _, rfl⟩
    simpa [ServiceCall.isStorage] using opened.storageCalls_eq
  | @handed _ _ content _ result _ _ opened _ =>
    refine .inr ⟨content, result, rfl, ?_⟩
    simp [ServiceCall.isStorage, opened.storageCalls_eq]

theorem Attempted.notGivenUp {start after : Scene ρ} {seen : List (Sighting ρ)}
    {result : Except AttemptError Unit}
    (attempted : Attempted services settings task start seen result after) :
    NotGivenUp (storageCalls seen) := by
  cases attempted with
  | unfound | absent => exact .cons rfl .nil
  | unmarked | unmade => exact .cons rfl (.cons rfl .nil)
  | ended _ _ _ delivered _ =>
    simp only [storageCalls_cons, ServiceCall.isStorage, if_true]
    rcases delivered.storageCalls_eq with ⟨none, -⟩ | ⟨content, inserted, -, one⟩
    · rw [none]
      exact .cons rfl (.cons rfl .nil)
    · rw [one]
      exact .cons rfl (.cons rfl (.cons rfl .nil))

/-- An attempt that succeeds has stored content last. -/
theorem Attempted.stored {start after : Scene ρ} {seen : List (Sighting ρ)}
    (attempted : Attempted services settings task start seen (.ok ()) after) :
    ∃ earlier attachment content,
      storageCalls seen = earlier ++ [.insertContent task.message attachment content (.ok ())] := by
  cases attempted with
  | @ended pointer _ _ _ _ _ _ _ _ _ _ _ delivered _ =>
    simp only [storageCalls_cons, ServiceCall.isStorage, if_true]
    rcases delivered.storageCalls_eq with ⟨-, error, h⟩ | ⟨content, inserted, h, one⟩
    · cases h
    · cases inserted with
      | error => cases h
      | ok =>
        rw [one]
        exact ⟨[_, _], pointer.id, content, rfl⟩

theorem Ran.endsWith {start after : Scene ρ} {seen : List (Sighting ρ)} {ending : JobEnding}
    (ran : Ran services settings task start seen ending after) :
    EndsWith task (storageCalls seen) ending := by
  induction ran with
  | succeeded attempted => exact ⟨attempted.notGivenUp, attempted.stored⟩
  | @givenUp _ _ _ _ _ result _ _ _ attempted _ _ _ ending_eq =>
    have earlier := attempted.notGivenUp
    simp only [storageCalls_append, storageCalls_cons, ServiceCall.isStorage, if_true,
      storageCalls_nil]
    rcases ending_eq with rfl | rfl <;> exact ⟨_, result, earlier, rfl⟩
  | again attempted _ _ ih =>
    rw [storageCalls_append]
    exact ih.after attempted.notGivenUp

section FailedWrite
variable (services : Services ρ) (settings : DownloadSettings) (task : DownloadTask)
  (write : AttachmentId → MessageId → Step (Scene ρ) ErrorChain Unit)

theorem attempt_withFailedWrite :
    attempt (services.withFailedWrite write) settings task = attempt services settings task := rfl

theorem bind_apply (first : StateM σ α) (next : α → StateM σ β) (state : σ) :
    (first >>= next) state = next (first state).1 (first state).2 := rfl

theorem execute_outcome {scene ended : Scene ρ} {error : AttemptError}
    (ran : attempt services settings task scene = (.error error, ended)) :
    (execute services settings task scene).1 = Outcome.ofError error := by
  unfold execute
  rw [bind_apply, ran]
  dsimp only
  cases error.prospect with
  | retryable => rfl
  | permanent =>
    simp only [bind_apply]
    cases (publishFailed services task _).1 <;> rfl

/-- As long as another attempt may follow, the write has not been made. -/
theorem execute_withFailedWrite (scene : Scene ρ) :
    (execute (services.withFailedWrite write) settings task scene).1 =
        (execute services settings task scene).1 ∧
      ∀ error, (execute services settings task scene).1 = .failed error →
        execute (services.withFailedWrite write) settings task scene =
          execute services settings task scene := by
  rcases ran : attempt services settings task scene with ⟨error | _, ended⟩
  · have outcome := execute_outcome (services.withFailedWrite write) settings task ran
    rw [execute_outcome services settings task ran, outcome]
    refine ⟨rfl, fun _ retryable => ?_⟩
    cases prospect : error.prospect with
    | permanent => simp [Outcome.ofError, prospect] at retryable
    | retryable => simp only [execute, bind_apply, attempt_withFailedWrite, ran, prospect]
  · simp [execute, bind_apply, attempt_withFailedWrite, ran]

theorem retry_withFailedWrite (budget : RetryBudget) (failures attempts : UInt32) :
    ∀ scene,
      (Worker.retry (downloadJob (services.withFailedWrite write) settings task) budget failures
          attempts scene).1 =
        (Worker.retry (downloadJob services settings task) budget failures attempts scene).1 := by
  -- The two runs stay in the same scene until one of them makes the write, which is its end.
  induction failures, attempts using Worker.retry.induct budget with
  | case1 failures attempts _ again =>
    intro scene
    obtain ⟨outcome, same⟩ := execute_withFailedWrite services settings task write scene
    rw [Worker.retry, Worker.retry]
    simp only [bind_apply, downloadJob]
    cases ran : (execute services settings task scene).1 with
    | succeeded =>
      rw [outcome, ran]
      rfl
    | failedPermanently error =>
      rw [outcome, ran]
      rfl
    | failed error =>
      rw [same error ran, ran]
      dsimp only
      split
      next allowed => exact again allowed _
      next => rfl

theorem process_withFailedWrite (backoff : Duration) (scene : Scene ρ) :
    (Worker.process backoff (downloadJob (services.withFailedWrite write) settings task) scene).1 =
      (Worker.process backoff (downloadJob services settings task) scene).1 := by
  simp only [Worker.process, bind_apply]
  rw [show (downloadJob (services.withFailedWrite write) settings task).maxFailures =
    (downloadJob services settings task).maxFailures from rfl, retry_withFailedWrite]
  rfl

end FailedWrite

end DownloadJob

end AttachmentFetch
