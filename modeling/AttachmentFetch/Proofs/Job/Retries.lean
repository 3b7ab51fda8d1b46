import AttachmentFetch.Rehearsal.Jobs
import Mathlib.Data.Nat.Find
import Mathlib.Order.Bounds.Basic

/-! How often a worker executes a job, and when. It counts executions and failures in 32
bits each; the two counts stay equal and never reach their limit, so that the whole
timetable of a run follows from what comes of each execution. -/
namespace AttachmentFetch

open Rehearsal (Entry)

def Outcome.ending (errorText : ε → String) : Outcome ε → JobEnding
  | succeeded => .succeeded
  | failed error => .retriesExhausted (errorText error)
  | failedPermanently error => .failedPermanently (errorText error)

/-- A job as a worker meets it: what comes of each execution, how long it takes, and what
comes of giving the job up. Executions are counted from 1 and never end by themselves. -/
structure Routine (ε : Type) where
  label : String
  factoryKey : String
  maxFailures : UInt32
  errorText : ε → String
  outcome : Nat → Outcome ε
  takes : Nat → Duration
  onExhausted : Except ErrorChain Unit

namespace Routine

def job (routine : Routine ε) (number : Nat) : Job (List Entry) ε where
  label := routine.label
  factoryKey := routine.factoryKey
  maxFailures := routine.maxFailures
  errorText := routine.errorText
  execute := do
    let execution := Rehearsal.ScriptedJob.executions (← get).rest number + 1
    Rehearsal.ScriptedJob.note number .execute
    modify (·.elapse (routine.takes execution))
    return routine.outcome execution
  onExhausted := do
    Rehearsal.ScriptedJob.note number .exhausted
    return routine.onExhausted

def budget (routine : Routine ε) (backoff : Duration) : RetryBudget :=
  ⟨routine.maxFailures, backoff⟩

def spent (routine : Routine ε) (backoff : Duration) : Nat → Nat
  | 0 => 0
  | n + 1 => routine.spent backoff n + (routine.takes (n + 1)).toNanos +
      ((routine.budget backoff).pauseAfter (UInt32.ofNat (n + 1))).toNanos

/-- The diary of as many executions, the first of which begins at `start`. -/
def diary (routine : Routine ε) (backoff : Duration) (number start executions : Nat) :
    List Entry :=
  (List.range executions).map fun i => ⟨start + routine.spent backoff i, number, .execute⟩

def lastEntry (number time : Nat) : JobEnding → List Entry
  | .retriesExhausted _ => [⟨time, number, .exhausted⟩]
  | .succeeded | .failedPermanently _ => []

/-- The numbers of executions after which a worker may stop. -/
def stops (routine : Routine ε) : Set Nat :=
  { n | 0 < n ∧ ((∀ error, routine.outcome n ≠ .failed error) ∨
    n = max 1 routine.maxFailures.toNat) }

end Routine

theorem Scene.clock_elapse (scene : Scene ρ) (span : Duration) :
    (scene.elapse span).clock = scene.clock + span.toNanos :=
  rfl

theorem Scene.rest_elapse (scene : Scene ρ) (span : Duration) :
    (scene.elapse span).rest = scene.rest := by
  rw [Scene.elapse]

namespace Worker

theorem toNat_increment {count : UInt32} (room : count.toNat + 1 < UInt32.size) :
    (increment count).toNat = count.toNat + 1 := by
  rw [increment, if_pos room, UInt32.toNat_add, UInt32.toNat_one]
  exact Nat.mod_eq_of_lt room

section Retry
variable {job : Job ρ ε} {budget : RetryBudget} {failures attempts : UInt32}
  {scene after : Scene ρ} {error : ε}

theorem retry_of_succeeded (ran : job.execute scene = (.succeeded, after)) :
    retry job budget failures attempts scene =
      ((.succeeded, increment attempts), after.record .info "Job succeeded"
        [("attempts", toString (increment attempts))]) := by
  rw [retry]
  simp only [bind, StateT.bind, ran]
  rfl

theorem retry_of_failedPermanently (ran : job.execute scene = (.failedPermanently error, after)) :
    retry job budget failures attempts scene =
      ((.failedPermanently (job.errorText error), increment attempts),
        after.record .error "Job failed permanently"
          [("attempts", toString (increment attempts)), ("error", job.errorText error)]) := by
  rw [retry]
  simp only [bind, StateT.bind, ran]
  rfl

theorem retry_of_allowed (ran : job.execute scene = (.failed error, after))
    (allowed : budget.allows (increment failures) = true) :
    retry job budget failures attempts scene =
      retry job budget (increment failures) (increment attempts)
        (pause budget (job.errorText error) (increment failures) after).2 := by
  rw [retry]
  simp only [bind, StateT.bind, ran, allowed, dite_true]
  rfl

theorem retry_of_spent (ran : job.execute scene = (.failed error, after))
    (spent : budget.allows (increment failures) = false) :
    retry job budget failures attempts scene =
      ((.retriesExhausted (job.errorText error), increment attempts),
        (exhaust job error (increment failures) after).2) := by
  rw [retry]
  simp only [bind, StateT.bind, ran, spent]
  rfl

end Retry

theorem process_on (backoff : Duration) (job : Job ρ ε) (scene : Scene ρ) :
    process backoff job scene =
      let ended := retry job ⟨job.maxFailures, backoff⟩ 0 0 scene
      ({ job := job.label, factoryKey := job.factoryKey, attempts := ended.1.2,
         status := ended.1.1 }, ended.2) :=
  rfl

end Worker

namespace Routine
variable {routine : Routine ε} {backoff : Duration} {number start : Nat} {earlier : List Entry}

theorem diary_succ (routine : Routine ε) (backoff : Duration) (number start n : Nat) :
    routine.diary backoff number start (n + 1) =
      routine.diary backoff number start n ++
        [⟨start + routine.spent backoff n, number, .execute⟩] := by
  simp only [diary, List.range_succ, List.map_append, List.map_singleton]

theorem executions_diary (routine : Routine ε) (backoff : Duration) (number start n : Nat) :
    Rehearsal.ScriptedJob.executions (routine.diary backoff number start n) number = n := by
  induction n with
  | zero => rfl
  | succ n ih =>
    rw [diary_succ, Rehearsal.ScriptedJob.executions, List.countP_append]
    rw [Rehearsal.ScriptedJob.executions] at ih
    simp [ih]

/-- A scene after as many executions of a job, each of which failed and was followed by a
pause. Nothing of the job had been entered before. -/
structure Underway (routine : Routine ε) (backoff : Duration) (number start : Nat)
    (earlier : List Entry) (n : Nat) (scene : Scene (List Entry)) : Prop where
  clock : scene.clock = start + routine.spent backoff n
  diary : scene.rest = earlier ++ routine.diary backoff number start n
  fresh : Rehearsal.ScriptedJob.executions earlier number = 0

theorem Underway.execute {n : Nat} {scene : Scene (List Entry)}
    (underway : routine.Underway backoff number start earlier n scene) :
    ∃ after, (routine.job number).execute scene = (routine.outcome (n + 1), after) ∧
      after.clock = start + routine.spent backoff n + (routine.takes (n + 1)).toNanos ∧
      after.rest = earlier ++ routine.diary backoff number start (n + 1) := by
  have counted : Rehearsal.ScriptedJob.executions scene.rest number = n := by
    have fresh := underway.fresh
    have made := executions_diary routine backoff number start n
    rw [Rehearsal.ScriptedJob.executions] at fresh made ⊢
    rw [underway.diary, List.countP_append, fresh, made, Nat.zero_add]
  have entered : scene.rest ++ [⟨scene.clock, number, .execute⟩] =
      earlier ++ routine.diary backoff number start (n + 1) := by
    rw [diary_succ, underway.diary, underway.clock, List.append_assoc]
  refine ⟨{ scene with
    rest := scene.rest ++ [⟨scene.clock, number, .execute⟩]
    clock := scene.clock + (routine.takes (n + 1)).toNanos }, ?_, ?_, entered⟩
  · subst counted
    rfl
  · rw [← underway.clock]

theorem pause_on (budget : RetryBudget) (errorText : String) (failures : UInt32)
    (scene : Scene ρ) :
    ∃ told : Scene ρ, (Worker.pause budget errorText failures scene).2 =
        told.elapse (budget.pauseAfter failures) ∧
      told.clock = scene.clock ∧ told.rest = scene.rest :=
  ⟨scene.record .warn "Job failed; retrying" _, rfl, rfl, rfl⟩

theorem exhaust_on (routine : Routine ε) (number : Nat) (error : ε) (failures : UInt32)
    (scene : Scene (List Entry)) :
    (Worker.exhaust (routine.job number) error failures scene).2.clock = scene.clock ∧
      (Worker.exhaust (routine.job number) error failures scene).2.rest =
        scene.rest ++ [⟨scene.clock, number, .exhausted⟩] := by
  obtain ⟨label, factoryKey, maxFailures, errorText, outcome, takes, onExhausted⟩ := routine
  cases onExhausted <;> exact ⟨rfl, rfl⟩

theorem bound_mem_stops (routine : Routine ε) :
    max 1 routine.maxFailures.toNat ∈ routine.stops :=
  ⟨by omega, .inr rfl⟩

instance (routine : Routine ε) : DecidablePred (· ∈ routine.stops) := fun n =>
  match outcome : routine.outcome n with
  | .failed _ =>
    decidable_of_iff (0 < n ∧ n = max 1 routine.maxFailures.toNat) (by simp [stops, outcome])
  | .succeeded => decidable_of_iff (0 < n) (by simp [stops, outcome])
  | .failedPermanently _ => decidable_of_iff (0 < n) (by simp [stops, outcome])

/-- How often a worker executes a job that it has not executed before. -/
def executed (routine : Routine ε) : Nat := Nat.find ⟨_, routine.bound_mem_stops⟩

theorem executed_isLeast (routine : Routine ε) : IsLeast routine.stops routine.executed :=
  ⟨Nat.find_spec ⟨_, routine.bound_mem_stops⟩, fun _ stop => Nat.find_min' _ stop⟩

structure Ended (routine : Routine ε) (backoff : Duration) (number start : Nat)
    (earlier : List Entry) (n : Nat)
    (result : (JobEnding × UInt32) × Scene (List Entry)) : Prop where
  status : result.1.1 = (routine.outcome n).ending routine.errorText
  attempts : result.1.2.toNat = n
  clock : result.2.clock =
    start + routine.spent backoff (n - 1) + (routine.takes n).toNanos
  diary : result.2.rest = earlier ++ routine.diary backoff number start n ++
    lastEntry number result.2.clock ((routine.outcome n).ending routine.errorText)

section Step
variable {n : Nat} {failures attempts : UInt32} {scene after : Scene (List Entry)}

theorem toNat_increment_of_bound (bound : n < max 1 routine.maxFailures.toNat) {count : UInt32}
    (counted : count.toNat = n) : (Worker.increment count).toNat = n + 1 := by
  have small := routine.maxFailures.toNat_lt
  have room : count.toNat + 1 < UInt32.size := by
    unfold UInt32.size
    omega
  rw [Worker.toNat_increment room, counted]

theorem allows_iff (counted : failures.toNat = n) :
    (routine.budget backoff).allows failures = true ↔ n < routine.maxFailures.toNat := by
  rw [← counted]
  exact decide_eq_true_iff.trans UInt32.lt_iff_toNat_lt

theorem Underway.pause (underway : routine.Underway backoff number start earlier n scene)
    (clock : after.clock = start + routine.spent backoff n + (routine.takes (n + 1)).toNanos)
    (entered : after.rest = earlier ++ routine.diary backoff number start (n + 1))
    (counted : failures.toNat = n + 1) (text : String) :
    routine.Underway backoff number start earlier (n + 1)
      (Worker.pause (routine.budget backoff) text failures after).2 := by
  obtain ⟨told, paused, toldClock, toldRest⟩ :=
    pause_on (routine.budget backoff) text failures after
  have counted : failures = UInt32.ofNat (n + 1) := by
    rw [← counted, UInt32.ofNat_toNat]
  rw [paused]
  refine ⟨?_, ?_, underway.fresh⟩
  · rw [Scene.clock_elapse, toldClock, clock, counted, spent]
    omega
  · rw [Scene.rest_elapse, toldRest, entered]

/-- One more execution: if it is one to stop after, the run has ended with it. If not, the
worker pauses and has room for the next, with both counts in step. -/
theorem Underway.step (underway : routine.Underway backoff number start earlier n scene)
    (failed : failures.toNat = n) (made : attempts.toNat = n)
    (bound : n < max 1 routine.maxFailures.toNat) :
    (n + 1 ∈ routine.stops ∧ routine.Ended backoff number start earlier (n + 1)
      (Worker.retry (routine.job number) (routine.budget backoff) failures attempts scene)) ∨
    (n + 1 ∉ routine.stops ∧
      (routine.budget backoff).allows (Worker.increment failures) = true ∧
      (Worker.increment failures).toNat = n + 1 ∧ (Worker.increment attempts).toNat = n + 1 ∧
      ∃ paused, routine.Underway backoff number start earlier (n + 1) paused ∧
        Worker.retry (routine.job number) (routine.budget backoff) failures attempts scene =
          Worker.retry (routine.job number) (routine.budget backoff)
            (Worker.increment failures) (Worker.increment attempts) paused) := by
  have failed := toNat_increment_of_bound bound failed
  have made := toNat_increment_of_bound bound made
  obtain ⟨after, ran, clock, entered⟩ := underway.execute
  cases outcome : routine.outcome (n + 1) with
  | succeeded =>
    rw [outcome] at ran
    refine .inl ⟨⟨n.succ_pos, .inl (by simp [outcome])⟩, ?_⟩
    rw [Worker.retry_of_succeeded ran]
    refine ⟨?_, made, clock, ?_⟩ <;> rw [outcome]
    · rfl
    · exact entered.trans (List.append_nil _).symm
  | failedPermanently error =>
    rw [outcome] at ran
    refine .inl ⟨⟨n.succ_pos, .inl (by simp [outcome])⟩, ?_⟩
    rw [Worker.retry_of_failedPermanently ran]
    refine ⟨?_, made, clock, ?_⟩ <;> rw [outcome]
    · rfl
    · exact entered.trans (List.append_nil _).symm
  | failed error =>
    rw [outcome] at ran
    cases allowed : (routine.budget backoff).allows (Worker.increment failures) with
    | true =>
      have below := (allows_iff failed).1 allowed
      have goesOn : n + 1 ∉ routine.stops := by
        rintro ⟨_, other | last⟩
        · exact other error outcome
        · omega
      exact .inr ⟨goesOn, rfl, failed, made, _, underway.pause clock entered failed _,
        Worker.retry_of_allowed ran allowed⟩
    | false =>
      have spent : ¬n + 1 < routine.maxFailures.toNat :=
        mt (allows_iff failed).2 (ne_true_of_eq_false allowed)
      obtain ⟨sameClock, hooked⟩ :=
        exhaust_on routine number error (Worker.increment failures) after
      refine .inl ⟨⟨n.succ_pos, .inr (by omega)⟩, ?_⟩
      rw [Worker.retry_of_spent ran allowed]
      refine ⟨?_, made, sameClock.trans clock, ?_⟩ <;> rw [outcome]
      · rfl
      · rw [sameClock, hooked, entered]
        rfl

end Step

theorem Underway.retry {n : Nat} {failures attempts : UInt32} {scene : Scene (List Entry)}
    (underway : routine.Underway backoff number start earlier n scene)
    (failed : failures.toNat = n) (made : attempts.toNat = n)
    (unstopped : ∀ i ∈ routine.stops, n < i) :
    ∃ last, IsLeast routine.stops last ∧ routine.Ended backoff number start earlier last
      (Worker.retry (routine.job number) (routine.budget backoff) failures attempts scene) := by
  induction failures, attempts using Worker.retry.induct (routine.budget backoff)
    generalizing n scene with
  | case1 failures attempts more =>
    rename_i again
    rcases underway.step failed made (unstopped _ routine.bound_mem_stops) with
      ⟨stop, ended⟩ | ⟨goesOn, allowed, failed', made', paused, underway', same⟩
    · exact ⟨n + 1, ⟨stop, unstopped⟩, ended⟩
    · rw [same]
      refine again allowed underway' failed' made' fun i here => ?_
      rcases Nat.lt_or_eq_of_le (unstopped i here) with later | rfl
      · exact later
      · exact absurd here goesOn

theorem ended (routine : Routine ε) (backoff : Duration) (number : Nat)
    (scene : Scene (List Entry))
    (fresh : Rehearsal.ScriptedJob.executions scene.rest number = 0) :
    routine.Ended backoff number scene.clock scene.rest routine.executed
      (Worker.retry (routine.job number) (routine.budget backoff) 0 0 scene) := by
  have begun : routine.Underway backoff number scene.clock scene.rest 0 scene :=
    ⟨rfl, (List.append_nil _).symm, fresh⟩
  obtain ⟨n, least, ended⟩ : ∃ n, IsLeast routine.stops n ∧
      routine.Ended backoff number scene.clock scene.rest n
        (Worker.retry (routine.job number) (routine.budget backoff) 0 0 scene) :=
    begun.retry rfl rfl fun _ here => here.1
  rwa [← least.unique routine.executed_isLeast]

/-- However the executions of a job come out, for ever so long: a worker stops after the
first that did not fail in passing, or else when as many have failed as the budget allows
(one, if it allows none). It reports exactly as many attempts, pauses between any two and
not after the last, and gives the job up once or, if it has come to another end, never;
what comes of giving it up is not reported. -/
theorem process_timetable (routine : Routine ε) (backoff : Duration) (number : Nat)
    (scene : Scene (List Entry))
    (fresh : Rehearsal.ScriptedJob.executions scene.rest number = 0) :
    ∃ n, IsLeast routine.stops n ∧
      let (report, after) := Worker.process backoff (routine.job number) scene
      report.job = routine.label ∧ report.factoryKey = routine.factoryKey ∧
      report.attempts.toNat = n ∧
      report.status = (routine.outcome n).ending routine.errorText ∧
      after.clock = scene.clock + routine.spent backoff (n - 1) + (routine.takes n).toNanos ∧
      after.rest = scene.rest ++ routine.diary backoff number scene.clock n ++
        lastEntry number after.clock report.status := by
  have ended := routine.ended backoff number scene fresh
  exact ⟨_, routine.executed_isLeast, rfl, rfl, ended.attempts, ended.status, ended.clock,
    ended.diary.trans (by rw [← ended.status]; rfl)⟩

def onceFailing : Routine String where
  label := "Job"
  factoryKey := "OnceFailing"
  maxFailures := 2
  errorText := id
  outcome n := if n < 2 then .failed "busy" else .succeeded
  takes _ := .ofSeconds 3
  onExhausted := .ok ()

theorem process_timetable_onceFailing :
    let scene : Scene (List Entry) := { disk := {}, rest := [] }
    Rehearsal.ScriptedJob.executions scene.rest 0 = 0 ∧
      let (report, after) := Worker.process (.ofSeconds 1) (onceFailing.job 0) scene
      report.attempts.toNat = 2 ∧ report.status = .succeeded ∧ after.clock = 7000000000 := by
  intro scene
  obtain ⟨n, least, _, _, attempts, status, clock, _⟩ :=
    process_timetable onceFailing (.ofSeconds 1) 0 scene rfl
  have second : IsLeast onceFailing.stops 2 := by
    refine ⟨⟨by omega, .inr rfl⟩, fun i ⟨_, stopped⟩ => ?_⟩
    by_contra early
    have first : i = 1 := by omega
    subst first
    obtain other | last := stopped
    · exact other "busy" rfl
    · exact absurd last (by decide)
  obtain rfl := least.unique second
  exact ⟨rfl, attempts, status, clock.trans (by decide)⟩

end Routine
end AttachmentFetch
