import Mathlib.Algebra.BigOperators.Intervals
import Mathlib.Algebra.BigOperators.Ring.Finset
import Mathlib.Algebra.Group.Nat.Even
import AttachmentFetch.Proofs.Duration
import AttachmentFetch.Proofs.Job.Lockstep
import AttachmentFetch.Proofs.Scene

/-! How long a worker pauses. A single pause is the backoff times the number of failures,
cut at the longest span there is; what a run sleeps is the sum of its pauses, and whatever
the job itself does to the clock has no part in it. -/
namespace AttachmentFetch

namespace RetryBudget

theorem toNanos_pauseAfter (budget : RetryBudget) (failures : UInt32) :
    (budget.pauseAfter failures).toNanos =
      min (UInt64.size * nanosPerSecond - 1) (budget.backoff.toNanos * max failures.toNat 1) := by
  rw [pauseAfter, Duration.toNanos_saturatingMul, Duration.toNanos_max]
  congr 2
  split
  next none =>
    have := UInt32.lt_iff_toNat_lt.1 none
    simp only [UInt32.toNat_one] at this ⊢
    omega
  next some =>
    have := mt UInt32.lt_iff_toNat_lt.2 some
    simp only [UInt32.toNat_one] at this
    omega

theorem pauseAfter_mono {budget later : RetryBudget} {failures more : UInt32}
    (longer : budget.backoff.toNanos ≤ later.backoff.toNanos) (counted : failures ≤ more) :
    (budget.pauseAfter failures).toNanos ≤ (later.pauseAfter more).toNanos := by
  have := UInt32.le_iff_toNat_le.1 counted
  rw [toNanos_pauseAfter, toNanos_pauseAfter]
  exact min_le_min_left _ (Nat.mul_le_mul longer (max_le_max_right 1 this))

def pauses (budget : RetryBudget) (failures : Nat) : List Duration :=
  (List.range failures).map fun i => budget.pauseAfter (UInt32.ofNat (i + 1))

theorem pauses_succ (budget : RetryBudget) (failures : Nat) :
    budget.pauses (failures + 1) =
      budget.pauses failures ++ [budget.pauseAfter (UInt32.ofNat (failures + 1))] := by
  simp only [pauses, List.range_succ, List.map_append, List.map_singleton]

/-- As long as no pause is cut, each is longer than the one before it by the backoff. -/
theorem sum_pauses {budget : RetryBudget} {n : Nat} (counted : n < UInt32.size)
    (uncut : ∀ i < n, budget.backoff.toNanos * i < UInt64.size * nanosPerSecond) :
    ((budget.pauses (n - 1)).map Duration.toNanos).sum =
      budget.backoff.toNanos * n * (n - 1) / 2 := by
  cases n with
  | zero => simp [pauses]
  | succ n =>
    have even : 2 ∣ (n + 1) * n := (Nat.even_mul_pred_self (n + 1)).two_dvd
    have whole : (budget.pauses n).map Duration.toNanos =
        (List.range n).map fun i => budget.backoff.toNanos * (i + 1) := by
      rw [pauses, List.map_map]
      refine List.map_congr_left fun i listed => ?_
      have early := List.mem_range.1 listed
      have short := uncut (i + 1) (Nat.succ_lt_succ early)
      rw [Function.comp, toNanos_pauseAfter, UInt32.toNat_ofNat_of_lt' (by omega),
        max_eq_left (by omega), min_eq_right (by omega)]
    calc ((budget.pauses n).map Duration.toNanos).sum
        = ∑ i ∈ Finset.range n, budget.backoff.toNanos * (i + 1) := by rw [whole]; rfl
      _ = ∑ i ∈ Finset.range (n + 1), budget.backoff.toNanos * i := by
          rw [Finset.sum_range_succ' _ n, Nat.mul_zero, Nat.add_zero]
      _ = budget.backoff.toNanos * ((n + 1) * n / 2) := by
          rw [← Finset.mul_sum, Finset.sum_range_id, Nat.add_sub_cancel]
      _ = budget.backoff.toNanos * (n + 1) * n / 2 := by
          rw [Nat.mul_assoc, Nat.mul_div_assoc _ even]

end RetryBudget

/-- Nothing is done between the two scenes but that something is logged. -/
def Scene.Told (before after : Scene ρ) : Prop :=
  ∃ events, after = { before with log := before.log ++ events }

theorem Scene.Told.record (scene : Scene ρ) (level : Level) (message : String)
    (fields : List (String × String)) : Told scene (scene.record level message fields) :=
  ⟨_, rfl⟩

theorem Scene.Told.refl (scene : Scene ρ) : Told scene scene := ⟨[], by rw [List.append_nil]⟩

namespace Worker
variable {job : Job ρ ε} {budget : RetryBudget}

/-- What a worker does before the last execution of a job: time and again an execution that
fails, and then a time that is slept. -/
inductive Rounds (job : Job ρ ε) : Scene ρ → List Duration → Scene ρ → Prop
  | none {scene} : Rounds job scene [] scene
  | again {start failed told last error span spans}
    (ran : job.execute start = (.failed error, failed)) (noted : failed.Told told)
    (later : Rounds job (told.elapse span) spans last) : Rounds job start (span :: spans) last

inductive Closed (job : Job ρ ε) (ended : Scene ρ) : Outcome ε → Scene ρ → Prop
  | settled {outcome after} (final : ∀ error, outcome ≠ .failed error)
    (noted : ended.Told after) : Closed job ended outcome after
  | givenUp {error told after} (noted : ended.Told told)
    (hooked : (job.onExhausted told).2.Told after) : Closed job ended (.failed error) after

theorem exhaust_closed (job : Job ρ ε) (error : ε) (failures : UInt32) (ended : Scene ρ) :
    Closed job ended (.failed error) (exhaust job error failures ended).2 := by
  obtain ⟨fields, given⟩ := exhaust_hook job error failures ended
  refine .givenUp (.record ended .error "Job exhausted its retries" fields) ?_
  rcases given with given | ⟨_, given⟩ <;> rw [given]
  · exact .refl _
  · exact .record ..

theorem pause_told (budget : RetryBudget) (errorText : String) (failures : UInt32)
    (scene : Scene ρ) :
    ∃ told, scene.Told told ∧
      (pause budget errorText failures scene).2 = told.elapse (budget.pauseAfter failures) :=
  ⟨_, .record scene .warn "Job failed; retrying" _, rfl⟩

/-- A run from its `k`-th failure on: rounds, with the pauses that are still due, and a last
execution. -/
theorem retry_rounds (job : Job ρ ε) (budget : RetryBudget) {failures attempts : UInt32}
    {k : Nat} (failed : failures.toNat = k) (made : attempts.toNat = k)
    (bound : k < max 1 budget.maxFailures.toNat) (start : Scene ρ) :
    let ((_, attempts), after) := retry job budget failures attempts start
    ∃ spans last outcome ended, Rounds job start spans last ∧
      job.execute last = (outcome, ended) ∧ Closed job ended outcome after ∧
      attempts.toNat = k + spans.length + 1 ∧
      budget.pauses (k + spans.length) = budget.pauses k ++ spans := by
  have small := budget.maxFailures.toNat_lt
  induction failures, attempts using Worker.retry.induct budget generalizing k start with
  | case1 failures attempts more =>
    rename_i again
    have room : k + 1 < UInt32.size := by
      unfold UInt32.size
      omega
    have failed' : (increment failures).toNat = k + 1 := by
      rw [toNat_increment (by omega), failed]
    have made' : (increment attempts).toNat = k + 1 := by
      rw [toNat_increment (by omega), made]
    rcases ran : job.execute start with ⟨outcome, ended⟩
    cases outcome with
    | succeeded =>
      rw [retry_of_succeeded ran]
      exact ⟨[], start, _, ended, .none, ran, .settled (by simp) (.record ..), made',
        (List.append_nil _).symm⟩
    | failedPermanently error =>
      rw [retry_of_failedPermanently ran]
      exact ⟨[], start, _, ended, .none, ran, .settled (by simp) (.record ..), made',
        (List.append_nil _).symm⟩
    | failed error =>
      cases allowed : budget.allows (increment failures) with
      | true =>
        have below : k + 1 < budget.maxFailures.toNat := by
          rw [← failed']
          exact UInt32.lt_iff_toNat_lt.1 (of_decide_eq_true allowed)
        have counted : increment failures = UInt32.ofNat (k + 1) := by
          rw [← failed', UInt32.ofNat_toNat]
        obtain ⟨told, noted, paused⟩ :=
          pause_told budget (job.errorText error) (increment failures) ended
        rw [retry_of_allowed ran allowed, paused]
        obtain ⟨spans, last, outcome, ended, rounds, ran', closed, executed, given⟩ :=
          again allowed failed' made' (by omega)
            (told.elapse (budget.pauseAfter (increment failures)))
        refine ⟨_ :: spans, last, outcome, ended, .again ran noted rounds, ran', closed, ?_, ?_⟩
        · rw [executed, List.length_cons]
          omega
        · rw [List.length_cons, ← Nat.add_assoc, Nat.add_right_comm, given,
            RetryBudget.pauses_succ, List.append_assoc, List.singleton_append, counted]
      | false =>
        rw [retry_of_spent ran allowed]
        exact ⟨[], start, _, ended, .none, ran, exhaust_closed job error _ ended, made',
          (List.append_nil _).symm⟩

/-- A pause is, to the nanosecond, the backoff times the number of failures (one, if there are
none), or the longest span there is; words of 64 bits are enough to compute it. So it grows
with both. A run of `n` executions sleeps after each of them but the last, as long as is due
after `1` up to `n - 1` failures; unless a pause is cut, this comes to `n * (n - 1) / 2` times
the backoff, whatever the job does. -/
theorem pauses_exact (job : Job ρ ε) (backoff : Duration) (scene : Scene ρ) :
    (∀ (budget : RetryBudget) (failures : UInt32),
      let pause := budget.pauseAfter failures
      let factor := if failures < 1 then 1 else failures
      pause.toNanos = min (2 ^ 64 * 10 ^ 9 - 1) (budget.backoff.toNanos * max failures.toNat 1) ∧
      pause.nanos.toNat < 10 ^ 9 ∧
      (budget.backoff.nanos.toUInt64 * factor.toUInt64).toNat =
        budget.backoff.nanos.toNat * factor.toNat ∧
      pause = (budget.backoff.checkedMul factor).getD Duration.max ∧
      ∀ (longer : RetryBudget) (more : UInt32), failures ≤ more →
        budget.backoff.toNanos ≤ longer.backoff.toNanos →
        pause.toNanos ≤ (longer.pauseAfter more).toNanos) ∧
    let budget : RetryBudget := ⟨job.maxFailures, backoff⟩
    let (report, after) := process backoff job scene
    let n := report.attempts.toNat
    ∃ spans last outcome ended, Rounds job scene spans last ∧ spans.length + 1 = n ∧
      job.execute last = (outcome, ended) ∧ Closed job ended outcome after ∧
      (spans = (List.range (n - 1)).map fun i => budget.pauseAfter (UInt32.ofNat (i + 1))) ∧
      ((∀ i < n, backoff.toNanos * i < 2 ^ 64 * 10 ^ 9) →
        (spans.map Duration.toNanos).sum = backoff.toNanos * n * (n - 1) / 2) := by
  refine ⟨fun budget failures => ⟨RetryBudget.toNanos_pauseAfter .., Duration.nanos_lt _,
    Duration.nanos_product .., Duration.saturatingMul_eq_checked ..,
    fun longer more counted least => RetryBudget.pauseAfter_mono least counted⟩, ?_⟩
  have begun : 0 < max 1 (RetryBudget.maxFailures ⟨job.maxFailures, backoff⟩).toNat := by omega
  obtain ⟨spans, last, outcome, ended, rounds, ran, closed, executed, given⟩ :=
    retry_rounds job ⟨job.maxFailures, backoff⟩ UInt32.toNat_zero UInt32.toNat_zero begun scene
  rw [Nat.zero_add] at executed given
  have spans_eq : spans = RetryBudget.pauses ⟨job.maxFailures, backoff⟩
      ((process backoff job scene).1.attempts.toNat - 1) := by
    rw [show (process backoff job scene).1.attempts.toNat = spans.length + 1 from executed]
    exact given.symm
  exact ⟨spans, last, outcome, ended, rounds, executed.symm, ran, closed, spans_eq,
    fun uncut => (congrArg (List.sum <| List.map Duration.toNanos ·) spans_eq).trans
      (RetryBudget.sum_pauses (UInt32.toNat_lt _) uncut)⟩

end Worker
end AttachmentFetch
