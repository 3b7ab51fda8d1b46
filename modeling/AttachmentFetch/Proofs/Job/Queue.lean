import AttachmentFetch.Proofs.Job.Lockstep
import Mathlib.Algebra.Ring.Nat
import Mathlib.Data.List.Induction

/-! What becomes of a queue. A worker takes nothing from one job to the next but the time
that it is, so that each job comes out as it does alone, only later; and neither those who
read the reports nor what comes of giving a job up can be told from the diary. -/
namespace AttachmentFetch

open Rehearsal (Entry)

/-- A routine that is the work of a worker for some time: giving it up takes time as well. -/
structure Assignment (ε : Type) extends Routine ε where
  hookTakes : Duration

namespace Assignment

def job (assignment : Assignment ε) (number : Nat) : Job (List Entry) ε :=
  { assignment.toRoutine.job number with
    onExhausted := do
      let result ← (assignment.toRoutine.job number).onExhausted
      modify (·.elapse assignment.hookTakes)
      return result }

def withHook (assignment : Assignment ε) (hook : Except ErrorChain Unit) : Assignment ε :=
  { assignment with onExhausted := hook }

/-- The jobs of a queue; each enters in the diary under its place in the queue. -/
def queue (assignments : List (Assignment ε)) : List (Job (List Entry) ε) :=
  assignments.mapIdx fun place assignment => assignment.job place

def alone (assignment : Assignment ε) (backoff : Duration) (number : Nat) :
    List JobReport × Scene (List Entry) :=
  Worker.run .taken backoff [assignment.job number] { disk := {}, rest := [] }

/-- The time that passes while a job is executed as often as it takes, with the pauses between. -/
def executing (assignment : Assignment ε) (backoff : Duration) : Nat :=
  assignment.spent backoff (assignment.executed - 1) +
    (assignment.takes assignment.executed).toNanos

def ending (assignment : Assignment ε) : JobEnding :=
  (assignment.outcome assignment.executed).ending assignment.errorText

def report (assignment : Assignment ε) : JobReport where
  job := assignment.label
  factoryKey := assignment.factoryKey
  attempts := UInt32.ofNat assignment.executed
  status := assignment.ending

def entries (assignment : Assignment ε) (backoff : Duration) (number start : Nat) : List Entry :=
  assignment.diary backoff number start assignment.executed ++
    Routine.lastEntry number (start + assignment.executing backoff) assignment.ending

/-- The time that passes after the last execution. -/
def closing (assignment : Assignment ε) : JobEnding → Nat
  | .retriesExhausted _ => assignment.hookTakes.toNanos
  | .succeeded | .failedPermanently _ => 0

def duration (assignment : Assignment ε) (backoff : Duration) : Nat :=
  assignment.executing backoff + assignment.closing assignment.ending

/-- The time that a worker takes for a queue, if it takes for each job what it takes alone. -/
def total (backoff : Duration) (assignments : List (Assignment ε)) : Nat :=
  (assignments.mapIdx fun place assignment => (assignment.alone backoff place).2.clock).sum

end Assignment

def Rehearsal.Entry.later (delay : Nat) (entry : Entry) : Entry :=
  { entry with time := delay + entry.time }

namespace Worker

section Run
variable (reports : Reports) (backoff : Duration) (scene : Scene ρ)

theorem run_cons (job : Job ρ ε) (jobs : List (Job ρ ε)) :
    run reports backoff (job :: jobs) scene =
      let first := run reports backoff [job] scene
      let later := run reports backoff jobs first.2
      (first.1 ++ later.1, later.2) := by
  cases reports <;> rfl

theorem run_append (jobs more : List (Job ρ ε)) :
    run reports backoff (jobs ++ more) scene =
      let first := run reports backoff jobs scene
      let second := run reports backoff more first.2
      (first.1 ++ second.1, second.2) := by
  induction jobs generalizing scene with
  | nil => rfl
  | cons job jobs ih =>
    rw [List.cons_append, run_cons, run_cons _ _ _ job jobs]
    simp only [ih, List.append_assoc]

theorem run_singleton (job : Job ρ ε) :
    let done := process backoff job scene
    (run reports backoff [job] scene).1 = (if reports = .taken then [done.1] else []) ∧
      ((run reports backoff [job] scene).2 = done.2 ∨
        (run reports backoff [job] scene).2 =
          done.2.record .warn "Job report receiver dropped") := by
  cases reports with
  | none => exact ⟨rfl, .inl rfl⟩
  | taken => exact ⟨rfl, .inl rfl⟩
  | dropped => exact ⟨rfl, .inr rfl⟩

end Run

/-- A job with another hook is driven as it is without, up to where it is given up. -/
theorem retry_withHook (job : Job ρ ε) (hook : StateM (Scene ρ) (Except ErrorChain Unit))
    (budget : RetryBudget) (failures attempts : UInt32) (scene : Scene ρ) :
    let job' := { job with onExhausted := hook }
    let ended := retry job budget failures attempts scene
    (∀ text, ended.1.1 ≠ .retriesExhausted text) ∧
        retry job' budget failures attempts scene = ended ∨
      ∃ error count last, ended.1.1 = .retriesExhausted (job.errorText error) ∧
        ended.2 = (exhaust job error count last).2 ∧
        retry job' budget failures attempts scene =
          (ended.1, (exhaust job' error count last).2) := by
  intro job' ended
  induction failures, attempts using Worker.retry.induct budget generalizing scene with
  | case1 failures attempts more =>
    rename_i again
    rcases ran : job.execute scene with ⟨outcome, after⟩
    have ran' : job'.execute scene = (outcome, after) := ran
    cases outcome with
    | succeeded =>
      refine .inl ⟨?_, (retry_of_succeeded ran').trans (retry_of_succeeded ran).symm⟩
      rw [show ended = _ from retry_of_succeeded ran]
      intro text exhausted
      cases exhausted
    | failedPermanently error =>
      refine .inl ⟨?_, ?_⟩
      · rw [show ended = _ from retry_of_failedPermanently ran]
        intro text exhausted
        cases exhausted
      · exact (retry_of_failedPermanently ran').trans (retry_of_failedPermanently ran).symm
    | failed error =>
      cases allowed : budget.allows (increment failures) with
      | true =>
        have further := again allowed
          (pause budget (job.errorText error) (increment failures) after).2
        rw [show ended = _ from retry_of_allowed ran allowed, retry_of_allowed ran' allowed]
        exact further
      | false =>
        refine .inr ⟨error, increment failures, after, ?_⟩
        rw [show ended = _ from retry_of_spent ran allowed, retry_of_spent ran' allowed]
        exact ⟨rfl, rfl, rfl⟩

end Worker

namespace Assignment
variable {assignment : Assignment ε} {backoff : Duration} {number delay : Nat}
  {earlier : List Entry} {scene : Scene (List Entry)}

theorem execute_on (assignment : Assignment ε) (number : Nat) (scene : Scene (List Entry)) :
    (assignment.job number).execute scene =
      let execution := Rehearsal.ScriptedJob.executions scene.rest number + 1
      (assignment.outcome execution, Scene.elapse
        { scene with rest := scene.rest ++ [⟨scene.clock, number, .execute⟩] }
        (assignment.takes execution)) :=
  rfl

theorem hook_on (assignment : Assignment ε) (number : Nat) (scene : Scene (List Entry)) :
    (assignment.job number).onExhausted scene = (assignment.onExhausted, Scene.elapse
      { scene with rest := scene.rest ++ [⟨scene.clock, number, .exhausted⟩] }
      assignment.hookTakes) :=
  rfl

/-- A diary that is kept in the order of the queue, and of time, with nothing in it of the
jobs from `bound` on. -/
structure Orderly (bound : Nat) (scene : Scene (List Entry)) : Prop where
  entered : ∀ entry ∈ scene.rest, entry.job < bound ∧ entry.time ≤ scene.clock
  sorted : scene.rest.Pairwise fun entry next => entry.job ≤ next.job ∧ entry.time ≤ next.time

theorem orderly_blank (bound : Nat) (scene : Scene (List Entry)) :
    Orderly bound { scene with rest := [] } where
  entered _ here := nomatch here
  sorted := .nil

theorem Orderly.note (orderly : Orderly (number + 1) scene) (act : Rehearsal.Act) :
    Orderly (number + 1) { scene with rest := scene.rest ++ [⟨scene.clock, number, act⟩] } := by
  constructor
  · intro entry here
    rcases List.mem_append.1 here with here | here
    · exact orderly.entered entry here
    · obtain rfl := List.mem_singleton.1 here
      exact ⟨Nat.lt_succ_self number, le_rfl⟩
  · refine List.pairwise_append.2 ⟨orderly.sorted, List.pairwise_singleton _ _, ?_⟩
    intro entry here last isLast
    obtain rfl := List.mem_singleton.1 isLast
    obtain ⟨below, passed⟩ := orderly.entered entry here
    exact ⟨Nat.le_of_lt_succ below, passed⟩

theorem Orderly.elapse {bound : Nat} (orderly : Orderly bound scene) (span : Duration) :
    Orderly bound (scene.elapse span) := by
  constructor
  · intro entry here
    rw [Scene.rest_elapse] at here
    obtain ⟨below, passed⟩ := orderly.entered entry here
    rw [Scene.clock_elapse]
    exact ⟨below, passed.trans (Nat.le_add_right _ _)⟩
  · rw [Scene.rest_elapse]
    exact orderly.sorted

theorem Orderly.mono {bound : Nat} (orderly : Orderly bound scene) :
    Orderly (bound + 1) scene :=
  ⟨fun entry here => ⟨(orderly.entered entry here).1.trans (Nat.lt_succ_self bound),
    (orderly.entered entry here).2⟩, orderly.sorted⟩

theorem Orderly.fresh (orderly : Orderly number scene) :
    Rehearsal.ScriptedJob.executions scene.rest number = 0 := by
  refine List.countP_eq_zero.2 fun entry here counted => ?_
  have : entry.job = number := by simp_all
  exact absurd (orderly.entered entry here).1 (by omega)

/-- A scene in which a job has done what it has done alone in another one, after the earlier
jobs and as much later as those took. -/
structure Behind (number delay : Nat) (earlier : List Entry)
    (one other : Scene (List Entry)) : Prop where
  clock : other.clock = delay + one.clock
  diary : other.rest = earlier ++ one.rest.map (Entry.later delay)
  orderly : Orderly (number + 1) other

variable {one other : Scene (List Entry)}

theorem Behind.elapse (behind : Behind number delay earlier one other) (span : Duration) :
    Behind number delay earlier (one.elapse span) (other.elapse span) where
  clock := by rw [Scene.clock_elapse, Scene.clock_elapse, behind.clock, Nat.add_assoc]
  diary := by rw [Scene.rest_elapse, Scene.rest_elapse, behind.diary]
  orderly := behind.orderly.elapse span

theorem Behind.note (behind : Behind number delay earlier one other) (act : Rehearsal.Act) :
    Behind number delay earlier { one with rest := one.rest ++ [⟨one.clock, number, act⟩] }
      { other with rest := other.rest ++ [⟨other.clock, number, act⟩] } where
  clock := behind.clock
  diary := by
    change other.rest ++ _ = earlier ++ List.map _ (one.rest ++ _)
    rw [behind.diary, behind.clock, List.map_append, List.append_assoc]
    rfl
  orderly := behind.orderly.note act

theorem behind_withstands (number delay : Nat) (earlier : List Entry) :
    Worker.Withstands (Behind number delay earlier) where
  record _ _ _ behind := ⟨behind.clock, behind.diary, behind.orderly⟩
  record' _ _ _ behind :=
    ⟨behind.clock, behind.diary, behind.orderly.entered, behind.orderly.sorted⟩
  elapse span behind := behind.elapse span

theorem Behind.executions (behind : Behind number delay earlier one other)
    (fresh : Rehearsal.ScriptedJob.executions earlier number = 0) :
    Rehearsal.ScriptedJob.executions other.rest number =
      Rehearsal.ScriptedJob.executions one.rest number := by
  unfold Rehearsal.ScriptedJob.executions at fresh ⊢
  rw [behind.diary, List.countP_append, fresh, Nat.zero_add, List.countP_map]
  rfl

/-- The job does the same at every step, whatever comes of its being given up. -/
theorem behind_matches (assignment : Assignment ε) (hook : Except ErrorChain Unit)
    (fresh : Rehearsal.ScriptedJob.executions earlier number = 0) :
    Worker.Matches (Behind number delay earlier) (fun _ => True) (assignment.job number)
      ((assignment.withHook hook).job number) where
  label := rfl
  factoryKey := rfl
  maxFailures := rfl
  errorText := rfl
  execute behind _ _ := by
    rw [execute_on, execute_on, behind.executions fresh]
    exact ⟨rfl, (behind.note .execute).elapse _⟩
  hook behind := by
    rw [hook_on, hook_on]
    exact (behind.note .exhausted).elapse _

theorem alone_on (assignment : Assignment ε) (backoff : Duration) (number : Nat) :
    assignment.alone backoff number =
      let done := Worker.process backoff (assignment.job number) { disk := {}, rest := [] }
      ([done.1], done.2) :=
  rfl

theorem exhaust_on (assignment : Assignment ε) (number : Nat) (error : ε) (failures : UInt32)
    (scene : Scene (List Entry)) :
    (Worker.exhaust (assignment.job number) error failures scene).2.clock =
        scene.clock + assignment.hookTakes.toNanos ∧
      (Worker.exhaust (assignment.job number) error failures scene).2.rest =
        scene.rest ++ [⟨scene.clock, number, .exhausted⟩] := by
  obtain ⟨⟨label, factoryKey, maxFailures, errorText, outcome, takes, onExhausted⟩, -⟩ := assignment
  cases onExhausted <;> exact ⟨rfl, rfl⟩

theorem retry_on (assignment : Assignment ε) (backoff : Duration) (number : Nat)
    (scene : Scene (List Entry)) :
    let budget := assignment.budget backoff
    let plain := Worker.retry (assignment.toRoutine.job number) budget 0 0 scene
    let driven := Worker.retry (assignment.job number) budget 0 0 scene
    driven.1 = plain.1 ∧ driven.2.rest = plain.2.rest ∧
      driven.2.clock = plain.2.clock + assignment.closing plain.1.1 := by
  intro budget plain driven
  rcases Worker.retry_withHook (assignment.toRoutine.job number)
    (assignment.job number).onExhausted budget 0 0 scene with
    ⟨other, same⟩ | ⟨error, count, last, status, given, same⟩
  · have same : driven = plain := same
    rw [same]
    refine ⟨rfl, rfl, ?_⟩
    cases ending : plain.1.1 with
    | succeeded | failedPermanently => rfl
    | retriesExhausted text => exact absurd ending (other text)
  · have same : driven = (plain.1, (Worker.exhaust (assignment.job number) error count last).2) :=
      same
    obtain ⟨clock, rest⟩ := assignment.exhaust_on number error count last
    obtain ⟨clock', rest'⟩ := assignment.toRoutine.exhaust_on number error count last
    rw [same, show plain.2 = _ from given, show plain.1.1 = _ from status]
    exact ⟨rfl, rest.trans rest'.symm, clock.trans (by rw [clock', closing])⟩

theorem alone_timetable (assignment : Assignment ε) (backoff : Duration) (number : Nat) :
    (assignment.alone backoff number).1 = [assignment.report] ∧
      (assignment.alone backoff number).2.clock = assignment.duration backoff ∧
      (assignment.alone backoff number).2.rest = assignment.entries backoff number 0 := by
  obtain ⟨status, attempts, clock, diary⟩ :=
    assignment.toRoutine.ended backoff number { disk := {}, rest := [] } rfl
  obtain ⟨same, rest, later⟩ := assignment.retry_on backoff number { disk := {}, rest := [] }
  have reported := same.trans
    (Prod.ext status (attempts ▸ (UInt32.ofNat_toNat).symm) : _ = (assignment.ending, _))
  have executed : _ = 0 + assignment.executing backoff := clock.trans (Nat.add_assoc ..)
  rw [alone_on, Worker.process_on]
  refine ⟨?_, later.trans ?_, rest.trans (diary.trans ?_)⟩
  · exact congrArg (fun made : JobEnding × UInt32 =>
      [JobReport.mk assignment.label assignment.factoryKey made.2 made.1]) reported
  · rw [executed, status, Nat.zero_add]
    rfl
  · rw [executed]
    rfl

/-- With other jobs before it, and with another hook: the report is the same as alone, and
the scene is that of the job alone, later. -/
theorem process_as_alone (assignment : Assignment ε) (hook : Except ErrorChain Unit)
    (backoff : Duration) (number : Nat) (orderly : Orderly number scene) :
    let done := Worker.process backoff ((assignment.withHook hook).job number) scene
    (assignment.alone backoff number).1 = [done.1] ∧
      Behind number scene.clock scene.rest (assignment.alone backoff number).2 done.2 := by
  have begun : Behind number scene.clock scene.rest { disk := {}, rest := [] } scene :=
    ⟨rfl, (List.append_nil _).symm, orderly.mono⟩
  obtain ⟨same, behind⟩ := (behind_withstands number scene.clock scene.rest).process
    (behind_matches assignment hook orderly.fresh) backoff begun (fun _ _ => trivial)
    fun _ _ => trivial
  rw [alone_on]
  exact ⟨congrArg ([·]) same, behind⟩

/-- What a worker has done with a queue, seen from what it does with each job alone. -/
structure Settled (backoff : Duration) (reports : Worker.Reports) (start : Nat)
    (assignments : List (Assignment ε)) (sent : List JobReport)
    (result : List JobReport × Scene (List Entry)) : Prop where
  taken : result.1 = if reports = .taken then sent else []
  sent : (assignments.mapIdx fun place assignment => (assignment.alone backoff place).1) =
    sent.map ([·])
  clock : result.2.clock = start + total backoff assignments
  diary : result.2.rest = (assignments.mapIdx fun place assignment =>
    (assignment.alone backoff place).2.rest.map
      (Entry.later (start + total backoff (assignments.take place)))).flatten
  orderly : Orderly assignments.length result.2

theorem total_concat (backoff : Duration) (assignments : List (Assignment ε))
    (last : Assignment ε) :
    total backoff (assignments ++ [last]) =
      total backoff assignments + (last.alone backoff assignments.length).2.clock := by
  rw [total, List.mapIdx_concat, List.sum_append, List.sum_singleton]
  rfl

theorem Settled.concat {reports : Worker.Reports} {start : Nat}
    {assignments : List (Assignment ε)} {sent : List JobReport}
    {result : List JobReport × Scene (List Entry)} (last : Assignment ε)
    (hook : Except ErrorChain Unit)
    (settled : Settled backoff reports start assignments sent result) :
    let job := (last.withHook hook).job assignments.length
    let added := Worker.run reports backoff [job] result.2
    ∃ report, Settled backoff reports start (assignments ++ [last]) (sent ++ [report])
      (result.1 ++ added.1, added.2) := by
  intro job added
  obtain ⟨taken, kept⟩ := Worker.run_singleton reports backoff result.2 job
  obtain ⟨same, processed⟩ := process_as_alone last hook backoff assignments.length
    settled.orderly
  have behind : Behind assignments.length result.2.clock result.2.rest
      (last.alone backoff assignments.length).2 added.2 := by
    rcases kept with kept | kept <;> rw [kept]
    · exact processed
    · exact (behind_withstands _ _ _).record' _ _ _ processed
  refine ⟨(Worker.process backoff job result.2).1, ?taken, ?sent, ?clock, ?diary, ?orderly⟩
  case taken =>
    rw [settled.taken, taken]
    split <;> rfl
  case sent =>
    rw [List.mapIdx_concat, settled.sent, same, List.map_append]
    rfl
  case clock =>
    rw [total_concat, ← Nat.add_assoc, ← settled.clock]
    exact behind.clock
  case diary =>
    -- The jobs before the last begin when they did without it.
    have earlier : (assignments.mapIdx fun place assignment =>
        (assignment.alone backoff place).2.rest.map (Entry.later (start +
          total backoff ((assignments ++ [last]).take place)))).flatten = result.2.rest := by
      rw [settled.diary]
      refine congrArg List.flatten (List.mapIdx_eq_mapIdx_iff.2 fun place below => ?_)
      rw [List.take_append_of_le_length (Nat.le_of_lt below)]
    rw [List.mapIdx_concat, List.flatten_append, earlier, List.flatten_singleton,
      List.take_left' rfl, ← settled.clock]
    exact behind.diary
  case orderly =>
    rw [List.length_append]
    exact behind.orderly

theorem settled_with (hooks : Nat → Assignment ε → Except ErrorChain Unit)
    (assignments : List (Assignment ε)) (backoff : Duration) (reports : Worker.Reports)
    (scene : Scene (List Entry)) :
    ∃ sent, Settled backoff reports scene.clock assignments sent
      (Worker.run reports backoff (assignments.mapIdx fun place assignment =>
        (assignment.withHook (hooks place assignment)).job place) { scene with rest := [] }) := by
  induction assignments using List.reverseRecOn with
  | nil => exact ⟨[], (ite_self _).symm, rfl, rfl, rfl, orderly_blank 0 scene⟩
  | append_singleton assignments last ih =>
    obtain ⟨sent, settled⟩ := ih
    obtain ⟨report, settled⟩ := settled.concat last (hooks assignments.length last)
    refine ⟨sent ++ [report], ?_⟩
    rw [List.mapIdx_concat, Worker.run_append]
    exact settled

/-- A worker goes through its queue one job after the other, and each is to it as the only
one: it is reported once, as it is alone, and the diary is what each enters alone, one after
the other and as much later as the jobs before it took. So there is nothing of a job between
two entries of another. Who reads the reports and what comes of giving a job up change
neither the diary nor the time, nor what is reported. -/
theorem run_queue (assignments : List (Assignment ε)) (backoff : Duration)
    (reports : Worker.Reports) (scene : Scene (List Entry)) :
    let (taken, after) :=
      Worker.run reports backoff (queue assignments) { scene with rest := [] }
    ∃ sent : List JobReport,
      (assignments.mapIdx fun place assignment => (assignment.alone backoff place).1) =
        sent.map ([·]) ∧
      taken = (if reports = .taken then sent else []) ∧
      after.rest = (assignments.mapIdx fun place assignment =>
        (assignment.alone backoff place).2.rest.map
          (Entry.later (scene.clock + total backoff (assignments.take place)))).flatten ∧
      after.clock = scene.clock + total backoff assignments ∧
      (after.rest.Pairwise fun entry next => entry.job ≤ next.job ∧ entry.time ≤ next.time) ∧
      ∀ (reports' : Worker.Reports) (hooks : Nat → Except ErrorChain Unit),
        let (taken', after') := Worker.run reports' backoff
          (queue (assignments.mapIdx fun place assignment => assignment.withHook (hooks place)))
          { scene with rest := [] }
        taken' = (if reports' = .taken then sent else []) ∧
          after'.rest = after.rest ∧ after'.clock = after.clock := by
  obtain ⟨sent, settled⟩ :=
    settled_with (fun _ assignment => assignment.onExhausted) assignments backoff reports scene
  refine ⟨sent, settled.sent, settled.taken, settled.diary, settled.clock,
    settled.orderly.sorted, fun reports' hooks => ?_⟩
  obtain ⟨sent', settled'⟩ :=
    settled_with (fun place _ => hooks place) assignments backoff reports' scene
  obtain rfl : sent' = sent := by
    have same := settled'.sent.symm.trans settled.sent
    exact (List.map_inj_right fun _ _ equal => (List.cons.inj equal).1).1 same
  rw [queue, List.mapIdx_mapIdx]
  exact ⟨settled'.taken, settled'.diary.trans settled.diary.symm,
    settled'.clock.trans settled.clock.symm⟩

theorem entries_later (assignment : Assignment ε) (backoff : Duration) (number delay : Nat) :
    (assignment.entries backoff number 0).map (Entry.later delay) =
      assignment.entries backoff number delay := by
  simp only [entries, List.map_append, Routine.diary, List.map_map]
  congr 1
  · simp only [Function.comp_def, Entry.later, Nat.zero_add]
  · cases assignment.ending with
    | succeeded | failedPermanently => rfl
    | retriesExhausted =>
      simp only [Routine.lastEntry, List.map_singleton, Entry.later, Nat.zero_add]

theorem total_eq (backoff : Duration) (assignments : List (Assignment ε)) :
    total backoff assignments = (assignments.map (duration · backoff)).sum := by
  refine congrArg List.sum (List.ext_getElem (by simp) fun place _ _ => ?_)
  rw [List.getElem_mapIdx, List.getElem_map]
  exact (alone_timetable _ backoff place).2.1

/-- What a worker makes of a queue, written out. Each job is executed, with its pauses, until one
execution has not failed in passing or its budget is spent, in which case it is given up; and
only then is it the next job's turn. -/
theorem queue_timetable (assignments : List (Assignment ε)) (backoff : Duration)
    (reports : Worker.Reports) (scene : Scene (List Entry)) :
    let result := Worker.run reports backoff (queue assignments) { scene with rest := [] }
    let begins (place : Nat) : Nat :=
      scene.clock + ((assignments.take place).map (duration · backoff)).sum
    result.1 = (if reports = .taken then assignments.map report else []) ∧
      result.2.rest = (assignments.mapIdx fun place assignment =>
        assignment.entries backoff place (begins place)).flatten ∧
      result.2.clock = begins assignments.length ∧
      ∀ assignment ∈ assignments, IsLeast assignment.stops assignment.executed := by
  intro result begins
  obtain ⟨sent, settled⟩ :=
    settled_with (fun _ assignment => assignment.onExhausted) assignments backoff reports scene
  have each : sent = assignments.map report := by
    refine (List.map_inj_right fun _ _ equal => (List.cons.inj equal).1).1
      (settled.sent.symm.trans (List.ext_getElem (by simp) fun place _ _ => ?_))
    rw [List.getElem_mapIdx, List.getElem_map, List.getElem_map]
    exact (alone_timetable _ backoff place).1
  refine ⟨each ▸ settled.taken, settled.diary.trans ?_, settled.clock.trans ?_,
    fun assignment _ => assignment.executed_isLeast⟩
  · refine congrArg List.flatten (congrArg (List.mapIdx · assignments) ?_)
    funext place assignment
    rw [(assignment.alone_timetable backoff place).2.2, entries_later, total_eq]
  · simp only [begins, total_eq, List.take_length]

end Assignment
end AttachmentFetch
