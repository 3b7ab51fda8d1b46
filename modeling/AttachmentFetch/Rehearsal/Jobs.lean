import AttachmentFetch.Job.Worker

/-! Jobs that follow a script, to see what a worker makes of them. -/
namespace AttachmentFetch.Rehearsal

/-- One execution of a scripted job: how long it takes, and its outcome. -/
structure Cue where
  takes : Duration := Duration.ofSeconds 0
  outcome : Outcome String
  deriving DecidableEq, Repr

inductive Act where
  | execute
  | exhausted
  deriving DecidableEq, Repr

structure Entry where
  time : Nat
  job : Nat
  act : Act
  deriving DecidableEq, Repr

structure ScriptedJob where
  name : String
  factoryKey : String := "ScriptedJob"
  maxFailures : UInt32
  script : List Cue
  /-- Whether the last cue is repeated for ever; otherwise success follows it. -/
  repeatLast : Bool := false
  /-- What the exhaustion hook does, unless there is none: fail or succeed. -/
  hook : Option (Except ErrorChain Unit) := some (.ok ())

namespace ScriptedJob

def cue (job : ScriptedJob) (execution : Nat) : Cue :=
  match job.script[execution]?, job.script.getLast?, job.repeatLast with
  | some cue, _, _ => cue
  | none, some last, true => last
  | none, _, _ => { outcome := .succeeded }

def executions (trace : List Entry) (number : Nat) : Nat :=
  trace.countP fun entry => entry.job = number && entry.act = .execute

def note (number : Nat) (act : Act) : StateM (Scene (List Entry)) Unit :=
  modify fun scene => { scene with rest := scene.rest ++ [⟨scene.clock, number, act⟩] }

def toJob (number : Nat) (job : ScriptedJob) : Job (List Entry) String where
  label := job.name
  factoryKey := job.factoryKey
  maxFailures := job.maxFailures
  errorText := fun error => error
  execute := do
    let cue := job.cue (executions (← get).rest number)
    note number .execute
    modify (·.elapse cue.takes)
    return cue.outcome
  onExhausted := do
    match job.hook with
    | none => return .ok ()
    | some result =>
      note number .exhausted
      return result

end ScriptedJob

end AttachmentFetch.Rehearsal
