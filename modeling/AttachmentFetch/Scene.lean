import AttachmentFetch.Disk.Basic
import AttachmentFetch.Duration

/-! The scene of a run: a disk, a clock, what has been logged, and whatever the
services of a job keep. -/
namespace AttachmentFetch

inductive Level where
  | info
  | warn
  | error
  deriving DecidableEq, Repr

structure Event where
  level : Level
  message : String
  fields : List (String × String)
  deriving DecidableEq, Repr

structure Scene (ρ : Type) where
  disk : Disk
  /-- Nanoseconds since the run began. -/
  clock : Nat := 0
  log : List Event := []
  rest : ρ

namespace Scene

def onDisk (call : Disk.Call α) : Step (Scene ρ) IoError α :=
  Step.within Scene.disk (fun disk scene => { scene with disk }) call

def onRest (step : Step ρ ε α) : Step (Scene ρ) ε α :=
  Step.within Scene.rest (fun rest scene => { scene with rest }) step

def record (scene : Scene ρ) (level : Level) (message : String)
    (fields : List (String × String) := []) : Scene ρ :=
  { scene with log := scene.log ++ [⟨level, message, fields⟩] }

def elapse (scene : Scene ρ) (span : Duration) : Scene ρ :=
  { scene with clock := scene.clock + span.toNanos }

end Scene

end AttachmentFetch
