/-! Steps: computations over a state that may fail, and keep what they had
changed when they do. -/
namespace AttachmentFetch

abbrev Step (σ ε α : Type) := ExceptT ε (StateM σ) α

namespace Step

def on (step : Step σ ε α) (state : σ) : Except ε α × σ := step state

def reads (f : σ → Except ε α) : Step σ ε α := fun state => (f state, state)

def mapError (f : ε → ε') (step : Step σ ε α) : Step σ ε' α := fun state =>
  match step state with
  | (.ok value, state) => (.ok value, state)
  | (.error error, state) => (.error (f error), state)

def outcome (step : Step σ ε α) : Step σ ε' (Except ε α) := fun state =>
  let (result, state) := step state
  (.ok result, state)

def within (get : τ → σ) (set : σ → τ → τ) (step : Step σ ε α) : Step τ ε α := fun state =>
  let (result, part) := step (get state)
  (result, set part state)

end Step

end AttachmentFetch
