/-! Errors with context: what was being done, why that failed, and so on down
to the root cause. -/
namespace AttachmentFetch

structure ErrorChain where
  /-- The outermost context, or the whole error when there is no context. -/
  outermost : String
  /-- What lies below it, root cause last. -/
  causes : List String
  deriving DecidableEq, Repr

namespace ErrorChain

def root (text : String) : ErrorChain := ⟨text, []⟩

def context (text : String) (error : ErrorChain) : ErrorChain :=
  ⟨text, error.outermost :: error.causes⟩

def full (error : ErrorChain) : String :=
  ": ".intercalate (error.outermost :: error.causes)

def indented (first later : String) (cause : String) : String :=
  first ++ ("\n" ++ later).intercalate (cause.splitOn "\n") ++ "\n"

/-- The whole chain over several lines; two causes or more are numbered. -/
def explanation (error : ErrorChain) : String :=
  let causes :=
    match error.causes with
    | [] => []
    | [cause] => [indented "    " "    " cause]
    | causes => causes.mapIdx fun index cause =>
      let number := toString index
      indented (String.ofList (List.replicate (5 - number.length) ' ') ++ number ++ ": ")
        "       " cause
  let heading := if causes.isEmpty then "" else "\nCaused by:\n"
  s!"Error: {error.outermost}\n{heading}{String.join causes}"

end ErrorChain

def inContext (text : String) : Except ErrorChain α → Except ErrorChain α
  | .ok value => .ok value
  | .error error => .error (error.context text)

end AttachmentFetch
