import Galley.Pipeline

/-!
Rendering many posts. Each input gets a result of its own, in order; a batch that does not go on
after a failure ends with the first one.
-/

set_option autoImplicit false
set_option relaxedAutoImplicit false

namespace Galley.Site

/-- A post to render, or why its source could not be read. -/
structure BatchInput where
  id : List Char
  source : Except (List Char) (List Char)

/-- What became of an input. -/
structure BatchResult where
  id : List Char
  outcome : Except (List Char) Post

/-- Whether an input failed. -/
def BatchResult.isFailure (r : BatchResult) : Bool :=
  match r.outcome with
  | .ok _ => false
  | .error _ => true

/-- What became of a batch. -/
structure BatchReport where
  results : List BatchResult
  /-- The number of inputs, also of those that were not reached. -/
  total : Nat

namespace BatchReport

/-- The number of posts. -/
def succeeded (r : BatchReport) : Nat := r.results.countP (!·.isFailure)

/-- The number of failures. -/
def failed (r : BatchReport) : Nat := r.results.countP (·.isFailure)

end BatchReport

/-- Renders an input. -/
def renderInput (p : Pipeline) (input : BatchInput) : BatchResult where
  id := input.id
  outcome :=
    match input.source with
    | .error message => .error message
    | .ok source =>
      match p.renderSource source with
      | .ok post => .ok post
      | .error e => .error e.message

/-- The results up to the first failure, which is the last of them. -/
def untilFailure : List BatchResult → List BatchResult
  | [] => []
  | r :: rest => if r.isFailure then [r] else r :: untilFailure rest

/-- Renders inputs. -/
def renderBatch (p : Pipeline) (goesOn : Bool) (inputs : List BatchInput) : BatchReport where
  results :=
    let results := inputs.map (renderInput p)
    if goesOn then results else untilFailure results
  total := inputs.length

end Galley.Site
