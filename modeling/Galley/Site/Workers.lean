import Galley.Site.Batch

/-!
How a batch is worked off. Each input has a place of its own. A worker renders the input of a place
and raises one of two counters, which all workers share, and then it leaves the result at the place;
between the two steps other workers may take any of theirs. A batch that ends with the first failure
is worked off in turn.
-/

set_option autoImplicit false
set_option relaxedAutoImplicit false

namespace Galley.Site

/-- The post of a result, if it has one. -/
def BatchResult.post? (r : BatchResult) : Option Post := r.outcome.toOption

/-- The message of a result, if it has one. -/
def BatchResult.message? (r : BatchResult) : Option (List Char) :=
  match r.outcome with
  | .ok _ => none
  | .error message => some message

/-- The counters of a batch. They are words of 32 bits. -/
structure Tally where
  succeeded : UInt32 := 0
  failed : UInt32 := 0
deriving DecidableEq, Repr, Inhabited

/-- Raises the counter for a result. -/
def Tally.count (t : Tally) (r : BatchResult) : Tally :=
  if r.isFailure then { t with failed := t.failed + 1 }
  else { t with succeeded := t.succeeded + 1 }

/-- How far an input has come. -/
inductive Place where
  | waiting (input : BatchInput)
  /-- The result is counted and not yet left. -/
  | counted (result : BatchResult)
  | finished (result : BatchResult)

/-- A place after the next step of its worker. -/
def Place.advance (p : Pipeline) : Place → Place
  | .waiting input => .counted (renderInput p input)
  | .counted result => .finished result
  | .finished result => .finished result

/-- The result that was left at a place. -/
def Place.result? : Place → Option BatchResult
  | .finished result => some result
  | _ => none

/-- A batch that is under way. -/
structure Workroom where
  places : List Place
  tally : Tally := {}

namespace Workroom

/-- A batch of which nothing is done. -/
def ofInputs (inputs : List BatchInput) : Workroom := { places := inputs.map .waiting }

/-- The worker of a place takes its next step. -/
def step (p : Pipeline) (room : Workroom) (place : Nat) : Workroom where
  places := room.places.modify place (Place.advance p)
  tally :=
    match room.places[place]? with
    | some (.waiting input) => room.tally.count (renderInput p input)
    | _ => room.tally

/-- Workers take their steps in the given order of places. -/
def run (p : Pipeline) (room : Workroom) (schedule : List Nat) : Workroom :=
  schedule.foldl (step p) room

end Workroom

/-- What a batch leaves behind: results, the number of inputs as a word, and the counters. -/
structure Account where
  results : List BatchResult
  total : UInt32
  tally : Tally

/-- Works off a batch, with the steps of its workers in the given order. It ends when there is a
result at every place. -/
def workTogether (p : Pipeline) (inputs : List BatchInput) (schedule : List Nat) : Option Account :=
  let room := (Workroom.ofInputs inputs).run p schedule
  (room.places.mapM Place.result?).map fun results =>
    { results, total := inputs.length.toUInt32, tally := room.tally }

/-- Works off inputs in turn, up to the first failure. -/
def workFrom (p : Pipeline) (results : List BatchResult) (tally : Tally) :
    List BatchInput → List BatchResult × Tally
  | [] => (results, tally)
  | input :: rest =>
    let result := renderInput p input
    if result.isFailure then (results ++ [result], tally.count result)
    else workFrom p (results ++ [result]) (tally.count result) rest

/-- Works off a batch in turn, up to the first failure. -/
def workInTurn (p : Pipeline) (inputs : List BatchInput) : Account :=
  let (results, tally) := workFrom p [] {} inputs
  { results, total := inputs.length.toUInt32, tally }

end Galley.Site
