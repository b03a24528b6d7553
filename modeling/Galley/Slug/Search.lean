import Galley.Slug

/-!
The search for a free name, turn by turn, and calls on a slugger one after the other. A search
tries the candidate, then the candidate with the number two, and so on, until a name is free.
-/

set_option autoImplicit false
set_option relaxedAutoImplicit false

namespace Galley

/-- A search for a name: the name that is tried, and the number that comes next. -/
structure Search where
  name : List Char
  number : Nat
deriving DecidableEq, Repr

namespace Search

/-- The candidate is tried first. -/
def start (candidate : List Char) : Search := ⟨candidate, 2⟩

/-- The next turn of a search, unless the name that is tried is free. -/
def turn? (isTaken : List Char → Bool) (candidate : List Char) (search : Search) : Option Search :=
  if isTaken search.name then some ⟨numbered candidate search.number, search.number + 1⟩ else none

/-- A search ends after a number of turns with a name. -/
inductive EndsIn (isTaken : List Char → Bool) (candidate : List Char) :
    Nat → Search → List Char → Prop
  | free (search : Search) (hturn : search.turn? isTaken candidate = none) :
    EndsIn isTaken candidate 0 search search.name
  | turn {turns : Nat} {search : Search} {name : List Char} (next : Search)
    (hturn : search.turn? isTaken candidate = some next)
    (hrest : EndsIn isTaken candidate turns next name) :
    EndsIn isTaken candidate (turns + 1) search name

end Search

namespace Slugger

/-- A call on a slugger. -/
inductive Call where
  | claim (candidate : List Char)
  | nextId (text : List Char)
  | reserve (id : List Char)
deriving DecidableEq, Repr

namespace Call

/-- The candidate of a call that hands out a name. -/
def candidate? : Call → Option (List Char)
  | claim candidate => some candidate
  | nextId text => some (headingId text)
  | reserve _ => none

/-- Makes a call: the slugger after it, and the name that it hands out or reserves. -/
def run (slugger : Slugger) : Call → Slugger × List Char
  | claim candidate => slugger.claim candidate
  | nextId text => slugger.nextId text
  | reserve id => (slugger.reserve id, id)

/-- Makes calls one after the other: the slugger after them, and their names. -/
def runAll (slugger : Slugger) : List Call → Slugger × List (List Char)
  | [] => (slugger, [])
  | call :: rest =>
    let (slugger, name) := call.run slugger
    let (slugger, names) := runAll slugger rest
    (slugger, name :: names)

end Call

end Slugger

end Galley
