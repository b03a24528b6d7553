import Galley.Text.Ascii
import Galley.Text.Blank
import Galley.Text.Casing

/-!
Slugs: names made of lower-case ASCII letters and digits, in words joined by single hyphens. A
slugger hands out slugs that differ from each other; a candidate that is taken gets the first free
number from two on.
-/

set_option autoImplicit false
set_option relaxedAutoImplicit false

namespace Galley

/-- Characters that separate the words of a slug. -/
def isSlugBreak (c : Char) : Bool := Text.isBlank c || c == '_' || c == '-'

/-- The slug of a text in lower case. `started` says that a character was kept, and `broken` that a
break came since. -/
def slugRest (started broken : Bool) : List Char → List Char
  | [] => []
  | c :: rest =>
    if isSlugBreak c then slugRest started started rest
    else if Text.isAlnum c then
      (if broken then ['-', c] else [c]) ++ slugRest true false rest
    else slugRest started broken rest

/-- The slug of a text. Characters that are neither kept nor breaks are dropped. -/
def slugify (text : List Char) : List Char :=
  slugRest false false (Text.lower text)

/-- The identifier of a heading without letters or digits. -/
def fallbackHeadingId : List Char := "heading".toList

/-- The identifier that a heading with the given text asks for. -/
def headingId (text : List Char) : List Char :=
  match slugify text with
  | [] => fallbackHeadingId
  | slug => slug

/-- A name with a number after it. -/
def numbered (base : List Char) (n : Nat) : List Char :=
  base ++ '-' :: Nat.toDigits 10 n

/-- The first free name among `numbered base n`, `numbered base (n + 1)`, …; `fuel` bounds the
search. -/
def firstFree (isTaken : List Char → Bool) (base : List Char) : Nat → Nat → List Char
  | 0, n => numbered base n
  | fuel + 1, n =>
    if isTaken (numbered base n) then firstFree isTaken base fuel (n + 1) else numbered base n

/-- The names that were handed out or reserved. -/
structure Slugger where
  used : List (List Char) := []
deriving DecidableEq, Repr, Inhabited

namespace Slugger

/-- No names yet. -/
def empty : Slugger := {}

/-- Whether a name was handed out or reserved. -/
def isUsed (s : Slugger) (id : List Char) : Bool := s.used.contains id

/-- Reserves a name. -/
def reserve (s : Slugger) (id : List Char) : Slugger := ⟨id :: s.used⟩

/-- The name for a candidate: itself if it is free, or else with the first free number. -/
def nameFor (s : Slugger) (candidate : List Char) : List Char :=
  if s.isUsed candidate then firstFree s.isUsed candidate s.used.length 2 else candidate

/-- Hands out a name for a candidate. -/
def claim (s : Slugger) (candidate : List Char) : Slugger × List Char :=
  let id := s.nameFor candidate
  (s.reserve id, id)

/-- Hands out a name for a heading with the given text. -/
def nextId (s : Slugger) (text : List Char) : Slugger × List Char :=
  s.claim (headingId text)

end Slugger

end Galley
