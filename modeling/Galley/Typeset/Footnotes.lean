import Galley.Html.Attributes
import Galley.Slug

/-!
Footnotes are numbered in the order of their first calls. A call links to the note and the note
links back to its first call; both addresses are made of the slug of the identifier, or of the
number if the identifier has no slug.
-/

set_option autoImplicit false
set_option relaxedAutoImplicit false

namespace Galley.Typeset

open Html

/-- The calls so far: the identifiers in the order of their first calls, and those of all calls. -/
structure Calls where
  order : List (List Char) := []
  all : List (List Char) := []
deriving DecidableEq, Repr, Inhabited

/-- Adds a call. -/
def Calls.add (calls : Calls) (identifier : List Char) : Calls where
  order :=
    if calls.order.contains identifier then calls.order else calls.order ++ [identifier]
  all := calls.all ++ [identifier]

/-- The number of a footnote that was called. -/
def Calls.number (calls : Calls) (identifier : List Char) : Nat :=
  calls.order.idxOf identifier + 1

/-- How often a footnote was called. -/
def Calls.count (calls : Calls) (identifier : List Char) : Nat :=
  calls.all.count identifier

/-- A number in decimal digits. -/
def decimal (n : Nat) : List Char := Nat.toDigits 10 n

/-- What the addresses of a footnote end in. -/
def noteAnchor (identifier : List Char) (number : Nat) : List Char :=
  match slugify identifier with
  | [] => decimal number
  | slug => slug

/-- The address of a note. -/
def noteId (anchor : List Char) : List Char := "user-content-fn-".toList ++ anchor

/-- The address of the first call of a note. -/
def callId (anchor : List Char) : List Char := "user-content-fnref-".toList ++ anchor

/-- The address of the call with the given count. -/
def nthCallId (anchor : List Char) (count : Nat) : List Char :=
  if count = 1 then callId anchor else callId anchor ++ '-' :: decimal count

/-- The attributes of the link from the last of the calls to its note. -/
def callAttributes (calls : Calls) (identifier : List Char) : Attributes :=
  let anchor := noteAnchor identifier (calls.number identifier)
  .ofList [(.href, '#' :: noteId anchor), (.id, nthCallId anchor (calls.count identifier)),
    (.data .footnoteRef, [])]

/-- The attributes of the link from a note to its first call. -/
def backLinkAttributes (anchor : List Char) (number : Nat) : Attributes :=
  .ofList [(.href, '#' :: callId anchor), (.data .footnoteBackref, []),
    (.other "aria-label".toList, "Back to reference ".toList ++ decimal number),
    (.className, "data-footnote-backref".toList)]

/-- The attributes of a note. -/
def noteAttributes (anchor : List Char) : Attributes := Attributes.empty.set .id (noteId anchor)

/-- The attributes of the section of notes. -/
def sectionAttributes : Attributes :=
  .ofList [(.data .footnotes, []), (.className, "footnotes".toList)]

end Galley.Typeset
