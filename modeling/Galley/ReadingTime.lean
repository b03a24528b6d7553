import Galley.Text.Blank
import Galley.Text.Digit
import Galley.Decimal.Double

/-!
The time that it takes to read a text. Marks of markup are removed by a fixed sequence of
replacements, without reading the markup as such; what is left is counted in words. Every
replacement deletes all of what it finds, or all but a part of it.
-/

set_option autoImplicit false
set_option relaxedAutoImplicit false

namespace Galley.ReadingTime

/-- What a replacement finds at the front of a text: the part that is kept and the number of
characters found. -/
abbrev Finding := Option (List Char × Nat)

/-- Replaces what `find` finds, from left to right. `atLineStart` says that a line starts here, and
`skip` counts characters that were found already. -/
def replaceFrom (find : Bool → List Char → Finding) :
    Nat → Bool → List Char → List Char
  | _, _, [] => []
  | skip + 1, _, c :: rest => replaceFrom find skip (c == '\n') rest
  | 0, atLineStart, c :: rest =>
    match find atLineStart (c :: rest) with
    | some (kept, width) => kept ++ replaceFrom find (width - 1) (c == '\n') rest
    | none => c :: replaceFrom find 0 (c == '\n') rest

/-- Replaces all that `find` finds. -/
def replaceAll (find : Bool → List Char → Finding) (s : List Char) : List Char :=
  replaceFrom find 0 true s

/-- The characters before the first place where `mark` stands; `crosses` says whether the search
goes beyond the line. -/
def before? (crosses : Bool) (mark : List Char) : List Char → Option (List Char)
  | [] => if mark.isEmpty then some [] else none
  | c :: rest =>
    if mark.isPrefixOf (c :: rest) then some []
    else if c == '\n' && !crosses then none
    else (before? crosses mark rest).map (c :: ·)

/-- Text between two marks, of which the text is kept or not. -/
def enclosed (crosses keeps : Bool) (opening closing : List Char) (s : List Char) : Finding :=
  if opening.isPrefixOf s then
    (before? crosses closing (s.drop opening.length)).map fun inside =>
      (if keeps then inside else [], opening.length + inside.length + closing.length)
  else none

/-- A tag. -/
def tag (_ : Bool) (s : List Char) : Finding :=
  enclosed true false ['<'] ['>'] s

/-- A link with its destination, of which the text is kept; `opening` stands before the text. -/
def link (opening : List Char) (_ : Bool) (s : List Char) : Finding :=
  (enclosed true true opening [']'] s).bind fun (inside, width) =>
    (enclosed true false ['('] [')'] (s.drop width)).map fun (_, width') => (inside, width + width')

/-- The number of leading blanks, line endings included. -/
def blanks (s : List Char) : Nat := (s.takeWhile Text.isBlank).length

/-- A mark at the start of a line, with the blanks after it, at least one. `mark` gives the width of
the mark. -/
def lineMark (mark : List Char → Nat) (atLineStart : Bool) (s : List Char) : Finding :=
  let width := mark s
  let space := blanks (s.drop width)
  if atLineStart && 0 < width && 0 < space then some ([], width + space) else none

/-- The marks of a heading. -/
def headingMark (s : List Char) : Nat :=
  let width := (s.takeWhile (· == '#')).length
  if width ≤ 6 then width else 0

/-- The mark of a quote. -/
def quoteMark (s : List Char) : Nat := if s.head? == some '>' then 1 else 0

/-- The mark of an item with the blanks before it. -/
def bulletMark (s : List Char) : Nat :=
  let indent := blanks s
  match s.drop indent with
  | c :: _ => if c == '-' || c == '*' || c == '+' then indent + 1 else 0
  | [] => 0

/-- The number of an item with the blanks before it. -/
def numberMark (s : List Char) : Nat :=
  let indent := blanks s
  let digits := ((s.drop indent).takeWhile Text.isAnyDigit).length
  if 0 < digits && s[indent + digits]? == some '.' then indent + digits + 1 else 0

/-- The width of blanks that end at the end of a line: all of them at the end of the text, or else
those before the last line ending among them. -/
def blanksToLineEnd? (s : List Char) : Option Nat :=
  let space := s.takeWhile Text.isBlank
  if space.length == s.length then some space.length
  else
    match space.reverse.dropWhile (· != '\n') with
    | [] => none
    | _ :: before => some before.length

/-- A rule: three marks or more on a line of their own. -/
def rule (atLineStart : Bool) (s : List Char) : Finding :=
  let width := (s.takeWhile fun c => c == '-' || c == '*' || c == '_').length
  if atLineStart && 3 ≤ width then
    (blanksToLineEnd? (s.drop width)).map fun space => ([], width + space)
  else none

/-- The replacements, in order. -/
def replacements : List (Bool → List Char → Finding) :=
  [ tag,
    link ['!', '['],
    link ['['],
    lineMark headingMark,
    fun _ => enclosed false true ['*', '*'] ['*', '*'],
    fun _ => enclosed false true ['_', '_'] ['_', '_'],
    fun _ => enclosed false true ['*'] ['*'],
    fun _ => enclosed false true ['_'] ['_'],
    fun _ => enclosed true false ['\x60', '\x60', '\x60'] ['\x60', '\x60', '\x60'],
    fun _ => enclosed true true ['\x60'] ['\x60'],
    lineMark quoteMark,
    rule,
    lineMark bulletMark,
    lineMark numberMark ]

/-- A text without the marks of its markup. -/
def stripMarkup (s : List Char) : List Char :=
  replacements.foldl (fun s find => replaceAll find s) s

/-- The number of words in a text. -/
def countWords (s : List Char) : Nat := (Text.wordsBy Text.isBlank s).length

/-- Words that are read in a minute. -/
def wordsPerMinute : Nat := 225

end ReadingTime

/-- An estimate. -/
structure ReadingTime where
  minutes : Nat
  words : Nat
deriving DecidableEq, Repr, Inhabited

namespace ReadingTime

/-- The estimate as it is shown. -/
def text (r : ReadingTime) : String := s!"{r.minutes} min read"

/-- The estimate for a number of words: the nearest number of minutes, and at least one. -/
def ofWords (words : Nat) : ReadingTime :=
  ⟨max 1 (Decimal.roundedQuotient words wordsPerMinute), words⟩

/-- The estimate for a text. -/
def estimate (s : List Char) : ReadingTime :=
  ofWords (countWords (stripMarkup s))

end ReadingTime

end Galley
