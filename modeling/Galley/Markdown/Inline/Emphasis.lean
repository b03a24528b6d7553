import Galley.Markdown.Inline
import Galley.Text.Blank
import Galley.Text.Punctuation

/-!
Emphasis, strong text and deletions. The marks are runs of one character. What stands on both
sides of a run decides whether it can open or close, and a run that closes is matched with the
nearest one before it that opens and fits. Marks that remain are plain text.
-/

set_option autoImplicit false
set_option relaxedAutoImplicit false

namespace Galley.Markdown

/-- The classes of characters on the sides of a run. -/
inductive Side where
  | blank
  | punctuation
  | other
deriving DecidableEq, Repr

/-- The class of a character; the edges of the document count as blank. -/
def Side.of : Option Char → Side
  | none => .blank
  | some c =>
    if Text.isBlank c then .blank else if Text.isPunctuation c then .punctuation else .other

/-- A run of marks that are not used yet. -/
structure Run where
  mark : Char
  glyphs : List Glyph
  opens : Bool
  closes : Bool
deriving Inhabited

/-- A run between two characters. Among the marks of strikethrough, other marks stick to text as
letters do; underscores inside words neither open nor close. -/
def Run.between (strikethrough : Bool) (before after : Option Char) (mark : Char)
    (glyphs : List Glyph) : Run :=
  let left := Side.of before
  let right := Side.of after
  let isMark (c : Option Char) : Bool :=
    mark != '~' && (c == some '*' || c == some '_' || (strikethrough && c == some '~'))
  let opens := right == .other || (right == .punctuation && left != .other) || isMark after
  let closes := left == .other || (left == .punctuation && right != .other) || isMark before
  if mark == '_' then
    { mark, glyphs
      opens := opens && (left != .other || !closes)
      closes := closes && (right != .other || !opens) }
  else { mark, glyphs, opens, closes }

/-- Whether a run that opens and one that closes fit. -/
def Run.fits (opener closer : Run) : Bool :=
  let a := opener.glyphs.length
  let b := closer.glyphs.length
  opener.mark == closer.mark && opener.opens &&
    !((opener.closes || closer.opens) && b % 3 != 0 && (a + b) % 3 == 0) &&
    !(closer.mark == '~' && (a != b || 2 < b))

/-- A piece of text before marks are matched. -/
inductive Piece where
  | run (run : Run)
  | element (element : Inline)
deriving Inhabited

/-- A piece as it stands if its marks have no meaning. -/
def Piece.plain : Piece → Inline
  | .run r => .data r.glyphs
  | .element e => e

/-- The nearest opener for a closer among the pieces before it, which are given last first: the
pieces between, the opener, and the pieces before it. -/
def findOpener (closer : Run) (between : List Piece) :
    List Piece → Option (List Piece × Run × List Piece)
  | [] => none
  | .run r :: rest =>
    if r.fits closer then some (between, r, rest) else findOpener closer (.run r :: between) rest
  | piece :: rest => findOpener closer (piece :: between) rest

/-- A run as a piece, or nothing if all its marks are used. -/
def Run.remains (r : Run) (glyphs : List Glyph) : List Piece :=
  if glyphs.isEmpty then [] else [.run { r with glyphs }]

/-- The marks that one match takes from each side. -/
def marksTaken (opener closer : Run) : Nat :=
  if 1 < opener.glyphs.length && 1 < closer.glyphs.length then 2 else 1

/-- What a match makes of the text between. -/
def markingOf (mark : Char) (taken : Nat) : Marking :=
  if mark == '~' then .deletion else if taken == 1 then .emphasis else .strong

/-- From the first of some glyphs to the end of others. -/
def spanBetween (first last : List Glyph) : Span :=
  let start := (first.head?.map (·.point)).getD ⟨1, 1⟩
  ⟨start, endPoint start last⟩

/-- Joins plain text that stands side by side. -/
def joinData : List Inline → List Inline
  | [] => []
  | e :: rest =>
    match e, joinData rest with
    | .data a, .data b :: joined => .data (a ++ b) :: joined
    | e, joined => e :: joined

/-- Matches marks from left to right; `before` holds the pieces passed, last first. Each step
passes a piece or uses up marks, so `fuel` bounds both. -/
def matchRuns : Nat → List Piece → List Piece → List Piece
  | 0, before, rest => before.reverse ++ rest
  | _, before, [] => before.reverse
  | fuel + 1, before, piece :: rest =>
    match piece with
    | .element _ => matchRuns fuel (piece :: before) rest
    | .run closer =>
      if closer.closes then
        match findOpener closer [] before with
        | some (between, opener, before) =>
          let taken := marksTaken opener closer
          let left := opener.glyphs.take (opener.glyphs.length - taken)
          let inner := opener.glyphs.drop (opener.glyphs.length - taken)
          let element := Inline.marked (markingOf closer.mark taken)
            (spanBetween inner (closer.glyphs.take taken)) (joinData (between.map Piece.plain))
          matchRuns fuel (.element element :: (opener.remains left ++ before))
            (closer.remains (closer.glyphs.drop taken) ++ rest)
        | none => matchRuns fuel (piece :: before) rest
      else matchRuns fuel (piece :: before) rest

/-- The measure of the work left: pieces and marks. -/
def pieceCost : Piece → Nat
  | .run r => r.glyphs.length + 1
  | .element _ => 1

/-- Matches all marks of a level. -/
def resolveRuns (pieces : List Piece) : List Inline :=
  let fuel := pieces.foldr (fun piece cost => pieceCost piece + cost) 1
  joinData ((matchRuns fuel [] pieces).map Piece.plain)

end Galley.Markdown
