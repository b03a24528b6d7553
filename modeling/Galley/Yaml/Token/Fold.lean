import Galley.Yaml.Cursor

/-!
Blanks and ends of lines within a scalar. Within a line blanks are kept; a single end of a line
becomes a blank, and of several all but the first are kept.
-/

set_option autoImplicit false
set_option relaxedAutoImplicit false

namespace Galley.Yaml

/-- What stands between two words of a scalar. -/
structure Fold where
  /-- Blanks before any end of a line. -/
  blanks : List Char := []
  /-- Whether a line has ended. -/
  isBroken : Bool := false
  first : List Char := []
  later : List Char := []
deriving DecidableEq, Repr, Inhabited

namespace Fold

/-- What a fold adds to the text. -/
def text (f : Fold) : List Char :=
  if f.isBroken then
    if f.first == ['\n'] then if f.later.isEmpty then [' '] else f.later
    else f.first ++ f.later
  else f.blanks

/-- Adds the end of a line. -/
def addBreak (f : Fold) (ending : List Char) : Fold :=
  if f.isBroken then { f with later := f.later ++ ending }
  else { isBroken := true, first := ending }

/-- Reads blanks and ends of lines. Before the column `floor` a line may not start with a tab;
`fuel` bounds the number of characters. -/
def read (floor : Int) : Nat → Fold → Cursor → Except Fault (Fold × Cursor)
  | 0, f, cursor => .ok (f, cursor)
  | fuel + 1, f, cursor =>
    match cursor.rest with
    | [] => .ok (f, cursor)
    | c :: _ =>
      if isSpaceOrTab c then
        if f.isBroken && cursor.column < floor && c == '\t' then .error .tab
        else
          read floor fuel (if f.isBroken then f else { f with blanks := f.blanks ++ [c] })
            (cursor.advance 1)
      else if isBreak c then
        let (ending, cursor) := cursor.readBreak
        read floor fuel (f.addBreak ending) cursor
      else .ok (f, cursor)

end Fold

end Galley.Yaml
