import Galley.Text.Ascii
import Galley.Yaml.Fault

/-!
A place in a text that is read, with its line and column. A line ends with a line feed, a carriage
return or both, a next-line character, or one of the two separators of Unicode; all but the
separators are read as a line feed.
-/

set_option autoImplicit false
set_option relaxedAutoImplicit false

namespace Galley.Yaml

/-- Characters that may stand in a text. -/
def isAllowed (c : Char) : Bool :=
  let n := c.toNat
  n == 0x09 || n == 0x0A || n == 0x0D || (0x20 ≤ n && n ≤ 0x7E) || n == 0x85 ||
    (0xA0 ≤ n && n ≤ 0xD7FF) || (0xE000 ≤ n && n ≤ 0xFFFD) || 0x10000 ≤ n

/-- Spaces and tabs. -/
def isSpaceOrTab (c : Char) : Bool := c == ' ' || c == '\t'

/-- Characters that end a line. -/
def isBreak (c : Char) : Bool :=
  c == '\r' || c == '\n' || c == '\x85' || c == '\u2028' || c == '\u2029'

/-- Spaces, tabs and ends of lines. -/
def isGap (c : Char) : Bool := isSpaceOrTab c || isBreak c

/-- Characters of names. -/
def isNameCharacter (c : Char) : Bool := Text.isAlnum c || c == '_' || c == '-'

/-- Whether a rest of the text is empty or starts with a gap. -/
def atGap : List Char → Bool
  | [] => true
  | c :: _ => isGap c

/-- Whether a rest of the text is empty or starts with the end of a line. -/
def atBreak : List Char → Bool
  | [] => true
  | c :: _ => isBreak c

/-- What is left of a text, and where that stands; all counts are of characters. -/
structure Cursor where
  rest : List Char
  index : Nat := 0
  line : Nat := 0
  column : Nat := 0
deriving DecidableEq, Repr, Inhabited

namespace Cursor

/-- Passes characters of the same line. -/
def advance (cursor : Cursor) (count : Nat) : Cursor :=
  { cursor with
    rest := cursor.rest.drop count
    index := cursor.index + count
    column := cursor.column + count }

/-- Passes the characters that satisfy a test, none of which ends a line. -/
def advanceWhile (cursor : Cursor) (test : Char → Bool) : Cursor :=
  cursor.advance (cursor.rest.takeWhile test).length

/-- The end of a line as it is read, and the place after it. -/
def readBreak (cursor : Cursor) : List Char × Cursor :=
  let next (count : Nat) : Cursor :=
    { rest := cursor.rest.drop count
      index := cursor.index + count
      line := cursor.line + 1
      column := 0 }
  match cursor.rest with
  | '\r' :: '\n' :: _ => (['\n'], next 2)
  | c :: _ =>
    if c == '\u2028' || c == '\u2029' then ([c], next 1)
    else if isBreak c then (['\n'], next 1)
    else ([], cursor)
  | [] => ([], cursor)

/-- Passes the end of a line. -/
def skipBreak (cursor : Cursor) : Cursor := cursor.readBreak.2

/-- Passes a comment. -/
def skipComment (cursor : Cursor) : Cursor :=
  if cursor.rest.head? == some '#' then cursor.advanceWhile (!isBreak ·) else cursor

/-- Whether a line starts here with three times the given character and a gap. -/
def atMark (cursor : Cursor) (c : Char) : Bool :=
  cursor.column == 0 && [c, c, c].isPrefixOf cursor.rest && atGap (cursor.rest.drop 3)

/-- Whether a document starts or ends here. -/
def atDocumentMark (cursor : Cursor) : Bool := cursor.atMark '-' || cursor.atMark '.'

/-- The rest of a line after a header, which may hold a comment only. -/
def skipLineRest (cursor : Cursor) (fault : Fault) : Except Fault Cursor :=
  let cursor := (cursor.advanceWhile isSpaceOrTab).skipComment
  if atBreak cursor.rest then .ok cursor.skipBreak else .error fault

end Cursor

end Galley.Yaml
