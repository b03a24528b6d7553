/-!
The source of a document as glyphs: characters with their places. A line ending is one glyph,
whichever way it is written. A tab fills columns up to the next stop, and each column that it
fills is a glyph of its own, so that indentation can be measured and cut by counting glyphs.
-/

set_option autoImplicit false
set_option relaxedAutoImplicit false

namespace Galley.Markdown

/-- A place in the source. Columns count bytes, and a tab fills columns up to the next stop. -/
structure Point where
  line : Nat
  column : Nat
deriving DecidableEq, Repr, Inhabited

/-- From a place up to another. -/
structure Span where
  start : Point
  stop : Point
deriving DecidableEq, Repr, Inhabited

/-- How a line ends. -/
inductive Ending where
  | lf
  | cr
  | crlf
deriving DecidableEq, Repr, Inhabited

/-- A line ending as it is written. -/
def Ending.chars : Ending → List Char
  | .lf => ['\n']
  | .cr => ['\r']
  | .crlf => ['\r', '\n']

/-- A character with its place. A line ending has the character line feed and remembers how it is
written; a filler is a column that the tab before it fills. -/
structure Glyph where
  char : Char
  point : Point
  index : Nat
  filler : Bool := false
  ending : Ending := .lf
deriving Inhabited

namespace Glyph

/-- A line ending. -/
def isEol (g : Glyph) : Bool := g.char == '\n'

/-- A blank inside a line. -/
def isSpace (g : Glyph) : Bool := g.char == ' ' || g.char == '\t'

/-- A blank or a line ending. -/
def isSpaceOrEol (g : Glyph) : Bool := g.isSpace || g.isEol

/-- The place right after the glyph. -/
def next (g : Glyph) : Point :=
  if g.isEol then ⟨g.point.line + 1, 1⟩
  else if g.char == '\t' || g.filler then ⟨g.point.line, g.point.column + 1⟩
  else ⟨g.point.line, g.point.column + g.char.utf8Size⟩

/-- The index in the source right after the glyph. -/
def nextIndex (g : Glyph) : Nat :=
  if g.isEol && g.ending == .crlf then g.index + 2 else g.index + 1

end Glyph

/-- The distance between tab stops. -/
def tabSize : Nat := 4

/-- The columns that a tab at a column fills beyond its own. -/
def tabFill (column : Nat) : Nat :=
  (tabSize - column % tabSize) % tabSize

/-- The fillers after a tab. -/
def fillers (line column index count : Nat) : List Glyph :=
  (List.range count).map fun k =>
    { char := ' ', point := ⟨line, column + 1 + k⟩, index := index, filler := true }

/-- The glyphs of a text from a place on. -/
def glyphsFrom (line column index : Nat) : List Char → List Glyph
  | [] => []
  | '\r' :: '\n' :: rest =>
    { char := '\n', point := ⟨line, column⟩, index := index, ending := .crlf } ::
      glyphsFrom (line + 1) 1 (index + 2) rest
  | c :: rest =>
    if c == '\r' then
      { char := '\n', point := ⟨line, column⟩, index := index, ending := .cr } ::
        glyphsFrom (line + 1) 1 (index + 1) rest
    else if c == '\n' then
      { char := '\n', point := ⟨line, column⟩, index := index } ::
        glyphsFrom (line + 1) 1 (index + 1) rest
    else if c == '\t' then
      let fill := tabFill column
      { char := '\t', point := ⟨line, column⟩, index := index } ::
        (fillers line column index fill ++ glyphsFrom line (column + 1 + fill) (index + 1) rest)
    else
      { char := c, point := ⟨line, column⟩, index := index } ::
        glyphsFrom line (column + c.utf8Size) (index + 1) rest

/-- The byte order mark. -/
def byteOrderMark : Char := Char.ofNat 0xFEFF

/-- The glyphs of a document; a byte order mark in front is passed over. -/
def glyphs : List Char → List Glyph
  | [] => []
  | c :: rest =>
    if c == byteOrderMark then glyphsFrom 1 4 1 rest else glyphsFrom 1 1 0 (c :: rest)

/-- The text of glyphs; `covered` says that a tab in front already stands for the fillers. -/
def textFrom (covered : Bool) : List Glyph → List Char
  | [] => []
  | g :: rest =>
    if g.filler then
      if covered then textFrom true rest else ' ' :: textFrom false rest
    else if g.isEol then g.ending.chars ++ textFrom false rest
    else g.char :: textFrom (g.char == '\t') rest

/-- The text of glyphs as it is written in the source. Fillers whose tab is cut off stand for
themselves. -/
def glyphText (gs : List Glyph) : List Char :=
  textFrom false gs

/-- The stretch of the source from the first to the last of some glyphs, with all that stands
between them there. -/
def sourceStretch (source : Array Char) (gs : List Glyph) : List Char :=
  match gs.head?, gs.getLast? with
  | some first, some last => (source.extract first.index last.nextIndex).toList
  | _, _ => []

/-- A line: its glyphs, its line ending if it has one, and its place. -/
structure Line where
  body : List Glyph
  eol : Option Glyph
  start : Point
deriving Inhabited

/-- Cuts glyphs into lines. A text that ends with a line ending has no empty line after it. -/
def splitLines : List Glyph → List Line
  | [] => []
  | g :: rest =>
    if g.isEol then { body := [], eol := some g, start := g.point } :: splitLines rest
    else
      match splitLines rest with
      | [] => [{ body := [g], eol := none, start := g.point }]
      | line :: lines => { line with body := g :: line.body, start := g.point } :: lines

/-- The glyphs of a line with its line ending. -/
def Line.glyphs (line : Line) : List Glyph :=
  line.body ++ line.eol.toList

/-- Leading blanks of a line, at most `limit` columns, and the rest. -/
def takeSpaces : Nat → List Glyph → List Glyph × List Glyph
  | 0, gs => ([], gs)
  | _, [] => ([], [])
  | limit + 1, g :: rest =>
    if g.isSpace then
      let (taken, left) := takeSpaces limit rest
      (g :: taken, left)
    else ([], g :: rest)

/-- Drops all leading blanks of a line. -/
def dropSpaces (gs : List Glyph) : List Glyph :=
  gs.dropWhile Glyph.isSpace

/-- Whether a line holds blanks only. -/
def isBlankLine (gs : List Glyph) : Bool :=
  gs.all Glyph.isSpace

/-- The place where glyphs end, or `fallback` when there are none. -/
def endPoint (fallback : Point) (gs : List Glyph) : Point :=
  match gs.getLast? with
  | some g => g.next
  | none => fallback

end Galley.Markdown
