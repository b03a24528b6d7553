import Galley.Markdown.Block
import Galley.Markdown.Dialect

/-!
Blocks that one line can tell: headings, underlines, thematic breaks, fences and the parts of a
table. Every reader takes the glyphs of a line, without its ending and after what its containers
take.
-/

set_option autoImplicit false
set_option relaxedAutoImplicit false

namespace Galley.Markdown

/-- Cuts off the leading blanks of a line, if they are not too many for a block. -/
def unindent? (d : Dialect) (gs : List Glyph) : Option (List Glyph) :=
  let rest := dropSpaces gs
  if gs.length - rest.length ≤ d.indentLimit gs.length then some rest else none

/-- Words between blanks: for each one its glyphs and the glyphs from it to the end of the line. -/
def wordsWithin : Nat → List Glyph → List (List Glyph × List Glyph)
  | 0, _ => []
  | fuel + 1, gs =>
    match dropSpaces gs with
    | [] => []
    | g :: rest =>
      let word := (g :: rest).takeWhile fun g => !g.isSpace
      (word, g :: rest) :: wordsWithin fuel ((g :: rest).drop word.length)

/-- The text of a heading after its marks: from its first word to its last, where words that are
marks only do not count unless another mark stands right in front of a word. -/
def headingText (gs : List Glyph) : List Glyph :=
  let isText (word : List Glyph) : Bool := word.any (·.char != '#')
  match (wordsWithin gs.length gs).filter fun (word, _) => isText word with
  | [] => []
  | first :: others =>
    let last := (others.getLast?).getD first
    -- Marks that lead a word are marks still: the text starts at its first other glyph.
    let start := first.2.dropWhile (·.char == '#')
    start.take (start.length - last.2.length + last.1.length)

/-- A heading with marks: its level and its text. -/
def markedHeading? (gs : List Glyph) : Option (Nat × List Glyph) :=
  let marks := gs.takeWhile (·.char == '#')
  let rest := gs.drop marks.length
  if marks.isEmpty || 6 < marks.length || rest.head?.any (!·.isSpace) then none
  else some (marks.length, headingText rest)

/-- The line under a heading: its level. -/
def underline? (gs : List Glyph) : Option Nat :=
  match gs with
  | [] => none
  | g :: _ =>
    if g.char == '=' || g.char == '-' then
      if isBlankLine (gs.dropWhile (·.char == g.char)) then some (if g.char == '=' then 1 else 2)
      else none
    else none

/-- Whether a line is a thematic break: three marks or more of one kind and blanks. -/
def isThematicBreak (gs : List Glyph) : Bool :=
  match gs with
  | [] => false
  | g :: _ =>
    (g.char == '*' || g.char == '-' || g.char == '_') &&
      gs.all (fun h => h.isSpace || h.char == g.char) &&
      3 ≤ (gs.filter fun h => h.char == g.char).length

/-- The fewest marks of a fence. -/
def fenceSize (mark : Char) : Nat := if mark == '$' then 2 else 3

/-- A fence that opens, after `indent` columns of blanks. -/
def openFence? (d : Dialect) (indent : Nat) (gs : List Glyph) : Option Fence :=
  match gs with
  | [] => none
  | g :: _ =>
    let mark := g.char
    if !(mark == '\x60' || mark == '~' || (mark == '$' && d.math)) then none
    else
      let size := (gs.takeWhile (·.char == mark)).length
      let rest := dropSpaces (gs.drop size)
      if size < fenceSize mark || (mark != '~' && rest.any (·.char == mark)) then none
      else
        let part (gs : List Glyph) : Option (List Char) :=
          if gs.isEmpty then none else some (plainText (glyphText gs))
        if mark == '$' then some { mark, size, indent, info := none, remark := part rest }
        else
          let info := rest.takeWhile fun g => !g.isSpace
          some
            { mark, size, indent, info := part info
              remark := part (dropSpaces (rest.drop info.length)) }

/-- Whether a line closes a fence. -/
def Fence.closedBy (f : Fence) (d : Dialect) (gs : List Glyph) : Bool :=
  match unindent? d gs with
  | none => false
  | some rest =>
    let size := (rest.takeWhile (·.char == f.mark)).length
    f.size ≤ size && isBlankLine (rest.drop size)

/-- Cuts a row of a table at bars that no backslash escapes. -/
def splitRow (escaped : Bool) : List Glyph → List (List Glyph)
  | [] => [[]]
  | g :: rest =>
    if !escaped && g.char == '|' then [] :: splitRow false rest
    else
      match splitRow (!escaped && g.char == '\\') rest with
      | [] => [[g]]
      | cell :: cells => (g :: cell) :: cells

/-- Drops blanks at both ends. -/
def trimGlyphs (gs : List Glyph) : List Glyph :=
  ((dropSpaces gs).reverse.dropWhile Glyph.isSpace).reverse

/-- The cells of a row. A bar in front and one at the end are not between cells. -/
def rowCells (gs : List Glyph) : List (List Glyph) :=
  let gs := dropSpaces gs
  let gs := if gs.head?.any (·.char == '|') then gs.drop 1 else gs
  let cells := (splitRow false gs).map trimGlyphs
  if 1 < cells.length && (cells.getLast?).any List.isEmpty then cells.dropLast else cells

/-- Whether a line can be the first row of a table: something but a single bar stands in it. -/
def isHeaderRow (d : Dialect) (gs : List Glyph) : Bool :=
  match unindent? d gs with
  | none => false
  | some rest => !rest.isEmpty && !(rest.head?.any (·.char == '|') && isBlankLine (rest.drop 1))

/-- A cell of the row that sets alignments: dashes, with a colon on the sides to align to. -/
def alignmentCell? (gs : List Glyph) : Option (Option Alignment) :=
  let left := gs.head?.any (·.char == ':')
  let gs := if left then gs.drop 1 else gs
  let dashes := (gs.takeWhile (·.char == '-')).length
  if dashes == 0 then none
  else
    match left, (gs.drop dashes).map (·.char) with
    | false, [] => some none
    | true, [] => some (some .left)
    | false, [':'] => some (some .right)
    | true, [':'] => some (some .center)
    | _, _ => none

/-- The row that sets alignments. A colon or a bar must be in it. -/
def alignmentRow? (d : Dialect) (gs : List Glyph) : Option (List (Option Alignment)) :=
  match unindent? d gs with
  | none => none
  | some rest =>
    if rest.any (fun g => g.char == ':' || g.char == '|') then
      (rowCells rest).mapM alignmentCell?
    else none

end Galley.Markdown
