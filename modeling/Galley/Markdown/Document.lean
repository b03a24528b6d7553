import Galley.Markdown.Block.Read
import Galley.Markdown.Inline.Read

/-!
A document as blocks with their texts read. Lines are sorted into blocks first, since a text can
refer to definitions that stand after it; then items that belong together are joined to lists, and
the texts are read in the order of the document.
-/

set_option autoImplicit false
set_option relaxedAutoImplicit false

namespace Galley.Markdown

/-- Puts an item in front of blocks: into the list that they start with, after line endings, if the
marks agree, or else into a list of its own. -/
def consItem (span : Span) (marker : ItemMarker) (item : RawBlock) (rest : List RawBlock) :
    List RawBlock :=
  let endings := rest.takeWhile Block.isEnding
  match rest.drop endings.length with
  | .list span' marker' items :: others =>
    if marker.sign == marker'.sign then
      .list ⟨span.start, span'.stop⟩ marker (item :: (endings ++ items)) :: others
    else .list span marker [item] :: rest
  | _ => .list span marker [item] :: rest

mutual

/-- Joins items to lists inside a block. -/
def joinItemsIn : RawBlock → RawBlock
  | .quote span children => .quote span (joinItems children)
  | .note span label children => .note span label (joinItems children)
  | .item span marker children => .item span marker (joinItems children)
  | block => block

/-- Joins items to lists. -/
def joinItems : List RawBlock → List RawBlock
  | [] => []
  | block :: rest =>
    match joinItemsIn block with
    | .item span marker children =>
      consItem span marker (.item span marker children) (joinItems rest)
    | block => block :: joinItems rest

end

mutual

/-- The labels of definitions and of footnotes in a block. -/
def labelsIn : RawBlock → List (List Glyph) × List (List Glyph)
  | .definition d => ([d.label], [])
  | .note _ label children =>
    let (definitions, notes) := labelsInAll children
    (definitions, label :: notes)
  | .quote _ children | .item _ _ children | .list _ _ children => labelsInAll children
  | _ => ([], [])

/-- The labels of definitions and of footnotes in blocks. -/
def labelsInAll : List RawBlock → List (List Glyph) × List (List Glyph)
  | [] => ([], [])
  | block :: rest =>
    let (definitions, notes) := labelsIn block
    let (definitions', notes') := labelsInAll rest
    (definitions ++ definitions', notes ++ notes')

end

/-- Blocks whose text is read. -/
abbrev TextBlock := Block (List Inline)

/-- Reads the text of each cell. -/
def readCells (scope : Scope) : List (Span × List Glyph) →
    Except Fault (List (Span × List Inline))
  | [] => .ok []
  | (span, gs) :: rest => do
    let text ← readText scope false gs
    return (span, text) :: (← readCells scope rest)

/-- Reads the text of each row. -/
def readRows (scope : Scope) : List (Ending × List (Span × List Glyph)) →
    Except Fault (List (Ending × List (Span × List Inline)))
  | [] => .ok []
  | (ending, cells) :: rest => do
    let cells ← readCells scope cells
    return (ending, cells) :: (← readRows scope rest)

mutual

/-- Reads the texts in a block. `mayBeTask` says that it can start with the box of a task. -/
def readTexts (scope : Scope) (mayBeTask : Bool) : RawBlock → Except Fault TextBlock
  | .eol e => .ok (.eol e)
  | .blank e => .ok (.blank e)
  | .frontMatter isYaml value => .ok (.frontMatter isYaml value)
  | .definition d => .ok (.definition d)
  | .paragraph span lead gs => do
    return .paragraph span lead (← readText scope (mayBeTask && lead.isNone) gs)
  | .heading span underlined level gs => do
    return .heading span underlined level (← readText scope false gs)
  | .thematicBreak => .ok .thematicBreak
  | .code start fence isClosed parts => .ok (.code start fence isClosed parts)
  | .html parts => .ok (.html parts)
  | .expression value => .ok (.expression value)
  | .tag tag => .ok (.tag tag)
  | .table span alignments header ending rows => do
    let header ← readCells scope header
    return .table span alignments header ending (← readRows scope rows)
  | .quote span children => do return .quote span (← readAllTexts scope false children)
  | .note span label children => do return .note span label (← readAllTexts scope false children)
  | .item span marker children => do return .item span marker (← readAllTexts scope true children)
  | .list span marker children => do return .list span marker (← readAllTexts scope false children)

/-- Reads the texts in blocks. `atItemStart` says that nothing but definitions stands between the
mark of an item and these blocks. -/
def readAllTexts (scope : Scope) (atItemStart : Bool) :
    List RawBlock → Except Fault (List TextBlock)
  | [] => .ok []
  | block :: rest => do
    let first ← readTexts scope atItemStart block
    let atStart := atItemStart && (match block with
      | .eol _ | .blank _ | .definition _ => true
      | _ => false)
    return first :: (← readAllTexts scope atStart rest)

end

/-- The mark of a metadata block that a line is, if it is one. -/
def metadataMark? (line : Line) : Option Char :=
  match line.body.map (·.char) with
  | c :: c' :: c'' :: _ =>
    if c == c' && c == c'' && (c == '-' || c == '+') && isBlankLine (line.body.drop 3) then some c
    else none
  | _ => none

/-- The lines before the closing mark of a metadata block, that mark's line, and the lines after
it. -/
def untilMark (mark : Char) (before : List Line) : List Line → Option (List Line × Line × List Line)
  | [] => none
  | line :: rest =>
    if metadataMark? line == some mark then some (before.reverse, line, rest)
    else untilMark mark (line :: before) rest

/-- A metadata block at the start of a document: the state of the reader after it, and the lines
that are left. -/
def metadata? (lines : List Line) : Option (Reading × List Line) :=
  match lines with
  | [] => none
  | first :: rest =>
    (metadataMark? first).bind fun mark =>
      if first.eol.isNone then none
      else
        (untilMark mark [] rest).map fun (inside, last, rest) =>
          let value := glyphText (joinLines (withoutEnding inside.reverse).reverse)
          ({ base := [.frontMatter (mark == '-') value]
             ending := last.eol.map fun g => ⟨true, g⟩
             stop := endPoint last.start last.body }, rest)

/-- The blocks of a document, and the place where it ends. -/
structure Document where
  blocks : List TextBlock
  stop : Point
  source : Array Char

/-- Reads a document. -/
def readDocument (d : Dialect) (source : List Char) : Except Fault Document := do
  let gs := glyphs source
  let lines := splitLines gs
  let (st, lines) := ((if d.frontmatter then metadata? lines else none)).getD ({}, lines)
  let blocks := joinItems (← finishReading d (← readLines d st lines))
  let chars := source.toArray
  let (definitions, notes) := labelsInAll blocks
  let names (labels : List (List Glyph)) : List (List Char) :=
    labels.map fun gs => identifier (sourceStretch chars gs)
  let definitions := names definitions
  let notes := names notes
  let scope : Scope :=
    { dialect := d, source := chars
      isDefined := fun id => definitions.contains id
      isFootnote := fun id => notes.contains id }
  let blocks ← readAllTexts scope false blocks
  return { blocks, stop := endPoint ⟨1, 1⟩ gs, source := chars }

end Galley.Markdown
