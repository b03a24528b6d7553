import Galley.Markdown.Block.Container
import Galley.Markdown.Block.Html
import Galley.Markdown.Component

/-!
The state in which lines are sorted into blocks: the containers that are open, the block that the
last line left open, and the ending of that line, which is put down only when it is clear which
container it belongs to.
-/

set_option autoImplicit false
set_option relaxedAutoImplicit false

namespace Galley.Markdown

/-- Blocks whose text is not read yet. -/
abbrev RawBlock := Block (List Glyph)

/-- The ending of a line, and whether the line was blank. -/
structure LineEnd where
  isBlank : Bool
  glyph : Glyph
deriving Inhabited

/-- The ending of a line as a block. -/
def LineEnd.block (e : LineEnd) : RawBlock :=
  if e.isBlank then .blank e.glyph.ending else .eol e.glyph.ending

/-- The block that the last line left open. Lines and parts stand last first. -/
inductive Leaf where
  /-- None; `underlined` says that the line was meant to underline a heading. -/
  | none (underlined : Bool)
  | text (lines : List Line)
  /-- Code by indentation; `blanks` holds the endings of lines since the last line of code, but for
  the last of them. -/
  | code (start : Point) (parts : List Verbatim) (blanks : List RawBlock)
  | fence (start : Point) (fence : Fence) (parts : List Verbatim)
  | html (kind : HtmlKind) (parts : List Verbatim)
  | table (start : Point) (alignments : List (Option Alignment)) (header : List (List Glyph))
      (ending : Ending) (rows : List (Ending × List (List Glyph)))
  /-- Tags or expressions that go on, with what was open before them in case that they turn out to
  be text. -/
  | component (before : Leaf) (beforeEnding : Option LineEnd) (lines : List Line)
      (inExpression : Bool)
deriving Inhabited

/-- A container with the blocks in it, last first. -/
structure OpenContainer where
  container : Container
  start : Point
  children : List RawBlock
deriving Inhabited

/-- The block that a closed container makes. -/
def OpenContainer.block (o : OpenContainer) (stop : Point) : RawBlock :=
  let children := o.children.reverse
  match o.container with
  | .quote => .quote ⟨o.start, stop⟩ children
  | .item marker _ _ => .item ⟨o.start, stop⟩ marker children
  | .note label => .note ⟨o.start, stop⟩ label children

/-- The state: open containers, innermost first, the blocks outside of them, last first, and what
the last line left open. -/
structure Reading where
  opens : List OpenContainer := []
  base : List RawBlock := []
  leaf : Leaf := .none false
  ending : Option LineEnd := none
  /-- Whether a new construct would interrupt text. -/
  interrupting : Bool := false
  /-- Whether the last line was one that a lazy line can follow. -/
  accepting : Bool := false
  /-- The place where the last line ended. -/
  stop : Point := ⟨1, 1⟩
deriving Inhabited

/-- The span of glyphs. -/
def spanOf (gs : List Glyph) : Span :=
  let start := (gs.head?.map (·.point)).getD ⟨1, 1⟩
  ⟨start, endPoint start gs⟩

/-- Lines as one run of glyphs. -/
def joinLines (lines : List Line) : List Glyph :=
  lines.flatMap Line.glyphs

/-- The definitions at the start of a text, with the line endings after them, and what is left;
`fuel` bounds their number. -/
def splitDefinitions (d : Dialect) : Nat → List Glyph → List RawBlock × List Glyph
  | 0, gs => ([], gs)
  | _, [] => ([], [])
  | fuel + 1, gs =>
    match definition? (d.indentLimit gs.length) gs with
    | none => ([], gs)
    | some (found, []) => ([.definition found], [])
    | some (found, eol :: rest) =>
      let (blocks, left) := splitDefinitions d fuel rest
      (.definition found :: .eol eol.ending :: blocks, left)

namespace Reading

/-- The blocks of the innermost container, last first. -/
def siblings (st : Reading) : List RawBlock :=
  match st.opens with
  | [] => st.base
  | top :: _ => top.children

/-- Replaces the blocks of the innermost container. -/
def withSiblings (st : Reading) (blocks : List RawBlock) : Reading :=
  match st.opens with
  | [] => { st with base := blocks }
  | top :: below => { st with opens := { top with children := blocks } :: below }

/-- Puts a block into the innermost container. -/
def push (st : Reading) (block : RawBlock) : Reading :=
  st.withSiblings (block :: st.siblings)

/-- Puts blocks into the innermost container. -/
def pushAll (st : Reading) (blocks : List RawBlock) : Reading :=
  blocks.foldl push st

/-- Puts down the ending of the last line. -/
def pushEnding (st : Reading) : Reading :=
  match st.ending with
  | none => st
  | some ending => { st.push ending.block with ending := none }

/-- Puts down a paragraph. An underline right before it that made no heading becomes its first
line. -/
def pushParagraph (st : Reading) (gs : List Glyph) : Reading :=
  match st.siblings with
  | .eol ending :: .paragraph span (some (lead, none)) [] :: rest =>
    let whole : Span := ⟨span.start, (spanOf gs).stop⟩
    st.withSiblings (.paragraph whole (some (lead, some ending)) gs :: rest)
  | _ => st.push (.paragraph (spanOf gs) none gs)

/-- Puts down lines of text: definitions first, and a paragraph if anything is left. -/
def pushText (d : Dialect) (st : Reading) (lines : List Line) : Reading :=
  let gs := joinLines lines
  let (definitions, rest) := splitDefinitions d gs.length gs
  let st := st.pushAll definitions
  if rest.isEmpty then st else st.pushParagraph rest

/-- A row of a table with the places of its cells. -/
def tableRow (cells : List (List Glyph)) : List (Span × List Glyph) :=
  cells.map fun gs => (spanOf gs, gs)

/-- Closes the open block. At the end of the document a block that was never closed takes the last
line ending. Tags and expressions must have been settled before. -/
def closeLeaf (d : Dialect) (st : Reading) (atEnd : Bool) : Reading :=
  let idle := { st with leaf := .none false }
  let withEnding (parts : List Verbatim) : Reading × List Verbatim :=
    match atEnd, st.ending with
    | true, some ending => ({ idle with ending := none }, .eol ending.glyph.ending :: parts)
    | _, _ => (idle, parts)
  match st.leaf with
  | .none _ | .component .. => idle
  | .text lines => idle.pushText d lines.reverse
  | .code start parts blanks =>
    (idle.push (.code start none false parts.reverse)).pushAll blanks.reverse
  | .fence start fence parts =>
    let (st, parts) := withEnding parts
    st.push (.code start (some fence) false parts.reverse)
  | .html kind parts =>
    if kind.endsAtBlank then idle.push (.html parts.reverse)
    else
      let (st, parts) := withEnding parts
      st.push (.html parts.reverse)
  | .table start alignments header ending rows =>
    idle.push (.table ⟨start, st.stop⟩ alignments (tableRow header) ending
      (rows.reverse.map fun (ending, cells) => (ending, tableRow cells)))

/-- Closes the innermost container. -/
def closeContainer (st : Reading) : Reading :=
  match st.opens with
  | [] => st
  | top :: below =>
    let stop := (st.ending.map (·.glyph.point)).getD st.stop
    { st with opens := below }.push (top.block stop)

/-- Closes containers until `depth` are left. -/
def closeContainers (depth : Nat) (st : Reading) : Reading :=
  (List.range (st.opens.length - depth)).foldl (fun st _ => st.closeContainer) st

end Reading

end Galley.Markdown
