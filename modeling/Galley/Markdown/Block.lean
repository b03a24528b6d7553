import Galley.Markdown.Component
import Galley.Markdown.Definition

/-!
The blocks of a document. Line endings and blank lines between blocks are kept, because they decide
where lists are loose and where the written form has line breaks. A block has text of type `α`:
glyphs when the lines have been sorted into blocks, elements when the texts have been read.
-/

set_option autoImplicit false
set_option relaxedAutoImplicit false

namespace Galley.Markdown

/-- How the cells of a column stand. -/
inductive Alignment where
  | left
  | right
  | center
deriving DecidableEq, Repr, Inhabited

/-- A part of what a block holds as it is: a line, or the ending of one. -/
inductive Verbatim where
  | eol (ending : Ending)
  | line (glyphs : List Glyph)
deriving Inhabited

/-- What stands on the first line of a fence. -/
structure Fence where
  mark : Char
  size : Nat
  /-- Columns before the first mark; as many are dropped from each line inside. -/
  indent : Nat
  /-- The first word after the marks. -/
  info : Option (List Char)
  /-- What follows that word, or the marks of a formula. -/
  remark : Option (List Char)
deriving Inhabited

/-- Whether a fence holds a formula. -/
def Fence.isMath (f : Fence) : Bool := f.mark == '$'

/-- What marks the items of a list: a bullet, or a number and the sign after it. -/
structure ItemMarker where
  number : Option (List Char)
  sign : Char
deriving DecidableEq, Repr, Inhabited

/-- A block. -/
inductive Block (α : Type) where
  | eol (ending : Ending)
  | blank (ending : Ending)
  | frontMatter (isYaml : Bool) (value : List Char)
  | definition (definition : Definition)
  /-- Text, with a line in front of it that was meant to underline a heading, if there is one. -/
  | paragraph (span : Span) (lead : Option (List Glyph × Option Ending)) (text : α)
  /-- A heading with marks before it, or with an underline after the given line ending. -/
  | heading (span : Span) (underlined : Option Ending) (level : Nat) (text : α)
  | thematicBreak
  /-- Code or a formula; without a fence it is code by indentation. -/
  | code (start : Point) (fence : Option Fence) (isClosed : Bool) (parts : List Verbatim)
  | html (parts : List Verbatim)
  | expression (value : List Char)
  | tag (tag : Tag)
  /-- A table: the cells of its first row, the line ending after that row, and further rows after
  their line endings. -/
  | table (span : Span) (alignments : List (Option Alignment)) (header : List (Span × α))
      (ending : Ending) (rows : List (Ending × List (Span × α)))
  | quote (span : Span) (children : List (Block α))
  | note (span : Span) (label : List Glyph) (children : List (Block α))
  | item (span : Span) (marker : ItemMarker) (children : List (Block α))
  | list (span : Span) (marker : ItemMarker) (children : List (Block α))
deriving Inhabited

/-- Whether a block is a line ending or a blank line. -/
def Block.isEnding {α : Type} : Block α → Bool
  | .eol _ | .blank _ => true
  | _ => false

/-- Whether a block is a blank line. -/
def Block.isBlank {α : Type} : Block α → Bool
  | .blank _ => true
  | _ => false

end Galley.Markdown
