/-!
Which constructs a document may use. The usual dialect has the GitHub extensions, front matter,
indented code and raw HTML; the component dialect trades indented code and raw HTML for component
tags and expressions.
-/

set_option autoImplicit false
set_option relaxedAutoImplicit false

namespace Galley.Markdown

/-- The constructs that can be switched on and off. -/
structure Dialect where
  /-- Tables, task lists, strikethrough, footnotes and bare links. -/
  gfm : Bool := true
  /-- A metadata block at the very start. -/
  frontmatter : Bool := true
  /-- Code blocks by indentation. -/
  codeIndented : Bool := true
  /-- HTML in blocks and in text. -/
  rawHtml : Bool := true
  /-- Formulas between dollar signs. -/
  math : Bool := false
  /-- Component tags and expressions. -/
  mdx : Bool := false
deriving DecidableEq, Repr, Inhabited

namespace Dialect

/-- The dialect of posts. -/
def markdown : Dialect := {}

/-- The dialect of posts with components. -/
def components : Dialect := { codeIndented := false, rawHtml := false, mdx := true }

/-- The most columns of indentation before a block construct: with indented code on, a further
column would make it code. -/
def indentLimit (d : Dialect) (available : Nat) : Nat :=
  if d.codeIndented then 3 else available

end Dialect

end Galley.Markdown
