import Galley.Markdown.Component

/-!
What stands in a line of text. Text, escapes and line endings are leaves, as are code, formulas,
HTML, tags and expressions; emphasis, strong text, deletions, links and images have parts of their
own.
-/

set_option autoImplicit false
set_option relaxedAutoImplicit false

namespace Galley.Markdown

/-- How a reference names its definition: by its own text, by its text and empty brackets, or by a
label after it. -/
inductive ReferenceStyle where
  | shortcut
  | collapsed
  | full
deriving DecidableEq, Repr, Inhabited

/-- Where a link or an image points: straight to a destination, or to the definition of a label. -/
inductive Target where
  | direct (url : List Char) (title : Option (List Char))
  | labelled (style : ReferenceStyle) (label : List Char)
deriving Repr, Inhabited

/-- The three kinds of marked text. -/
inductive Marking where
  | emphasis
  | strong
  | deletion
deriving DecidableEq, Repr, Inhabited

/-- An element of text. -/
inductive Inline where
  /-- Characters that stand for themselves. -/
  | data (glyphs : List Glyph)
  /-- What an escape or a character reference stands for. -/
  | escaped (value : List Char)
  | eol (ending : Ending)
  | hardBreak
  /-- Code, or a formula. -/
  | verbatim (isMath : Bool) (content : List Glyph)
  | html (value : List Char)
  /-- A link in angle brackets, to an address for mail or to anything else. -/
  | autolink (isEmail : Bool) (value : List Char)
  /-- A link without any marks; `scheme` is put before the address. -/
  | bareLink (scheme : List Char) (value : List Char)
  | expression (value : List Char)
  | tag (tag : Tag)
  | taskMark (checked : Bool)
  | footnoteCall (label : List Char)
  | marked (marking : Marking) (span : Span) (children : List Inline)
  | link (span : Span) (target : Target) (children : List Inline)
  | image (target : Target) (children : List Inline)
deriving Inhabited

/-- Replaces escaped bars, as cells of tables need. -/
def unescapeBars : List Char → List Char
  | '\\' :: '|' :: rest => '|' :: unescapeBars rest
  | c :: rest => c :: unescapeBars rest
  | [] => []

/-- Code or a formula without the one blank on both sides that keeps marks apart from it. -/
def stripPadding (s : List Char) : List Char :=
  let inner := s.tail.dropLast
  if 2 < s.length && s.head? == some ' ' && s.getLast? == some ' ' && inner.any (· != ' ') then
    inner
  else s

/-- The value of code or a formula in text. -/
def verbatimValue (inTable : Bool) (content : List Glyph) : List Char :=
  let value := glyphText content
  stripPadding (if inTable then unescapeBars value else value)

end Galley.Markdown
