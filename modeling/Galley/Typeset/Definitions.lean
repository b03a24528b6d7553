import Galley.Markdown.Node

/-!
What references in a document can name. Definitions are gathered from the whole tree, each node
before its children, and of several with one identifier the first counts.
-/

set_option autoImplicit false
set_option relaxedAutoImplicit false

namespace Galley.Typeset

open Markdown

/-- Where a definition leads. -/
structure Destination where
  url : List Char
  title : Option (List Char)
deriving DecidableEq, Repr, Inhabited

/-- The definitions of a document, in order. -/
structure Definitions where
  links : List (List Char × Destination) := []
  footnotes : List (List Char × List Node) := []
deriving Inhabited

namespace Definitions

/-- Where an identifier leads. -/
def link? (ds : Definitions) (identifier : List Char) : Option Destination :=
  ds.links.lookup identifier

/-- The content of a footnote. -/
def footnote? (ds : Definitions) (identifier : List Char) : Option (List Node) :=
  ds.footnotes.lookup identifier

/-- All definitions of two parts, in order. -/
def append (ds es : Definitions) : Definitions :=
  ⟨ds.links ++ es.links, ds.footnotes ++ es.footnotes⟩

mutual

/-- The definitions in a node. -/
def ofNode : Node → Definitions
  | .atom (.definition reference url title) => { links := [(reference.identifier, ⟨url, title⟩)] }
  | .atom _ => {}
  | .branch (.footnoteDefinition reference) children =>
    append { footnotes := [(reference.identifier, children)] } (ofNodes children)
  | .branch _ children => ofNodes children

/-- The definitions in nodes. -/
def ofNodes : List Node → Definitions
  | [] => {}
  | node :: rest => append (ofNode node) (ofNodes rest)

end

end Definitions

end Galley.Typeset
