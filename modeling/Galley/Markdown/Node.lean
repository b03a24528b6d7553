import Galley.Markdown.Block
import Galley.Markdown.Inline

/-!
The tree of a document. Every node either is a leaf with a value or stands for a construct with
children; nothing in the types says which construct may stand where, so that trees can be put
together and taken apart freely.
-/

set_option autoImplicit false
set_option relaxedAutoImplicit false

namespace Galley.Markdown

/-- What identifies a definition: its label as written, and the form that is compared. -/
structure Reference where
  identifier : List Char
  label : Option (List Char)
deriving DecidableEq, Repr, Inhabited

/-- Nodes without children. -/
inductive Atom where
  | text (value : List Char)
  | html (value : List Char)
  | code (language : Option (List Char)) (remark : Option (List Char)) (value : List Char)
      (place : Option Point)
  | math (remark : Option (List Char)) (value : List Char)
  | inlineCode (value : List Char)
  | inlineMath (value : List Char)
  | yaml (value : List Char)
  | toml (value : List Char)
  /-- An expression of its own, or one in text. -/
  | expression (inText : Bool) (value : List Char)
  | modules (value : List Char)
  | hardBreak
  | thematicBreak
  | image (url : List Char) (title : Option (List Char)) (alt : List Char)
  | imageReference (style : ReferenceStyle) (reference : Reference) (alt : List Char)
  | footnoteReference (reference : Reference)
  | definition (reference : Reference) (url : List Char) (title : Option (List Char))
deriving DecidableEq, Repr, Inhabited

/-- Nodes with children. -/
inductive Construct where
  | root
  | paragraph
  | heading (level : Nat)
  | blockquote
  | list (isOrdered : Bool) (start : Option Nat) (spread : Bool)
  | item (checked : Option Bool) (spread : Bool)
  | table (alignments : List (Option Alignment))
  | row
  | cell
  | footnoteDefinition (reference : Reference)
  | emphasis
  | strong
  | deletion
  | link (url : List Char) (title : Option (List Char))
  | linkReference (style : ReferenceStyle) (reference : Reference)
  /-- A component, in text or of its own. -/
  | component (inText : Bool) (name : Option (List Char)) (attributes : List Attribute)
deriving DecidableEq, Repr, Inhabited

/-- A node of the tree. -/
inductive Node where
  | atom (value : Atom)
  | branch (construct : Construct) (children : List Node)
deriving Inhabited, Repr

/-- The children of a node. -/
def Node.children : Node → List Node
  | .atom _ => []
  | .branch _ children => children

/-- A text. -/
abbrev Node.text (value : List Char) : Node := .atom (.text value)

end Galley.Markdown
