import Galley.Enrich.Walk

/-!
Diagrams. A block of code in the language of diagrams is replaced by a placeholder that carries the
code in an attribute, for a script on the page to draw it.
-/

set_option autoImplicit false
set_option relaxedAutoImplicit false

namespace Galley.Enrich

open Html

/-- The language of diagrams. -/
def diagramLanguage : List Char := "mermaid".toList

/-- Whether code with the given attributes is a diagram. -/
def isDiagram (attrs : Attributes) : Bool :=
  attrs.hasClass ("language-".toList ++ diagramLanguage) || attrs.hasClass diagramLanguage

/-- The code of a diagram, given the children of its element: the text that it starts with, and
nothing if it is empty. -/
def diagramText? (doc : Document) (children : List NodeId) : Option (List Char) :=
  match children.head?.bind doc.get? with
  | none => some []
  | some { kind := .text value, .. } => some value
  | some _ => none

/-- The code of the diagram that a block starts with. -/
def diagramSource? (doc : Document) (block : NodeId) : Option (List Char) :=
  match doc.children block with
  | [] => none
  | code :: _ =>
    match doc.element? code with
    | some (tag, attrs) =>
      if tag == "code".toList && isDiagram attrs then diagramText? doc (doc.children code) else none
    | none => none

/-- The attributes of a placeholder. -/
def placeholderAttributes (source : List Char) : Attributes :=
  (Attributes.empty.set .className "mermaid-placeholder".toList).set (.data .mermaid) source

/-- The attributes of the text that is shown before a diagram is drawn. -/
def loadingAttributes : Attributes := Attributes.empty.set .className "mermaid-loading".toList

/-- The text that is shown before a diagram is drawn. -/
def loadingText : List Char := "Loading diagram...".toList

/-- Adds a placeholder for a diagram, with a text to show before it is drawn. What was added before
a failure stays. -/
def addPlaceholder (doc : Document) (source : List Char) :
    Document × Except DocumentError NodeId :=
  let (doc, text) := doc.alloc (.text loadingText)
  let (doc, loading) := doc.alloc (.element "pre".toList loadingAttributes)
  match doc.append loading text with
  | .error e => (doc, .error e)
  | .ok doc =>
    let (doc, top) := doc.alloc (.element "div".toList (placeholderAttributes source))
    match doc.append top loading with
    | .error e => (doc, .error e)
    | .ok doc => (doc, .ok top)

/-- Replaces a block that starts with a diagram. -/
def replaceDiagram : Visitor Unit := fun p id =>
  match p.doc.element? id with
  | none => (p, .ok .descend)
  | some (tag, _) =>
    if tag = "pre".toList then
      match diagramSource? p.doc id with
      | none => (p, .ok .skip)
      | some source =>
        match addPlaceholder p.doc source with
        | (doc, .error e) => ({ p with doc }, .error (.document e))
        | (doc, .ok top) => ({ p with doc }, .ok (.replace top))
    else (p, .ok .descend)

/-- The pass that replaces diagrams. -/
def diagrams : Pass where
  name := "diagrams".toList
  apply := walk "diagrams".toList replaceDiagram ()

end Galley.Enrich
