import Galley.Enrich.Walk
import Galley.Slug

/-!
Identifiers and self-links of headings. A heading without an identifier gets one from its text, no
two alike; then a heading with an identifier is made a link to itself, unless it holds a link
already.
-/

set_option autoImplicit false
set_option relaxedAutoImplicit false

namespace Galley.Enrich

open Html

/-- The attributes of a node that is a heading. -/
def heading? (doc : Document) (id : NodeId) : Option Attributes :=
  match doc.element? id with
  | some (tag, attrs) => if (headingLevel? tag).isSome then some attrs else none
  | none => none

/-- Gives a heading an identifier. An identifier that is not empty is kept and reserved. -/
def assignId : Visitor Slugger := fun p id =>
  match heading? p.doc id with
  | none => (p, .ok .descend)
  | some attrs =>
    match attrs.get? .id with
    | some (c :: rest) => ({ p with state := p.state.reserve (c :: rest) }, .ok .skip)
    | _ =>
      let (slugger, slug) := p.state.nextId (p.doc.textContent id)
      ({ p with
         state := slugger
         doc := p.doc.setAttributes id (attrs.set .id slug) }, .ok .skip)

/-- The pass that gives headings identifiers. -/
def headingIds : Pass where
  name := "heading-ids".toList
  apply := walk "heading-ids".toList assignId .empty

/-- Whether a node is a link. -/
def isLink (cell : Cell) : Bool :=
  match cell.kind with
  | .element tag _ => tag == ['a']
  | _ => false

/-- The attributes of the self-link of a heading. -/
def anchorAttributes (className id : List Char) : Attributes :=
  let attrs := Attributes.empty.set .href ('#' :: id)
  if className.isEmpty then attrs else attrs.set .className className

/-- Puts the children of a heading into a link to it. -/
def wrapHeading (className : List Char) : Visitor Unit := fun p id =>
  match heading? p.doc id with
  | none => (p, .ok .descend)
  | some attrs =>
    match attrs.get? .id with
    | none => (p, .ok .skip)
    | some headingId =>
      if p.doc.anyDescendant id isLink then (p, .ok .skip)
      else
        let content := p.doc.children id
        let (doc, anchor) := p.doc.alloc (.element ['a'] (anchorAttributes className headingId))
        match doc.setChildren anchor content with
        | .error e => ({ p with doc }, .error (.document e))
        | .ok doc =>
          match doc.setChildren id [anchor] with
          | .error e => ({ p with doc }, .error (.document e))
          | .ok doc => ({ p with doc }, .ok .skip)

/-- The pass that makes headings link to themselves. -/
def headingAnchors (className : List Char) : Pass where
  name := "heading-anchors".toList
  apply := walk "heading-anchors".toList (wrapHeading className) ()

end Galley.Enrich
