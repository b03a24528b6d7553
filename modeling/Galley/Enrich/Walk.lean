import Galley.Diagnostics
import Galley.Html.Document

/-!
Passes over a document. A pass visits the nodes below the root, each before its children. A visit
that fails is reported and leaves the node in its place; only a child that does not exist fails the
whole pass.
-/

set_option autoImplicit false
set_option relaxedAutoImplicit false

namespace Galley.Enrich

open Html

/-- Why a pass fails. -/
inductive EnrichError where
  | document (error : DocumentError)
  | pass (name message : List Char)
deriving DecidableEq, Repr, Inhabited

/-- The text of an error. -/
def EnrichError.message : EnrichError → List Char
  | .document e => e.message.toList
  | .pass name message => name ++ ": ".toList ++ message

/-- What follows the visit of a node. -/
inductive Visit where
  /-- Its children are visited. -/
  | descend
  /-- What is below it is left alone. -/
  | skip
  /-- Another node takes its place. -/
  | replace (node : NodeId)
deriving DecidableEq, Repr, Inhabited

/-- What a pass carries from visit to visit: a state of its own, the document and the reports. -/
structure Progress (σ : Type) where
  state : σ
  doc : Document
  diagnostics : Diagnostics

/-- What a pass does at a node. A visit that fails can have changed the document before. -/
abbrev Visitor (σ : Type) := Progress σ → NodeId → Progress σ × Except EnrichError Visit

/-- Visits the child at an index, and then what is below it. -/
def visitChild {σ : Type} (name : List Char) (visit : Visitor σ)
    (below : Progress σ → NodeId → Progress σ × Option EnrichError) (parent : NodeId) (index : Nat)
    (child : NodeId) (p : Progress σ) : Progress σ × Option EnrichError :=
  match p.doc.get child with
  | .error e => (p, some (.document e))
  | .ok _ =>
    match visit p child with
    | (p, .ok .descend) => below p child
    | (p, .ok .skip) => (p, none)
    | (p, .ok (.replace id)) =>
      match p.doc.replaceChild parent index id with
      | .ok doc => ({ p with doc }, none)
      | .error e => (p, some (.document e))
    | (p, .error e) => ({ p with diagnostics := p.diagnostics.fail name e.message }, none)

/-- Visits children of a node from the given index on, up to where something stops the visits. -/
def visitChildren {σ : Type} (name : List Char) (visit : Visitor σ)
    (below : Progress σ → NodeId → Progress σ × Option EnrichError) (parent : NodeId) :
    Nat → List NodeId → Progress σ → Progress σ × Option EnrichError
  | _, [], p => (p, none)
  | index, child :: rest, p =>
    match visitChild name visit below parent index child p with
    | (p, some e) => (p, some e)
    | (p, none) => visitChildren name visit below parent (index + 1) rest p

/-- Visits all nodes below a node; `depth` bounds how far down. What stops the visits is given with
what was done before. -/
def walkBelow {σ : Type} (name : List Char) (visit : Visitor σ) :
    Nat → Progress σ → NodeId → Progress σ × Option EnrichError
  | 0, p, _ => (p, none)
  | depth + 1, p, parent =>
    match p.doc.get parent with
    | .error e => (p, some (.document e))
    | .ok cell => visitChildren name visit (walkBelow name visit depth) parent 0 cell.children p

/-- A document, or why there is none, and the reports up to there. -/
abbrev Enriched := Except EnrichError Document × Diagnostics

/-- Visits all nodes of a document. -/
def walk {σ : Type} (name : List Char) (visit : Visitor σ) (state : σ) (doc : Document)
    (diagnostics : Diagnostics) : Enriched :=
  match walkBelow name visit doc.size ⟨state, doc, diagnostics⟩ Document.root with
  | (p, none) => (.ok p.doc, p.diagnostics)
  | (p, some e) => (.error e, p.diagnostics)

/-- A change made to a whole document. -/
structure Pass where
  name : List Char
  apply : Document → Diagnostics → Enriched

/-- Runs passes in order, up to the first that fails. -/
def runPasses (passes : List Pass) (doc : Document) (diagnostics : Diagnostics) : Enriched :=
  match passes with
  | [] => (.ok doc, diagnostics)
  | pass :: rest =>
    match pass.apply doc diagnostics with
    | (.ok doc, diagnostics) => runPasses rest doc diagnostics
    | (.error e, diagnostics) => (.error e, diagnostics)

end Galley.Enrich
