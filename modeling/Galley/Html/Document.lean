import Galley.Html.Attributes
import Galley.Html.StripTags

/-!
Documents that passes change in place. The nodes of a document stand in one array and name
their children by index; the first node is the root. A node that nothing names any more stays in the
array and is not written. Nothing keeps a child list from naming a node that does not exist, or from
going round in circles: reading passes over the former, and stops at the depth that a document
without circles can have.
-/

set_option autoImplicit false
set_option relaxedAutoImplicit false

namespace Galley.Html

/-- What a node is. -/
inductive Kind where
  | root
  | element (tag : List Char) (attrs : Attributes)
  | text (value : List Char)
  | raw (markup : List Char)
deriving DecidableEq, Repr, Inhabited

/-- The index of a node. -/
abbrev NodeId := Nat

/-- A node and its children. -/
structure Cell where
  kind : Kind
  children : List NodeId := []
deriving DecidableEq, Repr, Inhabited

/-- A document. -/
structure Document where
  cells : Array Cell := #[{ kind := .root }]
deriving DecidableEq, Repr, Inhabited

/-- What can be wrong with a change to a document. -/
inductive DocumentError where
  | danglingNode (id : NodeId)
  | childOutOfRange (parent : NodeId) (index : Nat)
deriving DecidableEq, Repr, Inhabited

/-- The text of an error. -/
def DocumentError.message : DocumentError → String
  | .danglingNode id => s!"dangling node reference #{id}"
  | .childOutOfRange parent index => s!"node #{parent} has no child at index {index}"

namespace Document

/-- The root. -/
def root : NodeId := 0

/-- A document with a root only. -/
def empty : Document := {}

/-- The number of nodes. -/
def size (doc : Document) : Nat := doc.cells.size

/-- The node at an index. -/
def get? (doc : Document) (id : NodeId) : Option Cell := doc.cells[id]?

/-- The node at an index, or an error. -/
def get (doc : Document) (id : NodeId) : Except DocumentError Cell :=
  match doc.get? id with
  | some cell => .ok cell
  | none => .error (.danglingNode id)

/-- The children of a node; none for a node that does not exist. -/
def children (doc : Document) (id : NodeId) : List NodeId :=
  match doc.get? id with
  | some cell => cell.children
  | none => []

/-- The tag and the attributes of an element. -/
def element? (doc : Document) (id : NodeId) : Option (List Char × Attributes) :=
  match doc.get? id with
  | some { kind := .element tag attrs, .. } => some (tag, attrs)
  | _ => none

/-- Adds a node that nothing names yet, and gives its index. -/
def alloc (doc : Document) (kind : Kind) : Document × NodeId :=
  (⟨doc.cells.push { kind }⟩, doc.cells.size)

/-- Changes a node if it exists. -/
def modify (doc : Document) (id : NodeId) (f : Cell → Cell) : Document :=
  ⟨doc.cells.modify id f⟩

/-- Changes the children of a node if it exists, without any check of the new ones. -/
def modifyChildren (doc : Document) (id : NodeId) (f : List NodeId → List NodeId) : Document :=
  doc.modify id fun cell => { cell with children := f cell.children }

/-- Replaces the attributes of an element. -/
def setAttributes (doc : Document) (id : NodeId) (attrs : Attributes) : Document :=
  doc.modify id fun cell =>
    match cell.kind with
    | .element tag _ => { cell with kind := .element tag attrs }
    | _ => cell

/-- Adds a child at the end. The child is checked first, then the parent. -/
def append (doc : Document) (parent child : NodeId) : Except DocumentError Document := do
  let _ ← doc.get child
  let _ ← doc.get parent
  return doc.modifyChildren parent (· ++ [child])

/-- Replaces all children. The children are checked first, then the parent. -/
def setChildren (doc : Document) (parent : NodeId) (children : List NodeId) :
    Except DocumentError Document := do
  match children.find? fun id => (doc.get? id).isNone with
  | some missing => throw (.danglingNode missing)
  | none =>
    let _ ← doc.get parent
    return doc.modifyChildren parent fun _ => children

/-- Replaces the child at an index. The new child is checked first, then the parent, then the
index. -/
def replaceChild (doc : Document) (parent : NodeId) (index : Nat) (replacement : NodeId) :
    Except DocumentError Document := do
  let _ ← doc.get replacement
  let cell ← doc.get parent
  if index < cell.children.length then
    return doc.modifyChildren parent (·.set index replacement)
  else throw (.childOutOfRange parent index)

/-- Adds a child without any check. -/
def pushUnchecked (doc : Document) (parent child : NodeId) : Document :=
  doc.modifyChildren parent (· ++ [child])

/-- The markup of a node; `depth` bounds how far down it is read. -/
def writeFrom (doc : Document) : Nat → NodeId → List Char
  | 0, _ => []
  | depth + 1, id =>
    match doc.get? id with
    | none => []
    | some { kind := .root, children } => children.flatMap (writeFrom doc depth)
    | some { kind := .text value, .. } => Text.escapeText value
    | some { kind := .raw markup, .. } => markup
    | some { kind := .element tag attrs, children } =>
      startTag tag attrs ++
        (if isVoid tag then [] else children.flatMap (writeFrom doc depth) ++ endTag tag)

/-- The document as it is written. -/
def write (doc : Document) : List Char :=
  doc.writeFrom doc.size root

/-- The text of a node; `depth` bounds how far down it is read. -/
def textFrom (doc : Document) : Nat → NodeId → List Char
  | 0, _ => []
  | depth + 1, id =>
    match doc.get? id with
    | none => []
    | some { kind := .text value, .. } => value
    | some { kind := .raw markup, .. } => stripTags markup
    | some cell => cell.children.flatMap (textFrom doc depth)

/-- The text of a node, with the tags of raw markup left out. -/
def textContent (doc : Document) (id : NodeId) : List Char :=
  doc.textFrom doc.size id

/-- Whether a node below another satisfies a test; `depth` bounds how far down it is looked for. -/
def anyBelow (doc : Document) (test : Cell → Bool) : Nat → NodeId → Bool
  | 0, _ => false
  | depth + 1, id =>
    (doc.children id).any fun child =>
      (doc.get? child).any test || anyBelow doc test depth child

/-- Whether a node below another satisfies a test. -/
def anyDescendant (doc : Document) (id : NodeId) (test : Cell → Bool) : Bool :=
  doc.anyBelow test doc.size id

end Document

end Galley.Html
