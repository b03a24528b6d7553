import Galley.Html.Document

/-!
Changes to a document that is kept in one place. A change looks up the nodes that it names, one
after the other, and then writes; where it goes wrong it ends, and leaves what it has written. A
call is a change with its arguments, and calls are made one after the other whether or not they
succeed.
-/

set_option autoImplicit false
set_option relaxedAutoImplicit false

namespace Galley.Html

/-- A change to a document in place. -/
abbrev Edit := ExceptT DocumentError (StateM Document)

namespace Edit

/-- What a change gives, or why it fails, and the document after it. -/
def on {α : Type} (edit : Edit α) (doc : Document) : Except DocumentError α × Document :=
  StateT.run (ExceptT.run edit) doc

/-- Adds a node that nothing names yet, and gives its index. -/
def alloc (kind : Kind) : Edit NodeId :=
  modifyGet fun doc => ((doc.alloc kind).2, (doc.alloc kind).1)

/-- Looks up a node. -/
def lookup (id : NodeId) : Edit Cell := do
  match (← get).get? id with
  | some cell => return cell
  | none => throw (.danglingNode id)

/-- Writes the children of a node. -/
def writeChildren (id : NodeId) (f : List NodeId → List NodeId) : Edit Unit :=
  modify (·.modifyChildren id f)

/-- Adds a child at the end. -/
def append (parent child : NodeId) : Edit Unit := do
  let _ ← lookup child
  let _ ← lookup parent
  writeChildren parent (· ++ [child])

/-- Replaces all children. -/
def setChildren (parent : NodeId) (children : List NodeId) : Edit Unit := do
  children.forM fun child => do
    let _ ← lookup child
  let _ ← lookup parent
  writeChildren parent fun _ => children

/-- Replaces the child at an index. -/
def replaceChild (parent : NodeId) (index : Nat) (replacement : NodeId) : Edit Unit := do
  let _ ← lookup replacement
  let cell ← lookup parent
  if index < cell.children.length then writeChildren parent (·.set index replacement)
  else throw (.childOutOfRange parent index)

/-- Changes the attributes of an element; of another node nothing is changed. -/
def changeAttributes (id : NodeId) (change : Attributes → Attributes) : Edit Unit := do
  match (← get).element? id with
  | some (_, attrs) => modify (·.setAttributes id (change attrs))
  | none => return

end Edit

/-- A change with its arguments. -/
inductive Call where
  | element (tag : List Char) (attrs : Attributes)
  | text (value : List Char)
  | raw (markup : List Char)
  | append (parent child : NodeId)
  | setChildren (parent : NodeId) (children : List NodeId)
  | replaceChild (parent : NodeId) (index : Nat) (replacement : NodeId)
  | changeAttributes (id : NodeId) (change : Attributes → Attributes)

/-- What a call answers: the index of the node that it adds, if it adds one, or what went wrong. -/
abbrev Answer := Except DocumentError (Option NodeId)

namespace Call

/-- The node that a call adds. -/
def added? : Call → Option Kind
  | element tag attrs => some (.element tag attrs)
  | text value => some (.text value)
  | raw markup => some (.raw markup)
  | _ => none

/-- Makes a call. -/
def perform : Call → Edit (Option NodeId)
  | element tag attrs => some <$> Edit.alloc (.element tag attrs)
  | text value => some <$> Edit.alloc (.text value)
  | raw markup => some <$> Edit.alloc (.raw markup)
  | append parent child => do
    Edit.append parent child
    return none
  | setChildren parent children => do
    Edit.setChildren parent children
    return none
  | replaceChild parent index replacement => do
    Edit.replaceChild parent index replacement
    return none
  | changeAttributes id change => do
    Edit.changeAttributes id change
    return none

/-- What a call answers, and the document after it. -/
def run (call : Call) (doc : Document) : Answer × Document := call.perform.on doc

/-- What calls answer one after the other, and the document after them. -/
def runAll : List Call → Document → List Answer × Document
  | [], doc => ([], doc)
  | call :: rest, doc =>
    let (answer, doc) := call.run doc
    let (answers, doc) := runAll rest doc
    (answer :: answers, doc)

end Call

end Galley.Html
