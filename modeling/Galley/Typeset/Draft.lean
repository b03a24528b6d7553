import Galley.Html.Document
import Galley.Typeset.Footnotes

/-!
A document under way. Nodes are added one by one, children before their parent; a parent is told its
children when it is added, and some are told more of them later.
-/

set_option autoImplicit false
set_option relaxedAutoImplicit false

namespace Galley.Typeset

open Html

/-- A document under way, and the calls of footnotes in it. -/
structure Draft where
  doc : Document := .empty
  calls : Calls := {}
deriving Repr, Inhabited

/-- A step that sets a part of a document. -/
abbrev Setting := StateM Draft

/-- Adds a node without children. -/
def newNode (kind : Kind) : Setting NodeId :=
  modifyGet fun draft =>
    let (doc, id) := draft.doc.alloc kind
    (id, { draft with doc })

/-- Changes the children of a node. -/
def changeChildren (id : NodeId) (f : List NodeId → List NodeId) : Setting Unit :=
  modify fun draft => { draft with doc := draft.doc.modifyChildren id f }

/-- Adds a text. -/
def newText (value : List Char) : Setting NodeId := newNode (.text value)

/-- Adds an element with children. -/
def newElement (tag : List Char) (attrs : Attributes) (children : List NodeId) :
    Setting NodeId := do
  let id ← newNode (.element tag attrs)
  changeChildren id fun _ => children
  return id

/-- Adds an element without attributes. -/
def newPlain (tag : String) (children : List NodeId) : Setting NodeId :=
  newElement tag.toList .empty children

/-- Adds a line ending. -/
def newLine : Setting NodeId := newText ['\n']

/-- Nodes after a first one, each on a line of its own. -/
def followingLines : List NodeId → Setting (List NodeId)
  | [] => return []
  | id :: rest => do
    let line ← newLine
    return line :: id :: (← followingLines rest)

/-- Nodes on lines of their own. -/
def onLines : List NodeId → Setting (List NodeId)
  | [] => return []
  | id :: rest => return id :: (← followingLines rest)

/-- Nodes on lines of their own inside of an element. -/
def enclose : List NodeId → Setting (List NodeId)
  | [] => return [← newLine]
  | id :: rest => do
    let first ← newLine
    let others ← followingLines rest
    return first :: id :: others ++ [← newLine]

/-- Whether a node is a paragraph. -/
def isParagraph (id : NodeId) : Setting Bool := do
  match (← get).doc.element? id with
  | some (tag, _) => return tag == "p".toList
  | none => return false

/-- The children of a node. -/
def childrenOf (id : NodeId) : Setting (List NodeId) := return (← get).doc.children id

/-- The line ending at an edge of a block, if there is one. -/
def newEdge (isNeeded : Bool) : Setting (List NodeId) := do
  if isNeeded then return [← newLine] else return []

/-- The content of a block with the box of a task. The box goes into a paragraph, or else before the
block; in a tight item the content of a paragraph takes its place. -/
def fillBlock (isText isLoose : Bool) (box : List NodeId) (block : NodeId) :
    Setting (List NodeId) := do
  if isText then
    changeChildren block (box ++ ·)
    if isLoose then return [block] else childrenOf block
  else return box ++ [block]

/-- Places a block of an item, with a line ending at each edge that needs one. -/
def placeBlock (isLoose isFirst isLast : Bool) (box : List NodeId) (block : NodeId) :
    Setting (List NodeId) := do
  let isText ← isParagraph block
  let front ← newEdge (isLoose || !isFirst || !isText)
  let content ← fillBlock isText isLoose box block
  let back ← newEdge (isLast && (isLoose || !isText))
  return front ++ content ++ back

/-- The content of an item, from its blocks. The box of a task goes with the first one. -/
def placeBlocks (isLoose isFirst : Bool) (box : List NodeId) : List NodeId → Setting (List NodeId)
  | [] => return box
  | block :: rest => do
    let first ← placeBlock isLoose isFirst rest.isEmpty box block
    return first ++ (← placeBlocks isLoose false [] rest)

/-- The attributes of the box of a task. -/
def boxAttributes (isChecked : Bool) : Attributes :=
  let attrs := Attributes.ofList [(.type, "checkbox".toList), (.disabled, [])]
  if isChecked then attrs.set .checked [] else attrs

/-- The box of a task, if there is one. -/
def newBox : Option Bool → Setting (List NodeId)
  | none => return []
  | some isChecked => do
    let input ← newElement "input".toList (boxAttributes isChecked) []
    return [input, ← newText [' ']]

/-- Puts a link at the end of the last block if that is a paragraph, or else after it. -/
def placeBackLink (link : NodeId) (blocks : List NodeId) : Setting (List NodeId) := do
  match blocks.getLast? with
  | none => return [link]
  | some last =>
    if ← isParagraph last then
      let space ← newText [' ']
      changeChildren last (· ++ [space, link])
      return blocks
    else return blocks ++ [link]

end Galley.Typeset
