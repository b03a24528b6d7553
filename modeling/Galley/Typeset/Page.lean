import Galley.Typeset.Definitions
import Galley.Typeset.Draft

/-!
The document of a tree. References are resolved where they stand, components show their content
only, and metadata, program text and stray parts of tables show nothing. The footnotes that are
called follow in a section at the end; a note may call further notes, which are added behind it.
-/

set_option autoImplicit false
set_option relaxedAutoImplicit false

namespace Galley.Typeset

open Html Markdown

/-! ### Tags and attributes -/

/-- The attributes of code in a language. -/
def codeAttributes : Option (List Char) → Attributes
  | none | some [] => .empty
  | some language => Attributes.empty.set .className ("language-".toList ++ language)

/-- The attributes of a link. -/
def linkAttributes (url : List Char) (title : Option (List Char)) : Attributes :=
  (Attributes.empty.set .href url).setIf .title title

/-- The attributes of an image. -/
def imageAttributes (url alt : List Char) (title : Option (List Char)) : Attributes :=
  ((Attributes.empty.set .src url).set .alt alt).setIf .title title

/-- The tag of a heading; levels beyond the last are set as the last. -/
def headingTag (level : Nat) : List Char := 'h' :: decimal (min (max level 1) 6)

/-- The value of an alignment. -/
def alignmentText : Markdown.Alignment → List Char
  | .left => "left".toList
  | .right => "right".toList
  | .center => "center".toList

/-- The attributes of a cell in a column with the given alignment. -/
def cellAttributes (alignment : Option Markdown.Alignment) : Attributes :=
  Attributes.empty.setIf .align (alignment.map alignmentText)

/-- Whether a node is an item that is set loosely. -/
def isSpreadItem : Node → Bool
  | .branch (.item _ spread) _ => spread
  | _ => false

/-- Whether a node is the item of a task. -/
def isTaskItem : Node → Bool
  | .branch (.item checked _) _ => checked.isSome
  | _ => false

/-- The tag of a list. -/
def listTag (isOrdered : Bool) : List Char := if isOrdered then "ol".toList else "ul".toList

/-- The attributes of a list with the given nodes. -/
def listAttributes (isOrdered : Bool) (start : Option Nat) (nodes : List Node) : Attributes :=
  let attrs := match isOrdered, start with
    | true, some n => if n = 1 then Attributes.empty else Attributes.empty.set .start (decimal n)
    | _, _ => Attributes.empty
  if nodes.any isTaskItem then attrs.set .className "contains-task-list".toList else attrs

/-- The attributes of an item, given what the box of a task in it says. -/
def itemAttributes : Option Bool → Attributes
  | none => .empty
  | some _ => Attributes.empty.set .className "task-list-item".toList

/-- The attributes of code that is a formula. -/
def mathAttributes (style : String) : Attributes :=
  Attributes.empty.set .className ("language-math ".toList ++ style.toList)

/-! ### Nodes without children -/

/-- Sets a text, unless it is empty. -/
def setValue (value : List Char) : Setting (List NodeId) := do
  if value.isEmpty then return [] else return [← newText value]

/-- Sets a block of code. -/
def setCodeBlock (attrs : Attributes) (value : List Char) : Setting (List NodeId) := do
  let inner ← setValue value
  let code ← newElement "code".toList attrs inner
  return [← newPlain "pre" [code]]

/-- Sets a call of a footnote. -/
def setCall (identifier : List Char) : Setting (List NodeId) := do
  modify fun draft => { draft with calls := draft.calls.add identifier }
  let calls := (← get).calls
  let label ← newText (decimal (calls.number identifier))
  let link ← newElement "a".toList (callAttributes calls identifier) [label]
  return [← newPlain "sup" [link]]

/-- Sets a node without children. -/
def setAtom (ds : Definitions) : Atom → Setting (List NodeId)
  | .text value => return [← newText value]
  | .html value => return [← newNode (.raw value)]
  | .code language _ value _ => setCodeBlock (codeAttributes language) value
  | .math _ value => do
    let text ← newText value
    let code ← newElement "code".toList (mathAttributes "math-display") [text]
    return [← newPlain "pre" [code]]
  | .inlineCode value => do
    let text ← newText value
    return [← newPlain "code" [text]]
  | .inlineMath value => do
    let text ← newText value
    return [← newElement "code".toList (mathAttributes "math-inline") [text]]
  | .hardBreak => do
    let element ← newPlain "br" []
    return [element, ← newLine]
  | .thematicBreak => return [← newPlain "hr" []]
  | .image url title alt => return [← newElement "img".toList (imageAttributes url alt title) []]
  | .imageReference _ reference alt =>
    match ds.link? reference.identifier with
    | some target =>
      return [← newElement "img".toList (imageAttributes target.url alt target.title) []]
    | none => return [← newText ("![".toList ++ alt ++ [']'])]
  | .footnoteReference reference =>
    match ds.footnote? reference.identifier with
    | some _ => setCall reference.identifier
    | none => return [← newText ("[^".toList ++ reference.identifier ++ [']'])]
  | .yaml _ | .toml _ | .expression _ _ | .modules _ | .definition _ _ _ => return []

/-! ### Parts of tables -/

/-- Sets a cell, given its content. -/
def setCell (tag : List Char) (alignment : Option Markdown.Alignment) (inner : List NodeId) :
    Setting (List NodeId) := return [← newElement tag (cellAttributes alignment) inner]

/-- Sets a row, given its cells. -/
def setRow (cells : List NodeId) : Setting (List NodeId) := do
  let inner ← enclose cells
  return [← newPlain "tr" inner]

/-- Sets the head of a table, given its cells. -/
def setHead (cells : List NodeId) : Setting (List NodeId) := do
  let row ← setRow cells
  let inner ← enclose row
  return [← newPlain "thead" inner]

/-- Puts the rows of a table behind its head, if there are any. -/
def setSections (head rows : List NodeId) : Setting (List NodeId) := do
  if rows.isEmpty then return head
  else
    let inner ← enclose rows
    return head ++ [← newPlain "tbody" inner]

/-! ### Nodes with children -/

mutual

/-- Sets a node. `isTight` says how the items of the list around are set. -/
def setNode (ds : Definitions) (isTight : Bool) : Node → Setting (List NodeId)
  | .atom value => setAtom ds value
  | .branch construct children =>
    match construct with
    | .root | .component _ _ _ => setNodes ds isTight children
    | .paragraph => do
      let inner ← setNodes ds isTight children
      return [← newPlain "p" inner]
    | .heading level => do
      let inner ← setNodes ds isTight children
      return [← newElement (headingTag level) .empty inner]
    | .emphasis => do
      let inner ← setNodes ds isTight children
      return [← newPlain "em" inner]
    | .strong => do
      let inner ← setNodes ds isTight children
      return [← newPlain "strong" inner]
    | .deletion => do
      let inner ← setNodes ds isTight children
      return [← newPlain "del" inner]
    | .blockquote => do
      let blocks ← setNodes ds isTight children
      let inner ← enclose blocks
      return [← newPlain "blockquote" inner]
    | .link url title => do
      let inner ← setNodes ds isTight children
      return [← newElement "a".toList (linkAttributes url title) inner]
    | .linkReference _ reference => do
      let inner ← setNodes ds isTight children
      match ds.link? reference.identifier with
      | some target =>
        return [← newElement "a".toList (linkAttributes target.url target.title) inner]
      | none =>
        let opening ← newText ['[']
        return opening :: inner ++ [← newText [']']]
    | .list isOrdered start spread => do
      let isLoose := spread || children.any isSpreadItem
      let items ← setNodes ds (!isLoose) children
      let inner ← enclose items
      return [← newElement (listTag isOrdered) (listAttributes isOrdered start children) inner]
    | .item checked spread => do
      let blocks ← setNodes ds isTight children
      let box ← newBox checked
      let inner ← placeBlocks (!isTight || spread) true box blocks
      return [← newElement "li".toList (itemAttributes checked) inner]
    | .table alignments => do
      let sections ← setTable ds isTight alignments children
      let inner ← enclose sections
      return [← newPlain "table" inner]
    | .row | .cell | .footnoteDefinition _ => return []

/-- Sets nodes. -/
def setNodes (ds : Definitions) (isTight : Bool) : List Node → Setting (List NodeId)
  | [] => return []
  | node :: rest => do
    let ids ← setNode ds isTight node
    return ids ++ (← setNodes ds isTight rest)

/-- Sets the rows among the nodes of a table in sections; the first one is its head. -/
def setTable (ds : Definitions) (isTight : Bool) (alignments : List (Option Markdown.Alignment)) :
    List Node → Setting (List NodeId)
  | [] => return []
  | .branch .row children :: rest => do
    let cells ← setCells ds isTight "th".toList alignments children
    let head ← setHead cells
    let rows ← setRows ds isTight alignments rest
    setSections head rows
  | _ :: rest => setTable ds isTight alignments rest

/-- Sets the rows among the nodes of a table behind its head. -/
def setRows (ds : Definitions) (isTight : Bool) (alignments : List (Option Markdown.Alignment)) :
    List Node → Setting (List NodeId)
  | [] => return []
  | .branch .row children :: rest => do
    let cells ← setCells ds isTight "td".toList alignments children
    let row ← setRow cells
    return row ++ (← setRows ds isTight alignments rest)
  | _ :: rest => setRows ds isTight alignments rest

/-- Sets the cells among the nodes of a row, with the alignments of their columns. -/
def setCells (ds : Definitions) (isTight : Bool) (tag : List Char)
    (alignments : List (Option Markdown.Alignment)) : List Node → Setting (List NodeId)
  | [] => return []
  | .branch .cell children :: rest => do
    let inner ← setNodes ds isTight children
    let cell ← setCell tag alignments.head?.join inner
    return cell ++ (← setCells ds isTight tag alignments.tail rest)
  | _ :: rest => setCells ds isTight tag alignments.tail rest

end

/-! ### Notes and pages -/

/-- Sets a note, given its blocks. -/
def setNote (identifier : List Char) (number : Nat) (blocks : List NodeId) :
    Setting (List NodeId) := do
  let anchor := noteAnchor identifier number
  let link ← newElement "a".toList (backLinkAttributes anchor number) []
  let arrow ← newText ['↩']
  changeChildren link (· ++ [arrow])
  let content ← placeBackLink link blocks
  let inner ← enclose content
  return [← newElement "li".toList (noteAttributes anchor) inner]

/-- Sets the notes from the given index on, as they are called; `fuel` bounds how many there are. -/
def setNotes (ds : Definitions) : Nat → Nat → Setting (List NodeId)
  | 0, _ => return []
  | fuel + 1, index => do
    match (← get).calls.order[index]? with
    | none => return []
    | some identifier =>
      match ds.footnote? identifier with
      | none => setNotes ds fuel (index + 1)
      | some children =>
        let blocks ← setNodes ds false children
        let note ← setNote identifier (index + 1) blocks
        return note ++ (← setNotes ds fuel (index + 1))

/-- Sets the section of footnotes, if any was called, with a line ending before it. Every note in it
has a definition of its own. -/
def setSection (ds : Definitions) : Setting (List NodeId) := do
  if (← get).calls.order.isEmpty then return []
  else
    let notes ← setNotes ds ds.footnotes.length 0
    let items ← enclose notes
    let list ← newPlain "ol" items
    let inner ← enclose [list]
    let footnotes ← newElement "section".toList sectionAttributes inner
    return [← newLine, footnotes]

/-- The nodes below the top of a tree, or the top itself if it can have none. -/
def topNodes : Node → List Node
  | .branch _ children => children
  | .atom value => [.atom value]

/-- Sets a tree below the root. -/
def setPage (tree : Node) : Setting Unit := do
  let ds := Definitions.ofNode tree
  let blocks ← setNodes ds false (topNodes tree)
  let lines ← onLines blocks
  let footnotes ← setSection ds
  changeChildren Document.root fun _ => lines ++ footnotes

/-- The document of a tree. -/
def page (tree : Node) : Html.Document :=
  ((setPage tree).run {}).2.doc

end Galley.Typeset
