import Galley.Proofs.Html.Markup
import Galley.Typeset.Page

/-!
What the parts of a page are set as, as trees: for each step that sets a part of a document, the
trees that it sets, given the calls of footnotes so far. Nothing here is about where nodes stand, so
that `pageMarkup` is a recursion over the nodes of the source and over the notes that are called.
-/

set_option autoImplicit false
set_option relaxedAutoImplicit false

namespace Galley.Typeset

open Html Markdown

/-- Trees, and the calls up to there. -/
abbrev Marked := List Markup × Calls

/-- An element without attributes. -/
abbrev plain (tag : String) (children : List Markup) : Markup :=
  .element tag.toList .empty children

/-- A line ending. -/
abbrev lineMarkup : Markup := .leaf ['\n']

/-! ### Lines and items -/

/-- Trees after a first one, each on a line of its own. -/
def followingMarkup : List Markup → List Markup
  | [] => []
  | tree :: rest => lineMarkup :: tree :: followingMarkup rest

/-- Trees on lines of their own. -/
def linesMarkup : List Markup → List Markup
  | [] => []
  | tree :: rest => tree :: followingMarkup rest

/-- Trees on lines of their own inside of an element. -/
def enclosedMarkup : List Markup → List Markup
  | [] => [lineMarkup]
  | tree :: rest => lineMarkup :: tree :: followingMarkup rest ++ [lineMarkup]

/-- Whether a tree is a paragraph. -/
def isParagraphMarkup (tree : Markup) : Bool :=
  match tree.kind with
  | .element tag _ => tag == "p".toList
  | _ => false

/-- The line ending at an edge of a block. -/
def edgeMarkup (isNeeded : Bool) : List Markup := if isNeeded then [lineMarkup] else []

/-- The content of a block of an item with the box of a task. -/
def filledMarkup (isText isLoose : Bool) (box : List Markup) (tree : Markup) : List Markup :=
  if isText then
    if isLoose then [.node tree.kind (box ++ tree.children)] else box ++ tree.children
  else box ++ [tree]

/-- A block of an item. -/
def blockMarkup (isLoose isFirst isLast : Bool) (box : List Markup) (tree : Markup) :
    List Markup :=
  let isText := isParagraphMarkup tree
  edgeMarkup (isLoose || !isFirst || !isText) ++ filledMarkup isText isLoose box tree ++
    edgeMarkup (isLast && (isLoose || !isText))

/-- The content of an item. -/
def blocksMarkup (isLoose isFirst : Bool) (box : List Markup) : List Markup → List Markup
  | [] => box
  | tree :: rest =>
    blockMarkup isLoose isFirst rest.isEmpty box tree ++ blocksMarkup isLoose false [] rest

/-- The box of a task. -/
def boxMarkup : Option Bool → List Markup
  | none => []
  | some isChecked => [.element "input".toList (boxAttributes isChecked) [], .leaf [' ']]

/-- The blocks of a note with the link back at their end. -/
def backLinkedMarkup (link : Markup) (blocks : List Markup) : List Markup :=
  match blocks.getLast? with
  | none => [link]
  | some last =>
    if isParagraphMarkup last then
      blocks.dropLast ++ [.node last.kind (last.children ++ [.leaf [' '], link])]
    else blocks ++ [link]

/-! ### Nodes without children -/

/-- A text, unless it is empty. -/
def valueMarkup (value : List Char) : List Markup := if value.isEmpty then [] else [.leaf value]

/-- A call of a footnote, the last one of the given calls. -/
def callMarkup (calls : Calls) (identifier : List Char) : Markup :=
  plain "sup" [.element "a".toList (callAttributes calls identifier)
    [.leaf (decimal (calls.number identifier))]]

/-- The trees of a node without children that calls no footnote. -/
def atomMarkup (ds : Definitions) : Atom → List Markup
  | .text value => [.leaf value]
  | .html value => [.node (.raw value) []]
  | .code language _ value _ =>
    [plain "pre" [.element "code".toList (codeAttributes language) (valueMarkup value)]]
  | .math _ value =>
    [plain "pre" [.element "code".toList (mathAttributes "math-display") [.leaf value]]]
  | .inlineCode value => [plain "code" [.leaf value]]
  | .inlineMath value => [.element "code".toList (mathAttributes "math-inline") [.leaf value]]
  | .hardBreak => [plain "br" [], lineMarkup]
  | .thematicBreak => [plain "hr" []]
  | .image url title alt => [.element "img".toList (imageAttributes url alt title) []]
  | .imageReference _ reference alt =>
    match ds.link? reference.identifier with
    | some target => [.element "img".toList (imageAttributes target.url alt target.title) []]
    | none => [.leaf ("![".toList ++ alt ++ [']'])]
  | .footnoteReference reference => [.leaf ("[^".toList ++ reference.identifier ++ [']'])]
  | .yaml _ | .toml _ | .expression _ _ | .modules _ | .definition _ _ _ => []

/-- The trees of a node without children. -/
def calledMarkup (ds : Definitions) (atom : Atom) (calls : Calls) : Marked :=
  match atom with
  | .footnoteReference reference =>
    match ds.footnote? reference.identifier with
    | some _ =>
      let calls := calls.add reference.identifier
      ([callMarkup calls reference.identifier], calls)
    | none => (atomMarkup ds atom, calls)
  | _ => (atomMarkup ds atom, calls)

/-! ### Nodes with children -/

/-- How the items among the nodes below a node are set. -/
def isTightBelow (isTight : Bool) (construct : Construct) (nodes : List Node) : Bool :=
  match construct with
  | .list _ _ spread => !(spread || nodes.any isSpreadItem)
  | _ => isTight

/-- The trees of a node with children, from the trees of its children. -/
def constructMarkup (ds : Definitions) (isTight : Bool) (construct : Construct)
    (nodes : List Node) (inner : List Markup) : List Markup :=
  match construct with
  | .root | .component _ _ _ => inner
  | .paragraph => [plain "p" inner]
  | .heading level => [.element (headingTag level) .empty inner]
  | .emphasis => [plain "em" inner]
  | .strong => [plain "strong" inner]
  | .deletion => [plain "del" inner]
  | .blockquote => [plain "blockquote" (enclosedMarkup inner)]
  | .link url title => [.element "a".toList (linkAttributes url title) inner]
  | .linkReference _ reference =>
    match ds.link? reference.identifier with
    | some target => [.element "a".toList (linkAttributes target.url target.title) inner]
    | none => .leaf ['['] :: inner ++ [.leaf [']']]
  | .list isOrdered start _ =>
    [.element (listTag isOrdered) (listAttributes isOrdered start nodes) (enclosedMarkup inner)]
  | .item checked spread =>
    [.element "li".toList (itemAttributes checked)
      (blocksMarkup (!isTight || spread) true (boxMarkup checked) inner)]
  | .table _ => [plain "table" (enclosedMarkup inner)]
  | .row | .cell | .footnoteDefinition _ => []

/-- The head of a table, from its cells. -/
def headMarkup (cells : List Markup) : Markup :=
  plain "thead" (enclosedMarkup [plain "tr" (enclosedMarkup cells)])

/-- The sections of a table, from its head and its other rows. -/
def sectionsMarkup (head rows : List Markup) : List Markup :=
  if rows.isEmpty then head else head ++ [plain "tbody" (enclosedMarkup rows)]

mutual

/-- The trees of a node. -/
def nodeMarkup (ds : Definitions) (isTight : Bool) : Node → Calls → Marked
  | .atom value, calls => calledMarkup ds value calls
  | .branch construct children, calls =>
    let (inner, calls) := match construct with
      | .table alignments => tableMarkup ds isTight alignments children calls
      | .row | .cell | .footnoteDefinition _ => ([], calls)
      | construct => nodesMarkup ds (isTightBelow isTight construct children) children calls
    (constructMarkup ds isTight construct children inner, calls)

/-- The trees of nodes. -/
def nodesMarkup (ds : Definitions) (isTight : Bool) : List Node → Calls → Marked
  | [], calls => ([], calls)
  | node :: rest, calls =>
    let (trees, calls) := nodeMarkup ds isTight node calls
    let (others, calls) := nodesMarkup ds isTight rest calls
    (trees ++ others, calls)

/-- The sections of a table. -/
def tableMarkup (ds : Definitions) (isTight : Bool)
    (alignments : List (Option Markdown.Alignment)) : List Node → Calls → Marked
  | [], calls => ([], calls)
  | .branch .row children :: rest, calls =>
    let (cells, calls) := cellsMarkup ds isTight "th".toList alignments children calls
    let (rows, calls) := rowsMarkup ds isTight alignments rest calls
    (sectionsMarkup [headMarkup cells] rows, calls)
  | _ :: rest, calls => tableMarkup ds isTight alignments rest calls

/-- The rows of a table behind its head. -/
def rowsMarkup (ds : Definitions) (isTight : Bool)
    (alignments : List (Option Markdown.Alignment)) : List Node → Calls → Marked
  | [], calls => ([], calls)
  | .branch .row children :: rest, calls =>
    let (cells, calls) := cellsMarkup ds isTight "td".toList alignments children calls
    let (rows, calls) := rowsMarkup ds isTight alignments rest calls
    (plain "tr" (enclosedMarkup cells) :: rows, calls)
  | _ :: rest, calls => rowsMarkup ds isTight alignments rest calls

/-- The cells of a row. -/
def cellsMarkup (ds : Definitions) (isTight : Bool) (tag : List Char)
    (alignments : List (Option Markdown.Alignment)) : List Node → Calls → Marked
  | [], calls => ([], calls)
  | .branch .cell children :: rest, calls =>
    let (inner, calls) := nodesMarkup ds isTight children calls
    let (cells, calls) := cellsMarkup ds isTight tag alignments.tail rest calls
    (.element tag (cellAttributes alignments.head?.join) inner :: cells, calls)
  | _ :: rest, calls => cellsMarkup ds isTight tag alignments.tail rest calls

end

/-! ### Notes and pages -/

/-- A note. -/
def noteMarkup (identifier : List Char) (number : Nat) (blocks : List Markup) : Markup :=
  let anchor := noteAnchor identifier number
  let link := .element "a".toList (backLinkAttributes anchor number) [.leaf ['↩']]
  .element "li".toList (noteAttributes anchor) (enclosedMarkup (backLinkedMarkup link blocks))

/-- The notes from the given index on. -/
def notesMarkup (ds : Definitions) : Nat → Nat → Calls → Marked
  | 0, _, calls => ([], calls)
  | fuel + 1, index, calls =>
    match calls.order[index]? with
    | none => ([], calls)
    | some identifier =>
      match ds.footnote? identifier with
      | none => notesMarkup ds fuel (index + 1) calls
      | some children =>
        let (blocks, calls) := nodesMarkup ds false children calls
        let (notes, calls) := notesMarkup ds fuel (index + 1) calls
        (noteMarkup identifier (index + 1) blocks :: notes, calls)

/-- The section of footnotes. -/
def sectionMarkup (ds : Definitions) (calls : Calls) : Marked :=
  if calls.order.isEmpty then ([], calls)
  else
    let (notes, calls) := notesMarkup ds ds.footnotes.length 0 calls
    let list := plain "ol" (enclosedMarkup notes)
    ([lineMarkup, .element "section".toList sectionAttributes (enclosedMarkup [list])], calls)

/-- The trees of a page. -/
def pageMarkup (tree : Node) : List Markup :=
  let ds := Definitions.ofNode tree
  let (blocks, calls) := nodesMarkup ds false (topNodes tree) {}
  linesMarkup blocks ++ (sectionMarkup ds calls).1

end Galley.Typeset
