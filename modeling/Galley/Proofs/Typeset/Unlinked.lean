import Galley.Proofs.Markdown.Node
import Galley.Typeset.Page

/-!
Where definitions of links stand does not matter. A tree is set as it would be without them
(`Node.unlinked`), if links lead to the same places and footnotes hold the same apart from
definitions of links (`Definitions.Unlinks`). So two trees that differ only in where their
definitions of links stand are set by the same steps, and give the same page, if for each identifier
the first definitions in both lead to the same place.
-/

set_option autoImplicit false
set_option relaxedAutoImplicit false

namespace Galley

/-! ### Trees without definitions of links -/

namespace Markdown.Node

/-- Whether a node defines where links lead. -/
def isLinkDefinition (node : Node) : Bool := node.link?.isSome

theorem eq_definition_of_isLinkDefinition {node : Node} (h : node.isLinkDefinition = true) :
    ∃ reference url title, node = .atom (.definition reference url title) := by
  unfold isLinkDefinition link? at h
  split at h
  · exact ⟨_, _, _, rfl⟩
  · simp at h

mutual

/-- A node without the definitions of links in it. Those directly in a row stay: each takes up a
column there. -/
def unlinked : Node → Node
  | .atom value => .atom value
  | .branch construct children =>
    match construct with
    | .row => .branch .row (unlinkedEach children)
    | construct => .branch construct (unlinkedAll children)

/-- Nodes without the definitions of links among them and in them. -/
def unlinkedAll : List Node → List Node
  | [] => []
  | node :: rest =>
    if node.isLinkDefinition then unlinkedAll rest else unlinked node :: unlinkedAll rest

/-- Nodes, each without the definitions of links in it. -/
def unlinkedEach : List Node → List Node
  | [] => []
  | node :: rest => unlinked node :: unlinkedEach rest

end

@[simp] theorem unlinkedAll_definition (reference : Reference) (url : List Char)
    (title : Option (List Char)) (rest : List Node) :
    unlinkedAll (.atom (.definition reference url title) :: rest) = unlinkedAll rest := rfl

theorem unlinkedAll_cons {node : Node} (h : node.isLinkDefinition = false) (rest : List Node) :
    unlinkedAll (node :: rest) = unlinked node :: unlinkedAll rest := by
  simp [unlinkedAll, h]

@[simp] theorem isLinkDefinition_unlinked (node : Node) :
    node.unlinked.isLinkDefinition = node.isLinkDefinition := by
  cases node with
  | atom value => rfl
  | branch construct children => cases construct <;> rfl

/-- To drop all definitions of links is to drop those in each node and then those among them. -/
theorem unlinkedAll_eq_filter (nodes : List Node) :
    unlinkedAll nodes = (unlinkedEach nodes).filter fun node ↦ !node.isLinkDefinition := by
  induction nodes with
  | nil => rfl
  | cons node rest ih =>
    cases hnode : node.isLinkDefinition <;> simp [unlinkedAll, unlinkedEach, hnode, ih]

/-- What holds of some of the nodes holds of some that is left, if it never holds of a definition
and does not depend on what is below a node. -/
theorem any_unlinkedAll {test : Node → Bool} (hbelow : ∀ node, test node.unlinked = test node)
    (hdefinition : ∀ node : Node, node.isLinkDefinition = true → test node = false)
    (nodes : List Node) : (unlinkedAll nodes).any test = nodes.any test := by
  induction nodes with
  | nil => rfl
  | cons node rest ih =>
    cases hnode : node.isLinkDefinition with
    | false => rw [unlinkedAll_cons hnode, List.any_cons, List.any_cons, hbelow, ih]
    | true =>
      rw [unlinkedAll, if_pos hnode, ih, List.any_cons, hdefinition node hnode, Bool.false_or]

end Markdown.Node

namespace Typeset

open Html Markdown

/-! ### Definitions -/

namespace Definitions

/-- A footnote without the definitions of links in what it holds. -/
def unlinkedFootnote (footnote : List Char × List Node) : List Char × List Node :=
  (footnote.1, Node.unlinkedAll footnote.2)

/-- Definitions agree with others on where links lead, and their footnotes are those of the others
without definitions of links. -/
structure Unlinks (ds bare : Definitions) : Prop where
  link : ∀ identifier, bare.link? identifier = ds.link? identifier
  footnotes : bare.footnotes = ds.footnotes.map unlinkedFootnote

theorem Unlinks.footnote? {ds bare : Definitions} (h : Unlinks ds bare) (identifier : List Char) :
    bare.footnote? identifier = (ds.footnote? identifier).map Node.unlinkedAll := by
  rw [Definitions.footnote?, Definitions.footnote?, h.footnotes]
  induction ds.footnotes with
  | nil => rfl
  | cons footnote rest ih =>
    obtain ⟨name, content⟩ := footnote
    rw [List.map_cons, unlinkedFootnote, List.lookup_cons, List.lookup_cons]
    cases identifier == name with
    | true => rfl
    | false => exact ih

mutual

theorem footnotes_unlinked : ∀ node : Node,
    (ofNode node.unlinked).footnotes = (ofNode node).footnotes.map unlinkedFootnote
  | .atom value => by cases value <;> rfl
  | .branch construct children => by
    cases construct with
    | row => exact footnotes_unlinkedEach children
    | footnoteDefinition reference =>
      exact congrArg (_ :: ·) (footnotes_unlinkedAll children)
    | _ => exact footnotes_unlinkedAll children

theorem footnotes_unlinkedAll : ∀ nodes : List Node,
    (ofNodes (Node.unlinkedAll nodes)).footnotes = (ofNodes nodes).footnotes.map unlinkedFootnote
  | [] => rfl
  | node :: rest => by
    have hrest := footnotes_unlinkedAll rest
    cases hnode : node.isLinkDefinition with
    | true =>
      obtain ⟨reference, url, title, rfl⟩ := Node.eq_definition_of_isLinkDefinition hnode
      exact hrest
    | false =>
      rw [Node.unlinkedAll_cons hnode, ofNodes, ofNodes, append, append, List.map_append, hrest,
        footnotes_unlinked node]

theorem footnotes_unlinkedEach : ∀ nodes : List Node,
    (ofNodes (Node.unlinkedEach nodes)).footnotes = (ofNodes nodes).footnotes.map unlinkedFootnote
  | [] => rfl
  | node :: rest => by
    rw [Node.unlinkedEach, ofNodes, ofNodes, append, append, List.map_append,
      footnotes_unlinked node, footnotes_unlinkedEach rest]

end

/-- The definitions of a tree, with footnotes that hold no definitions of links. -/
def bareOf (tree : Node) : Definitions where
  links := (ofNode tree).links
  footnotes := (ofNodes (Node.unlinkedAll [tree])).footnotes

/-- The definitions of a tree whose links lead where those of another lead, and that is the same
apart from definitions of links. -/
theorem unlinks_bareOf {tree other : Node}
    (hsame : Node.unlinkedAll [tree] = Node.unlinkedAll [other])
    (hlinks : ∀ identifier, tree.destination? identifier = other.destination? identifier) :
    Unlinks (ofNode other) (bareOf tree) where
  link identifier := by
    rw [link?_ofNode, ← hlinks identifier, ← link?_ofNode]
    rfl
  footnotes := by
    rw [bareOf, hsame, footnotes_unlinkedAll, ofNodes, ofNodes, append]
    exact congrArg _ (List.append_nil _)

end Definitions

/-! ### Steps that set nodes -/

@[simp] theorem isSpreadItem_unlinked (node : Node) :
    isSpreadItem node.unlinked = isSpreadItem node := by
  cases node with
  | atom value => rfl
  | branch construct children => cases construct <;> rfl

@[simp] theorem isTaskItem_unlinked (node : Node) : isTaskItem node.unlinked = isTaskItem node := by
  cases node with
  | atom value => rfl
  | branch construct children => cases construct <;> rfl

theorem any_isSpreadItem_unlinkedAll (nodes : List Node) :
    (Node.unlinkedAll nodes).any isSpreadItem = nodes.any isSpreadItem := by
  refine Node.any_unlinkedAll isSpreadItem_unlinked (fun node hnode ↦ ?_) nodes
  obtain ⟨reference, url, title, rfl⟩ := Node.eq_definition_of_isLinkDefinition hnode
  rfl

theorem listAttributes_unlinkedAll (isOrdered : Bool) (start : Option Nat) (nodes : List Node) :
    listAttributes isOrdered start (Node.unlinkedAll nodes) =
      listAttributes isOrdered start nodes := by
  have htask : (Node.unlinkedAll nodes).any isTaskItem = nodes.any isTaskItem := by
    refine Node.any_unlinkedAll isTaskItem_unlinked (fun node hnode ↦ ?_) nodes
    obtain ⟨reference, url, title, rfl⟩ := Node.eq_definition_of_isLinkDefinition hnode
    rfl
  simp only [listAttributes, htask]

/-- A definition of a link leaves no trace where it stands. -/
theorem setNodes_definition (ds : Definitions) (isTight : Bool) (reference : Reference)
    (url : List Char) (title : Option (List Char)) (rest : List Node) :
    setNodes ds isTight (.atom (.definition reference url title) :: rest) =
      setNodes ds isTight rest := by
  simp [setNodes, setNode, setAtom]

namespace Definitions.Unlinks

variable {ds bare : Definitions}

theorem setAtom_eq (h : Unlinks ds bare) (atom : Atom) : setAtom ds atom = setAtom bare atom := by
  cases atom with
  | imageReference style reference alt => simp only [setAtom, h.link]
  | footnoteReference reference =>
    simp only [setAtom, h.footnote?]
    cases ds.footnote? reference.identifier <;> rfl
  | _ => rfl

mutual

theorem setNode_eq (h : Unlinks ds bare) (isTight : Bool) : ∀ node : Node,
    setNode ds isTight node = setNode bare isTight node.unlinked
  | .atom value => h.setAtom_eq value
  | .branch construct children => by
    have hnodes (isTight : Bool) := h.setNodes_eq isTight children
    cases construct with
    | linkReference style reference => simp only [setNode, Node.unlinked, hnodes, h.link]
    | list isOrdered start spread =>
      simp only [setNode, Node.unlinked, hnodes, any_isSpreadItem_unlinkedAll,
        listAttributes_unlinkedAll]
    | table alignments =>
      simp only [setNode, Node.unlinked, h.setTable_eq isTight alignments children]
    | _ => simp only [setNode, Node.unlinked, hnodes]

theorem setNodes_eq (h : Unlinks ds bare) (isTight : Bool) : ∀ nodes : List Node,
    setNodes ds isTight nodes = setNodes bare isTight (Node.unlinkedAll nodes)
  | [] => rfl
  | node :: rest => by
    have hrest := h.setNodes_eq isTight rest
    cases hnode : node.isLinkDefinition with
    | true =>
      obtain ⟨reference, url, title, rfl⟩ := Node.eq_definition_of_isLinkDefinition hnode
      rw [setNodes_definition, Node.unlinkedAll_definition, hrest]
    | false =>
      rw [Node.unlinkedAll_cons hnode, setNodes, setNodes, h.setNode_eq isTight node, hrest]

theorem setTable_eq (h : Unlinks ds bare) (isTight : Bool)
    (alignments : List (Option Markdown.Alignment)) : ∀ nodes : List Node,
    setTable ds isTight alignments nodes = setTable bare isTight alignments (Node.unlinkedAll nodes)
  | [] => rfl
  | .atom value :: rest => by
    have hrest := h.setTable_eq isTight alignments rest
    cases value <;> exact hrest
  | .branch construct children :: rest => by
    cases construct with
    | row =>
      rw [Node.unlinkedAll_cons rfl, Node.unlinked, setTable, setTable,
        h.setCells_eq isTight _ alignments children, h.setRows_eq isTight alignments rest]
    | _ => exact h.setTable_eq isTight alignments rest

theorem setRows_eq (h : Unlinks ds bare) (isTight : Bool)
    (alignments : List (Option Markdown.Alignment)) : ∀ nodes : List Node,
    setRows ds isTight alignments nodes = setRows bare isTight alignments (Node.unlinkedAll nodes)
  | [] => rfl
  | .atom value :: rest => by
    have hrest := h.setRows_eq isTight alignments rest
    cases value <;> exact hrest
  | .branch construct children :: rest => by
    have hrest := h.setRows_eq isTight alignments rest
    cases construct with
    | row =>
      rw [Node.unlinkedAll_cons rfl, Node.unlinked, setRows, setRows,
        h.setCells_eq isTight _ alignments children, hrest]
    | _ => exact hrest

theorem setCells_eq (h : Unlinks ds bare) (isTight : Bool) (tag : List Char) :
    ∀ (alignments : List (Option Markdown.Alignment)) (nodes : List Node),
      setCells ds isTight tag alignments nodes =
        setCells bare isTight tag alignments (Node.unlinkedEach nodes)
  | _, [] => rfl
  | alignments, .atom _ :: rest => h.setCells_eq isTight tag alignments.tail rest
  | alignments, .branch construct children :: rest => by
    have hrest := h.setCells_eq isTight tag alignments.tail rest
    cases construct with
    | cell =>
      rw [Node.unlinkedEach, Node.unlinked, setCells, setCells, h.setNodes_eq isTight children,
        hrest]
      simp
    | _ => exact hrest

end

/-! ### Notes and pages -/

theorem setNotes_eq (h : Unlinks ds bare) (fuel index : Nat) :
    setNotes ds fuel index = setNotes bare fuel index := by
  induction fuel generalizing index with
  | zero => rfl
  | succ fuel ih =>
    rw [setNotes, setNotes]
    refine bind_congr fun draft ↦ ?_
    cases draft.calls.order[index]? with
    | none => rfl
    | some identifier =>
      simp only [h.footnote? identifier]
      cases ds.footnote? identifier with
      | none => exact ih (index + 1)
      | some content =>
        simp only [Option.map_some, h.setNodes_eq false content, ih]

theorem setSection_eq (h : Unlinks ds bare) : setSection ds = setSection bare := by
  have hlength : bare.footnotes.length = ds.footnotes.length := by simp [h.footnotes]
  simp only [setSection, h.setNotes_eq, hlength]

end Definitions.Unlinks

end Typeset

open Markdown Typeset

theorem unlinkedAll_topNodes (tree : Node) : Node.unlinkedAll (topNodes tree) =
    (topNodes tree.unlinked).filter fun node ↦ !node.isLinkDefinition := by
  have hchildren (nodes : List Node) : Node.unlinkedAll nodes =
      (Node.unlinkedAll nodes).filter fun node ↦ !node.isLinkDefinition := by
    simp [Node.unlinkedAll_eq_filter]
  cases tree with
  | atom value => exact Node.unlinkedAll_eq_filter [.atom value]
  | branch construct children =>
    cases construct with
    | row => exact Node.unlinkedAll_eq_filter children
    | _ => exact hchildren children

/-- The nodes below the tops of two trees are the same apart from definitions of links if the trees
are. -/
theorem unlinkedAll_topNodes_eq {tree other : Node}
    (hsame : Node.unlinkedAll [tree] = Node.unlinkedAll [other]) :
    Node.unlinkedAll (topNodes tree) = Node.unlinkedAll (topNodes other) := by
  cases htree : tree.isLinkDefinition <;> cases hother : other.isLinkDefinition
  · rw [Node.unlinkedAll_cons htree, Node.unlinkedAll_cons hother, List.cons.injEq] at hsame
    rw [unlinkedAll_topNodes, unlinkedAll_topNodes, hsame.1]
  · simp [Node.unlinkedAll, htree, hother] at hsame
  · simp [Node.unlinkedAll, htree, hother] at hsame
  · obtain ⟨_, _, _, rfl⟩ := Node.eq_definition_of_isLinkDefinition htree
    obtain ⟨_, _, _, rfl⟩ := Node.eq_definition_of_isLinkDefinition hother
    rfl

/-- Where definitions of links stand does not matter: two trees that are the same apart from them
give the same page, if for each identifier the first definitions in both lead to the same place. -/
theorem page_eq_of_unlinkedAll_eq {tree other : Node}
    (hsame : Node.unlinkedAll [tree] = Node.unlinkedAll [other])
    (hlinks : ∀ identifier, tree.destination? identifier = other.destination? identifier) :
    page tree = page other := by
  have htree : Definitions.Unlinks (.ofNode tree) (.bareOf tree) :=
    Definitions.unlinks_bareOf rfl fun _ ↦ rfl
  have hother := Definitions.unlinks_bareOf hsame hlinks
  have hset : setPage tree = setPage other := by
    simp only [setPage, htree.setNodes_eq, hother.setNodes_eq, htree.setSection_eq,
      hother.setSection_eq, unlinkedAll_topNodes_eq hsame]
  rw [page, hset, page]

/-- Three definitions of links may as well stand in a quote, before the paragraph of a task and in a
note; the first one for `x` stays before the second one. -/
theorem page_eq_of_definitions_in_quote_and_task_and_note :
    let define (identifier url : String) : Node :=
      .atom (.definition ⟨identifier.toList, none⟩ url.toList none)
    let refer (identifier : String) : Node :=
      .branch .paragraph [.branch (.linkReference .shortcut ⟨identifier.toList, none⟩)
        [.text "a".toList]]
    let call : Node := .branch .paragraph [.atom (.footnoteReference ⟨"n".toList, none⟩)]
    let quote (nodes : List Node) : Node := .branch .blockquote nodes
    let task (nodes : List Node) : Node :=
      .branch (.list false none false) [.branch (.item (some true) false) nodes]
    let note (nodes : List Node) : Node :=
      .branch (.footnoteDefinition ⟨"n".toList, none⟩) nodes
    page (.branch .root [define "x" "u", define "y" "v", define "x" "w", quote [refer "y"],
        task [call], note [refer "x"]]) =
      page (.branch .root [quote [define "y" "v", refer "y"], task [define "x" "u", call],
        note [refer "x", define "x" "w"]]) := by
  intro define refer call quote task note
  refine page_eq_of_unlinkedAll_eq rfl fun identifier ↦ ?_
  show [("x".toList, _), ("y".toList, _), ("x".toList, _)].lookup identifier =
    [("y".toList, _), ("x".toList, _), ("x".toList, _)].lookup identifier
  by_cases hidentifier : identifier = "y".toList
  · subst hidentifier
    rfl
  · simp only [List.lookup_cons, beq_false_of_ne hidentifier]

end Galley
