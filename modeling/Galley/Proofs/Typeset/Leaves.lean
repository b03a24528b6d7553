import Galley.Proofs.Typeset.Page
import Galley.Proofs.Typeset.Tables

/-!
The leaves of a page: its texts and its raw markup, in the order in which they are written. A page
on which all references lead somewhere and no footnote is called has the values of its source as its
leaves, in their order and each once, up to blank ones (`page_keeps_leaves`): what is set around
them adds line endings and spaces only.
-/

set_option autoImplicit false
set_option relaxedAutoImplicit false

namespace Galley

open Html Markdown Typeset

/-! ### Leaves -/

namespace Html

/-- A text, or raw markup. -/
inductive Leaf where
  | text (value : List Char)
  | raw (markup : List Char)
deriving DecidableEq, Repr

/-- Whether a leaf holds blanks only. -/
def Leaf.isBlank : Leaf → Bool
  | text value => Text.isBlankText value
  | raw markup => Text.isBlankText markup

/-- The leaf that a node is. -/
def Kind.leaf? : Kind → Option Leaf
  | .text value => some (.text value)
  | .raw markup => some (.raw markup)
  | _ => none

/-- The leaves of a document, in the order in which they are written. -/
def Document.leaves (doc : Document) : List Leaf :=
  doc.nodes.filterMap fun id => (doc.get? id).bind (·.kind.leaf?)

/-- The leaf that a tree is, unless it is blank. -/
def Markup.leaf? (tree : Markup) : Option Leaf := tree.kind.leaf?.filter (!·.isBlank)

/-- The leaves of a document that are not blank are those of its tree. -/
theorem Document.Spans.filter_leaves {doc : Document} {trees : List Markup}
    {area : Multiset NodeId} (h : doc.Spans [root] trees area) (hnodup : area.Nodup) :
    doc.leaves.filter (!·.isBlank) = Markup.gather Markup.leaf? trees := by
  rw [leaves, List.filter_filterMap]
  refine h.gather_nodes hnodup fun id tree below hspans _ ↦ ?_
  obtain ⟨kind, children, inner, below, heq, -, hcell, -⟩ := hspans.of_singleton
  obtain rfl : tree = .node kind inner := by simpa using heq
  rw [hcell]
  rfl

end Html

namespace Markdown

/-- The leaf that a value is set as. -/
def Atom.leaf? : Atom → Option Html.Leaf
  | .text value | .inlineCode value | .inlineMath value => some (.text value)
  | .code _ _ value _ | .math _ value => some (.text value)
  | .html value => some (.raw value)
  | _ => none

namespace Node

/-- Whether a node calls a footnote. -/
def isFootnoteCall (node : Node) : Bool := node.atom?.any fun
  | .footnoteReference _ => true
  | _ => false

/-- What a link or an image refers to. -/
def reference? : Node → Option Reference
  | .atom (.imageReference _ reference _) => some reference
  | .branch (.linkReference _ reference) _ => some reference
  | _ => none

end Node

end Markdown

/-! ### The leaves of a page -/

namespace Typeset

variable {ds : Definitions}

theorem ignoresWrapping_leaf? : IgnoresWrapping Markup.leaf? where
  line := by decide
  space := by decide
  box _ := rfl
  wrapper _ _ _ _ _ _ := rfl

theorem gather_leaf? {kind : Kind} {leaf : Html.Leaf} (h : kind.leaf? = some leaf) :
    Markup.gather Markup.leaf? [.node kind []] = [leaf].filter (!·.isBlank) := by
  rw [Markup.gather_singleton, Markup.gather_nil, List.append_nil, Markup.leaf?, Markup.kind, h]
  cases hblank : leaf.isBlank <;> simp [Option.filter, hblank]

theorem gather_element_leaf? (tag : List Char) (attrs : Attributes) (inner : List Markup) :
    Markup.gather Markup.leaf? [.element tag attrs inner] = Markup.gather Markup.leaf? inner :=
  Markup.gather_singleton_of_none rfl

theorem calledMarkup_of_not_call {atom : Atom} (h : (Node.atom atom).isFootnoteCall = false)
    (calls : Calls) : calledMarkup ds atom calls = (atomMarkup ds atom, calls) := by
  cases atom with
  | footnoteReference reference => simp [Node.isFootnoteCall, Node.atom?] at h
  | _ => rfl

/-- The leaf of a value that leads somewhere and calls no footnote. -/
theorem gather_atomMarkup_leaf? {atom : Atom}
    (hcall : (Node.atom atom).isFootnoteCall = false)
    (hlink : ∀ reference ∈ (Node.atom atom).reference?,
      (ds.link? reference.identifier).isSome = true) :
    Markup.gather Markup.leaf? (atomMarkup ds atom) =
      atom.leaf?.toList.filter (!·.isBlank) := by
  have htext (value : List Char) : Markup.gather Markup.leaf? [.leaf value] =
      [Html.Leaf.text value].filter (!·.isBlank) := gather_leaf? rfl
  cases atom with
  | text value => exact htext value
  | html value => exact gather_leaf? rfl
  | code language remark value place =>
    rw [atomMarkup, gather_element_leaf?, gather_element_leaf?, valueMarkup]
    split_ifs with hempty
    · rw [List.isEmpty_iff.1 hempty]
      rfl
    · exact htext value
  | math remark value =>
    rw [atomMarkup, gather_element_leaf?, gather_element_leaf?]
    exact htext value
  | inlineCode value =>
    rw [atomMarkup, gather_element_leaf?]
    exact htext value
  | inlineMath value =>
    rw [atomMarkup, gather_element_leaf?]
    exact htext value
  | hardBreak =>
    rw [atomMarkup, Markup.gather_cons, gather_element_leaf?]
    exact ignoresWrapping_leaf?.ignoresLines.line
  | imageReference style reference alt =>
    obtain ⟨target, htarget⟩ := Option.isSome_iff_exists.1 (hlink reference rfl)
    simp only [atomMarkup, htarget]
    rfl
  | footnoteReference reference => simp [Node.isFootnoteCall, Node.atom?] at hcall
  | _ => rfl

/-- Where all references lead somewhere, everything that shows what is in it is transparent. -/
theorem allShowThrough_leaf? {nodes : List Node}
    (hlinks : ∀ node ∈ Node.allIn nodes, ∀ reference ∈ node.reference?,
      (ds.link? reference.identifier).isSome = true) :
    Node.AllIn (ShowsThrough Markup.leaf? ds) nodes := by
  rintro node hmem construct children rfl hset
  refine ignoresWrapping_leaf?.isTransparent hset (fun _ _ _ _ _ _ _ _ _ ↦ rfl) ?_
  rintro style reference rfl hnone
  have hsome := hlinks _ hmem reference rfl
  rw [hnone] at hsome
  cases hsome

end Typeset

/-- The leaves of a page are the values of its source outside of definitions of footnotes, each once
and in their order, up to blank ones, if tables are well formed, all references lead somewhere and
no footnote is called. -/
theorem page_keeps_leaves (children : List Node)
    (htables : (Node.branch .root children).HasWellFormedTables)
    (hcalls : ∀ node ∈ (Node.branch .root children).all, node.isFootnoteCall = false)
    (hlinks : ∀ node ∈ (Node.branch .root children).all, ∀ reference ∈ node.reference?,
      ((Node.branch .root children).destination? reference.identifier).isSome = true) :
    (page (.branch .root children)).leaves.filter (!·.isBlank) =
      ((Node.atomsOutside [.branch .root children]).filterMap Atom.leaf?).filter (!·.isBlank) := by
  have hbelow : ∀ node ∈ Node.allIn children, node ∈ (Node.branch .root children).all :=
    fun node hmem ↦ by simp [Node.all, hmem]
  have hshown : shownAll children = Node.atomsOutside children :=
    shownAll_eq_outside children (htables _ (Node.mem_all_self _)) fun lower hlower ↦
      htables lower (hbelow lower hlower)
  have hatoms : ∀ atom ∈ shownAll children, .atom atom ∈ Node.allIn children := by
    intro atom hatom
    rw [hshown] at hatom
    exact Node.outsideAll_subset_allIn _ (Node.mem_outsideAll_of_mem_atomsOutside hatom)
  have hresolved : ∀ node ∈ Node.allIn children, ∀ reference ∈ node.reference?,
      ((Definitions.ofNode (.branch .root children)).link? reference.identifier).isSome = true := by
    intro node hmem reference href
    rw [Definitions.link?_ofNode]
    exact hlinks node (hbelow node hmem) reference href
  obtain ⟨area, hspans, hnodup⟩ := page_spans (.branch .root children)
  have hgather : Markup.gather Markup.leaf? (pageMarkup (.branch .root children)) = _ :=
    ignoresWrapping_leaf?.gather_pageMarkup_of_no_calls (allShowThrough_leaf? hresolved)
      fun atom hatom ↦ calledMarkup_of_not_call (hcalls _ (hbelow _ (hatoms atom hatom)))
  rw [hspans.filter_leaves hnodup, Markup.gather_singleton_of_none rfl, hgather,
    Node.atomsOutside_branch (by simp), ← hshown, show Node.atomsOutside [] = [] from rfl,
    List.append_nil, List.filterMap_eq_flatMap_toList, List.filter_flatMap]
  refine List.flatMap_congr fun atom hatom ↦ ?_
  exact gather_atomMarkup_leaf? (hcalls _ (hbelow _ (hatoms atom hatom)))
    (hresolved _ (hatoms atom hatom))

/-- A task in a tight list, a reference and a cell show their values; a footnote that is not called
shows nothing, but a link that is defined in it is. -/
theorem page_keeps_leaves_of_task_and_reference :
    let children : List Node :=
      [.branch (.list false none false) [.branch (.item (some true) false)
          [.branch .paragraph [.text "a".toList, .atom (.inlineCode "b".toList)],
            .atom (.code none none "c\n".toList none)]],
        .branch (.linkReference .full ⟨"x".toList, none⟩) [.text "d".toList, .text " ".toList],
        .branch (.footnoteDefinition ⟨"n".toList, none⟩)
          [.text "e".toList, .atom (.definition ⟨"x".toList, none⟩ "u".toList none)],
        .branch (.table []) [.branch .row [.branch .cell [.atom (.html "<i>".toList)]]]]
    (page (.branch .root children)).leaves.filter (!·.isBlank) =
      [.text "a".toList, .text "b".toList, .text "c\n".toList, .text "d".toList,
        .raw "<i>".toList] := by
  intro children
  exact page_keeps_leaves children (by decide) (by decide) (by decide)

end Galley
