import Galley.Proofs.Html.Gather

/-!
Nodes that are looked up in a document: the nodes that have an attribute (`Document.withAttribute`),
and the children of a certain kind of given nodes (`Document.select`). Where a document stands for a
tree, what is looked up there stands for what is looked up in the tree.
-/

set_option autoImplicit false
set_option relaxedAutoImplicit false

namespace Galley.Html

namespace Markup

/-- The value of an attribute of a tree. -/
def attribute? (tree : Markup) (key : AttributeKey) : Option (List Char) :=
  match tree.kind with
  | .element _ attrs => attrs.get? key
  | _ => none

/-- What is read of a tree that has an attribute. -/
def readWith {α : Type} (key : AttributeKey) (read : Markup → α) (tree : Markup) : Option α :=
  if (tree.attribute? key).isSome then some (read tree) else none

/-- The trees below the tops of trees that are of a certain kind. -/
def select (test : Kind → Bool) (trees : List Markup) : List Markup :=
  trees.flatMap fun tree => tree.children.filter (test ·.kind)

end Markup

namespace Document

/-- The value of an attribute of a node. -/
def attribute? (doc : Document) (id : NodeId) (key : AttributeKey) : Option (List Char) :=
  (doc.element? id).bind fun (_, attrs) => attrs.get? key

/-- The nodes that have an attribute, in the order in which they are written. -/
def withAttribute (doc : Document) (key : AttributeKey) : List NodeId :=
  doc.nodes.filter fun id => (doc.attribute? id key).isSome

/-- Whether a node is of a certain kind. -/
def isOfKind (doc : Document) (test : Kind → Bool) (id : NodeId) : Bool :=
  (doc.get? id).any fun cell => test cell.kind

/-- The children of nodes that are of a certain kind. -/
def select (doc : Document) (test : Kind → Bool) (ids : List NodeId) : List NodeId :=
  ids.flatMap fun id => (doc.children id).filter (doc.isOfKind test)

theorem reachable_of_mem_select {doc : Document} {test : Kind → Bool} {ids : List NodeId}
    (h : ∀ id ∈ ids, doc.Reachable id) {id : NodeId} (hid : id ∈ doc.select test ids) :
    doc.Reachable id := by
  obtain ⟨parent, hparent, hchild⟩ := List.mem_flatMap.1 hid
  exact (h parent hparent).tail (List.mem_of_mem_filter hchild)

namespace Spans

variable {doc : Document} {ids : List NodeId} {trees : List Markup} {area : Multiset NodeId}

theorem attribute?_eq {id : NodeId} {tree : Markup} (h : doc.Spans [id] [tree] area)
    (key : AttributeKey) : doc.attribute? id key = tree.attribute? key := by
  obtain ⟨kind, children, inner, below, heq, -, hcell, -⟩ := h.of_singleton
  obtain rfl : tree = .node kind inner := by simpa using heq
  cases kind <;> simp [attribute?, element?, hcell, Markup.attribute?, Markup.kind]

theorem isOfKind_eq {id : NodeId} {tree : Markup} (h : doc.Spans [id] [tree] area)
    (test : Kind → Bool) : doc.isOfKind test id = test tree.kind := by
  obtain ⟨kind, children, inner, below, heq, -, hcell, -⟩ := h.of_singleton
  obtain rfl : tree = .node kind inner := by simpa using heq
  simp [isOfKind, hcell, Markup.kind]

/-- The values of an attribute in a document are those in its trees. -/
theorem filterMap_attribute? (h : doc.Spans [root] trees area) (hnodup : area.Nodup)
    (key : AttributeKey) :
    doc.nodes.filterMap (doc.attribute? · key) = Markup.gather (·.attribute? key) trees :=
  h.gather_nodes hnodup fun _ _ _ hspans _ ↦ hspans.attribute?_eq key

/-- What is read of the nodes with an attribute is what is read of the trees with it. -/
theorem map_withAttribute {α : Type} (h : doc.Spans [root] trees area) (hnodup : area.Nodup)
    {key : AttributeKey} {read : NodeId → α} {onTree : Markup → α}
    (hread : ∀ id tree below, doc.Spans [id] [tree] below → below.Nodup → read id = onTree tree) :
    (doc.withAttribute key).map read = Markup.gather (Markup.readWith key onTree) trees := by
  have hreadWith : ∀ id tree below, doc.Spans [id] [tree] below → below.Nodup →
      (if (doc.attribute? id key).isSome then some (read id) else none) =
        Markup.readWith key onTree tree := by
    intro id tree below hspans hbelow
    simp only [Markup.readWith, hspans.attribute?_eq key, hread id tree below hspans hbelow]
  rw [← h.gather_nodes hnodup hreadWith, withAttribute, ← List.filterMap_eq_map,
    List.filterMap_filter]
  rfl

theorem filter (h : doc.Spans ids trees area) (test : Kind → Bool) :
    ∃ part, doc.Spans (ids.filter (doc.isOfKind test)) (trees.filter (test ·.kind)) part := by
  induction h with
  | nil => exact ⟨0, .nil⟩
  | @cons id ids children kind inner rest below after hcell hbelow _ _ ih =>
    obtain ⟨part, hpart⟩ := ih
    have hkind := (Spans.singleton hcell hbelow).isOfKind_eq test
    simp only [List.filter_cons, hkind]
    split_ifs
    · exact ⟨_, .cons hcell hbelow hpart⟩
    · exact ⟨part, hpart⟩

/-- The nodes of a document that are of a certain kind stand for the trees in its tree that are. -/
theorem forall₂_filter_nodes (h : doc.Spans [root] trees area) (hnodup : area.Nodup)
    (test : Kind → Bool) : List.Forall₂ doc.StandsFor (doc.nodes.filter (doc.isOfKind test))
      ((Markup.subtreesAll trees).filter (test ·.kind)) := by
  refine List.rel_filter (fun id tree hstands ↦ ?_) (h.forall₂_nodes hnodup)
  obtain ⟨below, hspans, -⟩ := hstands
  exact Bool.eq_iff_iff.1 (hspans.isOfKind_eq test)

/-- What is selected below nodes stands for what is selected below their trees. -/
theorem select (h : doc.Spans ids trees area) (test : Kind → Bool) :
    ∃ part, doc.Spans (doc.select test ids) (Markup.select test trees) part := by
  induction h with
  | nil => exact ⟨0, .nil⟩
  | cons hcell hbelow _ _ ih =>
    obtain ⟨first, hfirst⟩ := hbelow.filter test
    obtain ⟨rest, hrest⟩ := ih
    rw [Document.select, List.flatMap_cons, children_of_get? hcell]
    exact ⟨first + rest, hfirst.append hrest⟩

/-- Each of the nodes stands for one of the trees. -/
theorem getElem? (h : doc.Spans ids trees area) {index : Nat} {tree : Markup}
    (htree : trees[index]? = some tree) :
    ∃ id below, ids[index]? = some id ∧ doc.Spans [id] [tree] below := by
  induction h generalizing index with
  | nil => simp at htree
  | cons hcell hbelow _ _ ih =>
    cases index with
    | zero =>
      obtain rfl : _ = tree := by simpa using htree
      exact ⟨_, _, rfl, .singleton hcell hbelow⟩
    | succ index => exact ih (by simpa using htree)

end Spans

end Document

end Galley.Html
