import Galley.Proofs.Html.Outline

/-!
The nodes of a document in the order in which they are written, and the headings among them.
-/

set_option autoImplicit false
set_option relaxedAutoImplicit false

namespace Galley.Html

/-- What is listed of a tree that is an element. -/
def Markup.elementListing? (tree : Markup) : Option Listing :=
  match tree.kind with
  | .element tag attrs => Html.listing? tag attrs tree.text
  | _ => none

namespace Document

/-- A node and those below it, each before those below it; `depth` bounds how far down. -/
def nodesFrom (doc : Document) : Nat → NodeId → List NodeId
  | 0, _ => []
  | depth + 1, id => id :: (doc.children id).flatMap (nodesFrom doc depth)

/-- The nodes of a document, in the order in which they are written. -/
def nodes (doc : Document) : List NodeId := doc.nodesFrom doc.size root

/-- What is listed of a node that is an element. -/
def elementListing? (doc : Document) (id : NodeId) : Option Listing :=
  (doc.element? id).bind fun (tag, attrs) => Html.listing? tag attrs (doc.textContent id)

/-- What is listed of a node that is raw markup. -/
def rawListing? (doc : Document) (id : NodeId) : Option Listing :=
  match doc.get? id with
  | some { kind := .raw markup, .. } => Html.rawListing? markup
  | _ => none

/-- What is listed of a document: its headings of the second and third level that are not blank, and
those in raw markup, in their order. -/
def listings (doc : Document) : List Listing :=
  doc.nodes.filterMap fun id => doc.elementListing? id <|> doc.rawListing? id

/-- A node stands for a tree, and no node below it is taken up twice. -/
def StandsFor (doc : Document) (id : NodeId) (tree : Markup) : Prop :=
  ∃ area, doc.Spans [id] [tree] area ∧ area.Nodup

namespace Spans

variable {doc : Document} {ids : List NodeId} {trees : List Markup} {area : Multiset NodeId}

/-- The nodes in order are those that are taken up. -/
theorem coe_flatMap_nodesFrom (h : doc.Spans ids trees area) {depth : Nat}
    (hdepth : Markup.heights trees ≤ depth) :
    (ids.flatMap (doc.nodesFrom depth) : Multiset NodeId) = area := by
  induction h generalizing depth with
  | nil => rfl
  | @cons id ids children kind inner rest below after hcell _ _ ihbelow ihafter =>
    simp only [Markup.heights, Markup.height] at hdepth
    obtain ⟨depth, rfl⟩ : ∃ n, depth = n + 1 := ⟨depth - 1, by omega⟩
    have hinner := @ihbelow depth (by omega)
    rw [List.flatMap_cons, ← Multiset.coe_add, ihafter (by omega), nodesFrom,
      children_of_get? hcell, ← Multiset.cons_coe, hinner, Multiset.singleton_add]

/-- The nodes in order stand for the trees in order. -/
theorem forall₂_nodesFrom (h : doc.Spans ids trees area) (hnodup : area.Nodup) {depth : Nat}
    (hdepth : Markup.heights trees ≤ depth) :
    List.Forall₂ doc.StandsFor (ids.flatMap (doc.nodesFrom depth)) (Markup.subtreesAll trees) := by
  induction h generalizing depth with
  | nil => exact .nil
  | @cons id ids children kind inner rest below after hcell hbelow _ ihbelow ihafter =>
    simp only [Markup.heights, Markup.height] at hdepth
    obtain ⟨depth, rfl⟩ : ∃ n, depth = n + 1 := ⟨depth - 1, by omega⟩
    obtain ⟨hfirst, hrest, -⟩ := Multiset.nodup_add.1 hnodup
    have hinner := ihbelow (Multiset.nodup_add.1 hfirst).2.1 (by omega : _ ≤ depth)
    rw [List.flatMap_cons, nodesFrom, children_of_get? hcell, Markup.subtreesAll, Markup.subtrees]
    exact List.rel_append (.cons ⟨_, .singleton hcell hbelow, hfirst⟩ hinner)
      (ihafter hrest (by omega))

/-- What is read of the nodes in order is what is read of the trees in order. -/
theorem filterMap_nodesFrom {α : Type} (h : doc.Spans ids trees area) (hnodup : area.Nodup)
    {read : NodeId → Option α} {onTree : Markup → Option α}
    (hread : ∀ id tree below, doc.Spans [id] [tree] below → below.Nodup → read id = onTree tree)
    {depth : Nat} (hdepth : Markup.heights trees ≤ depth) :
    (ids.flatMap (doc.nodesFrom depth)).filterMap read =
      (Markup.subtreesAll trees).filterMap onTree := by
  have hrel (id : NodeId) (tree : Markup) (hstands : doc.StandsFor id tree) :
      Option.Rel (· = ·) (read id) (onTree tree) := by
    obtain ⟨below, hspans, hbelow⟩ := hstands
    rw [hread id tree below hspans hbelow]
    cases onTree tree with
    | none => exact .none
    | some value => exact .some rfl
  have hvalues := List.rel_filterMap hrel (h.forall₂_nodesFrom hnodup hdepth)
  rwa [List.forall₂_eq_eq_eq] at hvalues

theorem elementListing?_eq {id : NodeId} {tree : Markup} (h : doc.Spans [id] [tree] area)
    (hnodup : area.Nodup) : doc.elementListing? id = tree.elementListing? := by
  obtain ⟨kind, children, inner, below, heq, -, hcell, -⟩ := h.of_singleton
  obtain rfl : tree = .node kind inner := by simpa using heq
  cases kind <;>
    simp [elementListing?, element?, hcell, Markup.elementListing?, Markup.kind,
      h.textContent_eq hnodup]

theorem listing?_eq {id : NodeId} {tree : Markup} (h : doc.Spans [id] [tree] area)
    (hnodup : area.Nodup) :
    (doc.elementListing? id <|> doc.rawListing? id) = tree.listing? := by
  rw [h.elementListing?_eq hnodup]
  obtain ⟨kind, children, inner, below, heq, -, hcell, -⟩ := h.of_singleton
  obtain rfl : tree = .node kind inner := by simpa using heq
  cases kind <;>
    simp [rawListing?, hcell, Markup.kind, Markup.elementListing?, Markup.listing?]

/-- The nodes of a document in order are the nodes of its tree. -/
theorem coe_nodes (h : doc.Spans [root] trees area) (hnodup : area.Nodup) :
    (doc.nodes : Multiset NodeId) = area := by
  simpa [nodes] using h.coe_flatMap_nodesFrom (h.heights_le_size hnodup)

/-- The nodes in order are those that can be reached. -/
theorem mem_nodes_iff (h : doc.Spans [root] trees area) (hnodup : area.Nodup) {id : NodeId} :
    id ∈ doc.nodes ↔ doc.Reachable id := by
  rw [← h.mem_area_iff_reachable, ← h.coe_nodes hnodup, Multiset.mem_coe]

theorem nodup_nodes (h : doc.Spans [root] trees area) (hnodup : area.Nodup) : doc.nodes.Nodup := by
  rwa [← Multiset.coe_nodup, h.coe_nodes hnodup]

/-- The nodes of a document, in order, stand for the trees in its tree. -/
theorem forall₂_nodes (h : doc.Spans [root] trees area) (hnodup : area.Nodup) :
    List.Forall₂ doc.StandsFor doc.nodes (Markup.subtreesAll trees) := by
  simpa [nodes] using h.forall₂_nodesFrom hnodup (h.heights_le_size hnodup)

/-- Every node that can be reached stands for one of the trees in the tree of a document. -/
theorem exists_standsFor (h : doc.Spans [root] trees area) (hnodup : area.Nodup) {id : NodeId}
    (hid : doc.Reachable id) : ∃ tree ∈ Markup.subtreesAll trees, doc.StandsFor id tree := by
  have hstands := h.forall₂_nodes hnodup
  obtain ⟨i, hi, hnode⟩ := List.getElem_of_mem ((h.mem_nodes_iff hnodup).2 hid)
  have hi' : i < (Markup.subtreesAll trees).length := hstands.length_eq ▸ hi
  exact ⟨_, List.getElem_mem hi', hnode ▸ hstands.get hi hi'⟩

/-- What is listed of a document is what is listed of its tree. -/
theorem listings_eq (h : doc.Spans [root] trees area) (hnodup : area.Nodup) :
    doc.listings = Markup.listings trees := by
  have hread := h.filterMap_nodesFrom hnodup (fun _ _ _ hspans ↦ hspans.listing?_eq)
    (h.heights_le_size hnodup)
  simpa [listings, nodes, Markup.listings] using hread

/-- What is listed of the elements of a document is what is listed of those of its tree. -/
theorem filterMap_elementListing? (h : doc.Spans [root] trees area) (hnodup : area.Nodup) :
    doc.nodes.filterMap doc.elementListing? =
      (Markup.subtreesAll trees).filterMap Markup.elementListing? := by
  have hread := h.filterMap_nodesFrom hnodup (fun _ _ _ hspans ↦ hspans.elementListing?_eq)
    (h.heights_le_size hnodup)
  simpa [nodes] using hread

end Spans

end Document

end Galley.Html
