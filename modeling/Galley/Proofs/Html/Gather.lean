import Galley.Proofs.Html.Nodes

/-!
What is gathered from trees: a reading that is nothing for most trees, taken at every tree in order.
The nodes of a document give what its tree gives (`Document.Spans.gather_nodes`).
-/

set_option autoImplicit false
set_option relaxedAutoImplicit false

namespace Galley.Html

namespace Markup

variable {α : Type} {read : Markup → Option α} {kind : Kind} {inner : List Markup}

/-- What is read of trees and of all trees in them, each before those below it. -/
def gather (read : Markup → Option α) (trees : List Markup) : List α :=
  (subtreesAll trees).filterMap read

@[simp] theorem gather_nil : gather read [] = [] := rfl

@[simp] theorem gather_append (trees others : List Markup) :
    gather read (trees ++ others) = gather read trees ++ gather read others := by
  simp [gather]

theorem gather_cons (tree : Markup) (rest : List Markup) :
    gather read (tree :: rest) = gather read [tree] ++ gather read rest := by
  rw [← List.singleton_append, gather_append]

theorem gather_singleton :
    gather read [.node kind inner] = (read (.node kind inner)).toList ++ gather read inner := by
  cases hread : read (.node kind inner) <;> simp [gather, subtreesAll, subtrees, hread]

theorem gather_singleton_of_none (hnone : read (.node kind inner) = none) :
    gather read [.node kind inner] = gather read inner := by
  rw [gather_singleton, hnone]
  rfl

theorem gather_singleton_of_some {value : α} (hsome : read (.node kind inner) = some value) :
    gather read [.node kind inner] = value :: gather read inner := by
  rw [gather_singleton, hsome]
  rfl

theorem mem_subtreesAll_of_mem {tree : Markup} {trees : List Markup} (h : tree ∈ trees) :
    tree ∈ subtreesAll trees := by
  obtain ⟨front, back, rfl⟩ := List.append_of_mem h
  obtain ⟨kind, inner⟩ := tree
  simp [subtreesAll, subtrees]

/-- Nothing is gathered from trees if and only if nothing is read of any tree in them. -/
theorem gather_eq_nil_iff {trees : List Markup} :
    gather read trees = [] ↔ All (fun tree ↦ read tree = none) trees :=
  List.filterMap_eq_nil_iff

end Markup

/-- What is gathered from the nodes of a document is what is gathered from its tree. -/
theorem Document.Spans.gather_nodes {α : Type} {doc : Document} {trees : List Markup}
    {area : Multiset NodeId} (h : doc.Spans [root] trees area) (hnodup : area.Nodup)
    {read : NodeId → Option α} {onTree : Markup → Option α}
    (hread : ∀ id tree below, doc.Spans [id] [tree] below → below.Nodup → read id = onTree tree) :
    doc.nodes.filterMap read = Markup.gather onTree trees := by
  simpa [nodes, Markup.gather] using h.filterMap_nodesFrom hnodup hread (h.heights_le_size hnodup)

end Galley.Html
