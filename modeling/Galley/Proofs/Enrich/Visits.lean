import Galley.Proofs.Enrich.Passes
import Galley.Proofs.Html.Query

/-!
Walks as visits of nodes one after the other. A visitor that acts only at nodes of a certain kind,
and changes there no other node (`StaysAt`), makes of a document what its visits of the topmost such
nodes make of it, in order (`StaysAt.walk_eq`). If none of them lies below another one these are all
nodes of the kind (`filter_nodes_eq`).
-/

set_option autoImplicit false
set_option relaxedAutoImplicit false

namespace Galley

namespace Html.Document

variable {doc : Document} {test : Kind → Bool} {id : NodeId}

/-! ### Topmost nodes of a kind -/

/-- The nodes of a certain kind below a node that lie below no other such node there; `depth` bounds
how far down they are looked for. -/
def topsFrom (doc : Document) (test : Kind → Bool) : Nat → NodeId → List NodeId
  | 0, _ => []
  | depth + 1, id => (doc.children id).flatMap fun child =>
    if doc.isOfKind test child then [child] else topsFrom doc test depth child

/-- No node of a certain kind lies below another one. -/
def IsFlat (doc : Document) (test : Kind → Bool) : Prop :=
  ∀ id lower, doc.Reachable id → doc.isOfKind test id = true →
    Relation.TransGen doc.Names id lower → doc.isOfKind test lower = false

theorem isOfKind_of_get? {cell : Cell} (hcell : doc.get? id = some cell) :
    doc.isOfKind test id = test cell.kind := by
  simp [isOfKind, hcell]

theorem exists_of_isOfKind (h : doc.isOfKind test id = true) :
    ∃ cell, doc.get? id = some cell ∧ test cell.kind = true := by
  cases hcell : doc.get? id with
  | none => simp [isOfKind, hcell] at h
  | some cell => exact ⟨cell, rfl, by rwa [isOfKind_of_get? hcell] at h⟩

theorem lt_size_of_isOfKind (h : doc.isOfKind test id = true) : id < doc.size := by
  obtain ⟨cell, hcell, -⟩ := exists_of_isOfKind h
  exact lt_size_of_get? hcell

theorem isOfKind_of_mem_topsFrom {depth : Nat} {top : NodeId}
    (h : top ∈ doc.topsFrom test depth id) : doc.isOfKind test top = true := by
  induction depth generalizing id with
  | zero => simp [topsFrom] at h
  | succ depth ih =>
    obtain ⟨child, -, hmem⟩ := List.mem_flatMap.1 h
    split_ifs at hmem with hchild
    · rwa [List.mem_singleton.1 hmem]
    · exact ih hmem

theorem way_of_mem_nodesFrom {depth : Nat} {lower : NodeId} (h : lower ∈ doc.nodesFrom depth id) :
    Relation.ReflTransGen doc.Names id lower := by
  induction depth generalizing id with
  | zero => simp [nodesFrom] at h
  | succ depth ih =>
    rcases List.mem_cons.1 h with rfl | h
    · exact .refl
    · obtain ⟨child, hchild, hmem⟩ := List.mem_flatMap.1 h
      exact .head hchild (ih hmem)

/-- Where no node of a kind lies below another one, the topmost are all of them. -/
theorem filter_nodesFrom (hflat : doc.IsFlat test) (depth : Nat) (hid : doc.Reachable id) :
    (doc.nodesFrom (depth + 1) id).filter (doc.isOfKind test) =
      if doc.isOfKind test id then [id] else doc.topsFrom test depth id := by
  induction depth generalizing id with
  | zero =>
    have hnone (ids : List NodeId) : ids.flatMap (doc.nodesFrom 0) = [] :=
      List.flatMap_eq_nil_iff.2 fun _ _ ↦ rfl
    rw [nodesFrom, hnone, topsFrom, List.filter_cons, List.filter_nil]
  | succ depth ih =>
    rw [nodesFrom, List.filter_cons]
    split_ifs with hkind
    · have hbelow : ((doc.children id).flatMap (doc.nodesFrom (depth + 1))).filter
          (doc.isOfKind test) = [] := by
        refine List.filter_eq_nil_iff.2 fun lower hlower ↦ ?_
        obtain ⟨child, hchild, hmem⟩ := List.mem_flatMap.1 hlower
        have hway := Relation.TransGen.head' (r := doc.Names) hchild (way_of_mem_nodesFrom hmem)
        rw [hflat id lower hid hkind hway]
        exact Bool.false_ne_true
      rw [hbelow]
    · rw [topsFrom, List.filter_flatMap]
      exact List.flatMap_congr fun child hchild ↦ ih (hid.tail hchild)

/-- No node of a kind lies below another one if none does in the tree of a document. -/
theorem Spans.isFlat {trees : List Markup} {area : Multiset NodeId}
    (hspans : doc.Spans [root] trees area)
    (hflat : Markup.All (fun tree ↦ test tree.kind = true →
      Markup.All (fun lower ↦ test lower.kind = false) tree.children) trees) :
    doc.IsFlat test := by
  intro id lower hid hkind hway
  obtain ⟨tree, htree, below, htop⟩ := hspans.exists_subtree (hspans.mem_area_iff_reachable.2 hid)
  obtain ⟨kind, children, inner, area', heq, -, hcell, hinner⟩ := htop.of_singleton
  obtain rfl : tree = .node kind inner := by simpa using heq
  rw [htop.isOfKind_eq] at hkind
  obtain ⟨child, hchild, hway'⟩ := Relation.TransGen.head'_iff.1 hway
  rw [Names, children_of_get? hcell] at hchild
  obtain ⟨lowerTree, hlower, lowerArea, hlowerSpans⟩ :=
    hinner.exists_subtree (hinner.mem_area_of_way (hinner.mem_area_of_mem hchild) hway')
  rw [hlowerSpans.isOfKind_eq]
  exact hflat _ htree hkind lowerTree hlower

/-- No more nodes are found further down than the trees reach. -/
theorem Spans.flatMap_nodesFrom_succ {ids : List NodeId} {trees : List Markup}
    {area : Multiset NodeId} (h : doc.Spans ids trees area) {depth : Nat}
    (hdepth : Markup.heights trees ≤ depth) :
    ids.flatMap (doc.nodesFrom (depth + 1)) = ids.flatMap (doc.nodesFrom depth) := by
  induction h generalizing depth with
  | nil => rfl
  | @cons id ids children kind inner rest below after hcell _ _ ihbelow ihafter =>
    simp only [Markup.heights, Markup.height] at hdepth
    obtain ⟨depth, rfl⟩ : ∃ n, depth = n + 1 := ⟨depth - 1, by omega⟩
    have hinner := @ihbelow depth (by omega)
    rw [List.flatMap_cons, List.flatMap_cons, ihafter (by omega), nodesFrom, nodesFrom,
      children_of_get? hcell, hinner]

/-- The nodes of a kind in a document are the topmost ones below its root, if none of them lies
below another one and the root is none. -/
theorem filter_nodes_eq {trees : List Markup} {area : Multiset NodeId}
    (hspans : doc.Spans [root] trees area) (hnodup : area.Nodup) (hflat : doc.IsFlat test)
    (hroot : doc.isOfKind test root = false) :
    doc.nodes.filter (doc.isOfKind test) = doc.topsFrom test doc.size root := by
  have hdepth := hspans.flatMap_nodesFrom_succ (hspans.heights_le_size hnodup)
  have htops := filter_nodesFrom hflat doc.size (.refl : doc.Reachable root)
  simp only [List.flatMap_singleton] at hdepth
  rw [hroot, hdepth] at htops
  exact htops

/-- A document has the nodes of another one, of which at most those of a certain kind differ; they
are still of this kind. -/
structure AgreesBut (test : Kind → Bool) (before after : Document) : Prop where
  kept : ∀ id < before.size, before.isOfKind test id = false → after.get? id = before.get? id
  stays : ∀ id, before.isOfKind test id = true → after.isOfKind test id = true

namespace AgreesBut

variable {before after : Document}

theorem refl (doc : Document) : AgreesBut test doc doc := ⟨fun _ _ _ ↦ rfl, fun _ h ↦ h⟩

theorem isOfKind_eq (h : AgreesBut test before after) (hid : id < before.size) :
    after.isOfKind test id = before.isOfKind test id := by
  cases hkind : before.isOfKind test id with
  | true => exact h.stays id hkind
  | false => rw [isOfKind, h.kept id hid hkind, ← hkind, isOfKind]

theorem exists_get (h : AgreesBut test before after) (hid : id < before.size) :
    ∃ cell, after.get id = .ok cell := by
  refine get_of_lt_size ?_
  cases hkind : before.isOfKind test id with
  | true => exact lt_size_of_isOfKind (h.stays id hkind)
  | false =>
    by_contra hlt
    have hnone := get?_eq_none_iff.2 (not_lt.1 hlt)
    rw [h.kept id hid hkind, get?_eq_none_iff] at hnone
    exact absurd hid (not_lt.2 hnone)

end AgreesBut

end Html.Document

namespace Enrich

open Html

variable {σ : Type} {visit : Visitor σ} {test : Kind → Bool} {name : List Char}

theorem isOfKind_congr {doc other : Document} {id : NodeId} (h : other.get? id = doc.get? id) :
    other.isOfKind test id = doc.isOfKind test id := by
  rw [Document.isOfKind, Document.isOfKind, h]

/-- A visit as a step: a failure is reported. -/
def visited (name : List Char) (visit : Visitor σ) (p : Progress σ) (id : NodeId) : Progress σ :=
  match visit p id with
  | (p, .ok _) => p
  | (p, .error e) => { p with diagnostics := p.diagnostics.fail name e.message }

/-- A visitor does nothing at nodes that are not of a certain kind. At a node that is, it changes no
other node and leaves it in its place, of the same kind. -/
structure StaysAt (visit : Visitor σ) (test : Kind → Bool) : Prop where
  descend : ∀ p id, p.doc.isOfKind test id = false → visit p id = (p, .ok .descend)
  skip : ∀ p id, p.doc.isOfKind test id = true → ∀ outcome, (visit p id).2 = .ok outcome →
    outcome = .skip
  kept : ∀ p id, p.doc.isOfKind test id = true → ∀ other < p.doc.size, other ≠ id →
    (visit p id).1.doc.get? other = p.doc.get? other
  stays : ∀ p id, p.doc.isOfKind test id = true → (visit p id).1.doc.isOfKind test id = true

namespace StaysAt

variable {doc : Document} {p : Progress σ} {id : NodeId}

theorem doc_visited (name : List Char) (visit : Visitor σ) (p : Progress σ) (id : NodeId) :
    (visited name visit p id).doc = (visit p id).1.doc := by
  unfold visited
  split <;> simp [*]

/-- A visit of a node of the kind changes only it. -/
theorem agreesBut (h : StaysAt visit test) (name : List Char) (hagrees : doc.AgreesBut test p.doc)
    (hid : doc.isOfKind test id = true) : doc.AgreesBut test (visited name visit p id).doc := by
  have hkind := hagrees.stays id hid
  rw [doc_visited]
  refine ⟨fun other hother hnot ↦ ?_, fun other hother ↦ ?_⟩
  · have hne : other ≠ id := by
      rintro rfl
      rw [hid] at hnot
      cases hnot
    obtain ⟨cell, hcell⟩ := hagrees.exists_get hother
    have hlt : other < p.doc.size := by
      by_contra hle
      simp [Document.get, Document.get?_eq_none_iff.2 (not_lt.1 hle)] at hcell
    rw [h.kept p id hkind other hlt hne, hagrees.kept other hother hnot]
  · by_cases hne : other = id
    · rw [hne]
      exact h.stays p id hkind
    · have hother' := hagrees.stays other hother
      obtain ⟨cell, hcell, -⟩ := Document.exists_of_isOfKind hother'
      rw [Document.isOfKind, h.kept p id hkind other (Document.lt_size_of_get? hcell) hne,
        ← Document.isOfKind, hother']

theorem agreesBut_foldl (h : StaysAt visit test) (name : List Char) {ids : List NodeId}
    (hids : ∀ id ∈ ids, doc.isOfKind test id = true) (hagrees : doc.AgreesBut test p.doc) :
    doc.AgreesBut test (ids.foldl (visited name visit) p).doc := by
  induction ids generalizing p with
  | nil => exact hagrees
  | cons id rest ih =>
    exact ih (fun other hother ↦ hids other (List.mem_cons_of_mem _ hother))
      (h.agreesBut name hagrees (hids id List.mem_cons_self))

/-- The visit of a child that is of the kind. -/
theorem visitChild_eq (h : StaysAt visit test)
    (below : Progress σ → NodeId → Progress σ × Option EnrichError) (parent : NodeId) (index : Nat)
    (hid : p.doc.isOfKind test id = true) :
    visitChild name visit below parent index id p = (visited name visit p id, none) := by
  obtain ⟨cell, hcell, -⟩ := Document.exists_of_isOfKind hid
  have hskip := h.skip p id hid
  rw [visitChild, Document.get, hcell, visited]
  rcases hvisit : visit p id with ⟨p', outcome | outcome⟩
  · rfl
  · obtain rfl := hskip outcome (by rw [hvisit])
    rfl

/-- A walk visits the topmost nodes of the kind, in order. -/
theorem walkBelow_eq (h : StaysAt visit test)
    (hexists : ∀ id, doc.Reachable id → doc.isOfKind test id = false →
      ∀ child ∈ doc.children id, child < doc.size) (depth : Nat)
    (hagrees : doc.AgreesBut test p.doc) (hreach : doc.Reachable id) (hid : id < doc.size)
    (hkind : doc.isOfKind test id = false) :
    walkBelow name visit depth p id =
      ((doc.topsFrom test depth id).foldl (visited name visit) p, none) := by
  induction depth generalizing p id with
  | zero => rfl
  | succ depth ih =>
    have hchildren (index : Nat) {ids : List NodeId} (hids : ids ⊆ doc.children id)
        {p : Progress σ} (hagrees : doc.AgreesBut test p.doc) :
        visitChildren name visit (walkBelow name visit depth) id index ids p =
          ((ids.flatMap fun child ↦ if doc.isOfKind test child then [child]
            else doc.topsFrom test depth child).foldl (visited name visit) p, none) := by
      induction ids generalizing p index with
      | nil => rfl
      | cons child rest ihrest =>
        rw [List.cons_subset] at hids
        have hlt := hexists id hreach hkind child hids.1
        have hsame := hagrees.isOfKind_eq hlt
        rw [visitChildren, List.flatMap_cons, List.foldl_append]
        cases hchild : doc.isOfKind test child with
        | true =>
          rw [hchild] at hsame
          rw [h.visitChild_eq _ id index hsame]
          exact ihrest (index + 1) hids.2 (h.agreesBut name hagrees hchild)
        | false =>
          rw [hchild] at hsame
          obtain ⟨cell, hcell⟩ := hagrees.exists_get hlt
          have hbelow := ih hagrees (hreach.tail hids.1) hlt hchild
          have htops : ∀ top ∈ doc.topsFrom test depth child, doc.isOfKind test top = true :=
            fun _ ↦ Document.isOfKind_of_mem_topsFrom
          rw [visitChild, hcell, h.descend p child hsame]
          dsimp only
          rw [hbelow]
          exact ihrest (index + 1) hids.2 (h.agreesBut_foldl name htops hagrees)
    have hcell := hagrees.kept id hid hkind
    cases hdoc : doc.get? id with
    | none => exact absurd hid (not_lt.2 (Document.get?_eq_none_iff.1 hdoc))
    | some cell =>
      rw [hdoc] at hcell
      rw [walkBelow, Document.get, hcell, Document.topsFrom]
      rw [Document.children_of_get? hdoc] at hchildren ⊢
      exact hchildren 0 (List.Subset.refl _) hagrees

/-- A walk over a document makes of it what the visits of its topmost nodes of the kind make of it.
It never stops early. -/
theorem walk_eq (h : StaysAt visit test) (name : List Char)
    (hexists : ∀ id, doc.Reachable id → doc.isOfKind test id = false →
      ∀ child ∈ doc.children id, child < doc.size) (hroot : Document.root < doc.size)
    (hkind : doc.isOfKind test Document.root = false) (state : σ) (diagnostics : Diagnostics) :
    let after := (doc.topsFrom test doc.size Document.root).foldl (visited name visit)
      ⟨state, doc, diagnostics⟩
    walk name visit state doc diagnostics = (.ok after.doc, after.diagnostics) := by
  intro after
  rw [walk, h.walkBelow_eq hexists doc.size (.refl doc) .refl hroot hkind]

/-- A walk over a document of the shape of a tree makes of it what visits of its nodes of the kind
make of it, in order, if none of these lies below another one. -/
theorem walk_nodes (h : StaysAt visit test) (name : List Char) {trees : List Markup}
    {area : Multiset NodeId} (hspans : doc.Spans [Document.root] trees area) (hnodup : area.Nodup)
    (hroot : doc.isOfKind test Document.root = false) (hflat : doc.IsFlat test) (state : σ)
    (d : Diagnostics) :
    let after := (doc.nodes.filter (doc.isOfKind test)).foldl (visited name visit) ⟨state, doc, d⟩
    walk name visit state doc d = (.ok after.doc, after.diagnostics) := by
  have hreachable (id : NodeId) (hid : doc.Reachable id) : id < doc.size :=
    hspans.lt_size (hspans.mem_area_iff_reachable.2 hid)
  rw [Document.filter_nodes_eq hspans hnodup hflat hroot]
  exact h.walk_eq name (fun id hid _ child hchild ↦ hreachable child (hid.tail hchild))
    (hreachable _ .refl) hroot state d

end StaysAt

end Enrich

end Galley
