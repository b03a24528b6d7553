import Galley.Proofs.Html.Markup

/-!
Documents and the trees they stand for. `Document.Spans` relates nodes of a document to trees, with
the multiset of all nodes that the trees take up. Nothing in it keeps a node from being taken up
twice; `Spans.add_children` counts how often it is: once for each child list among the nodes taken
up that names it, and once for each time it is a top. The trees are determined by the document
(`Spans.unique`), and a document that agrees with another one on the nodes taken up stands for the
same trees (`Spans.congr`).

The reading functions of documents go down a bounded number of steps. Where a document stands for
trees of at most that height they read these trees (`Spans.flatMap_writeFrom`,
`Spans.flatMap_textFrom`, `Spans.any_anyBelow`), and no height exceeds the number of nodes if none
is taken up twice (`Spans.heights_le_size`).
-/

set_option autoImplicit false
set_option relaxedAutoImplicit false

namespace Galley.Html

/-- Nodes of a document stand for trees, which take up an area of it. -/
inductive Document.Spans (doc : Document) : List NodeId → List Markup → Multiset NodeId → Prop
  | nil : Spans doc [] [] 0
  | cons {id : NodeId} {ids children : List NodeId} {kind : Kind} {inner rest : List Markup}
      {below after : Multiset NodeId} (hcell : doc.get? id = some ⟨kind, children⟩)
      (hbelow : Spans doc children inner below) (hafter : Spans doc ids rest after) :
      Spans doc (id :: ids) (.node kind inner :: rest) ({id} + below + after)

namespace Document

theorem get?_eq_none_iff {doc : Document} {id : NodeId} : doc.get? id = none ↔ doc.size ≤ id := by
  simp [get?, size]

theorem lt_size_of_get? {doc : Document} {id : NodeId} {cell : Cell}
    (hcell : doc.get? id = some cell) : id < doc.size := by
  by_contra hle
  rw [get?_eq_none_iff.2 (not_lt.1 hle)] at hcell
  simp at hcell

theorem children_of_get? {doc : Document} {id : NodeId} {cell : Cell}
    (hcell : doc.get? id = some cell) : doc.children id = cell.children := by
  simp [children, hcell]

namespace Spans

variable {doc other : Document} {ids ids' : List NodeId} {trees trees' : List Markup}
  {area area' : Multiset NodeId}

theorem append (hfirst : doc.Spans ids trees area) (hsecond : doc.Spans ids' trees' area') :
    doc.Spans (ids ++ ids') (trees ++ trees') (area + area') := by
  induction hfirst with
  | nil => simpa using hsecond
  | cons hcell hbelow hafter ihbelow ihafter =>
    rw [add_assoc]
    exact .cons hcell hbelow ihafter

/-- Nodes one after the other take up areas of their own. -/
theorem of_append {ids : List NodeId} (h : doc.Spans (ids ++ ids') trees area) :
    ∃ first second areaFirst areaSecond, trees = first ++ second ∧
      area = areaFirst + areaSecond ∧ doc.Spans ids first areaFirst ∧
        doc.Spans ids' second areaSecond := by
  induction ids generalizing trees area with
  | nil => exact ⟨[], trees, 0, area, rfl, by simp, .nil, h⟩
  | cons id ids ih =>
    cases h with
    | @cons _ _ _ kind inner rest below after hcell hbelow hafter =>
      obtain ⟨first, second, areaFirst, areaSecond, rfl, rfl, hfirst, hsecond⟩ := ih hafter
      exact ⟨.node kind inner :: first, second, {id} + below + areaFirst, areaSecond, rfl,
        by simp only [add_assoc], .cons hcell hbelow hfirst, hsecond⟩

theorem singleton {id : NodeId} {children : List NodeId} {kind : Kind}
    (hcell : doc.get? id = some ⟨kind, children⟩) (hbelow : doc.Spans children trees area) :
    doc.Spans [id] [.node kind trees] ({id} + area) := by
  simpa using Spans.cons hcell hbelow .nil

/-- What a single node stands for. -/
theorem of_singleton {id : NodeId} (h : doc.Spans [id] trees area) :
    ∃ kind children inner below, trees = [.node kind inner] ∧ area = {id} + below ∧
      doc.get? id = some ⟨kind, children⟩ ∧ doc.Spans children inner below := by
  cases h with
  | @cons _ _ children kind inner _ below _ hcell hbelow hafter =>
    cases hafter
    exact ⟨kind, children, inner, below, rfl, by simp, hcell, hbelow⟩

/-- What a node with a known cell stands for. -/
theorem of_singleton_get? {id : NodeId} {kind : Kind} {children : List NodeId}
    (hcell : doc.get? id = some ⟨kind, children⟩) (h : doc.Spans [id] trees area) :
    ∃ inner below, trees = [.node kind inner] ∧ area = {id} + below ∧
      doc.Spans children inner below := by
  obtain ⟨kind', children', inner, below, rfl, rfl, hcell', hbelow⟩ := h.of_singleton
  obtain ⟨rfl, rfl⟩ : kind = kind' ∧ children = children' := by simpa [hcell] using hcell'
  exact ⟨inner, below, rfl, rfl, hbelow⟩

theorem length_eq (h : doc.Spans ids trees area) : ids.length = trees.length := by
  induction h with
  | nil => rfl
  | cons _ _ _ _ ih => simp [ih]

theorem mem_area_of_mem (h : doc.Spans ids trees area) {id : NodeId} (hid : id ∈ ids) :
    id ∈ area := by
  induction h with
  | nil => simp at hid
  | cons _ _ _ _ ih =>
    rcases List.mem_cons.1 hid with rfl | hid
    · simp
    · simp [ih hid]

theorem lt_size (h : doc.Spans ids trees area) {id : NodeId} (hid : id ∈ area) :
    id < doc.size := by
  induction h with
  | nil => simp at hid
  | cons hcell _ _ ihbelow ihafter =>
    simp only [Multiset.mem_add, Multiset.mem_singleton] at hid
    rcases hid with (rfl | hid) | hid
    · exact lt_size_of_get? hcell
    · exact ihbelow hid
    · exact ihafter hid

theorem exists_of_mem (h : doc.Spans ids trees area) {id : NodeId} (hid : id ∈ ids) :
    ∃ tree ∈ trees, ∃ below, doc.Spans [id] [tree] below := by
  induction h with
  | nil => simp at hid
  | cons hcell hbelow _ _ ih =>
    rcases List.mem_cons.1 hid with rfl | hid
    · exact ⟨_, by simp, _, .singleton hcell hbelow⟩
    · obtain ⟨tree, htree, hspans⟩ := ih hid
      exact ⟨tree, by simp [htree], hspans⟩

/-- A document that agrees on all nodes taken up stands for the same trees. -/
theorem congr (h : doc.Spans ids trees area)
    (hagree : ∀ id ∈ area, other.get? id = doc.get? id) : other.Spans ids trees area := by
  induction h with
  | nil => exact .nil
  | cons hcell _ _ ihbelow ihafter =>
    refine .cons ?_ (ihbelow fun id hid ↦ hagree id ?_) (ihafter fun id hid ↦ hagree id ?_)
    · rw [hagree _ (by simp), hcell]
    · simp [hid]
    · simp [hid]

/-- A document determines the trees that its nodes stand for, and the areas these take up. -/
theorem unique (h : doc.Spans ids trees area) (h' : doc.Spans ids trees' area') :
    trees = trees' ∧ area = area' := by
  induction h generalizing trees' area' with
  | nil => cases h'; exact ⟨rfl, rfl⟩
  | cons hcell _ _ ihbelow ihafter =>
    cases h' with
    | cons hcell' hbelow' hafter' =>
      obtain ⟨rfl, rfl⟩ := by simpa [hcell] using hcell'
      obtain ⟨rfl, rfl⟩ := ihbelow hbelow'
      obtain ⟨rfl, rfl⟩ := ihafter hafter'
      exact ⟨rfl, rfl⟩

/-- A node is taken up as often as it is a top or is named by a node that is taken up. -/
theorem add_children (h : doc.Spans ids trees area) :
    (ids : Multiset NodeId) + area.bind (fun id ↦ (doc.children id : Multiset NodeId)) = area := by
  induction h with
  | nil => simp
  | @cons id ids children kind inner rest below after hcell _ _ ihbelow ihafter =>
    have hchildren : (doc.children id : Multiset NodeId) = children := by
      rw [children_of_get? hcell]
    rw [Multiset.add_bind, Multiset.add_bind, Multiset.singleton_bind, hchildren,
      ← Multiset.cons_coe, ← Multiset.singleton_add]
    calc _ = {id} + (children + below.bind fun id ↦ (doc.children id : Multiset NodeId)) +
          (ids + after.bind fun id ↦ (doc.children id : Multiset NodeId)) := by abel
      _ = {id} + below + after := by rw [ihbelow, ihafter]

theorem card_eq (h : doc.Spans ids trees area) :
    Multiset.card area = (Markup.subtreesAll trees).length := by
  induction h with
  | nil => rfl
  | cons _ _ _ ihbelow ihafter =>
    simp only [Multiset.card_add, Multiset.card_singleton, ihbelow, ihafter, Markup.subtreesAll,
      Markup.subtrees, List.cons_append, List.length_cons, List.length_append]
    omega

theorem card_le_size (h : doc.Spans ids trees area) (hnodup : area.Nodup) :
    Multiset.card area ≤ doc.size := by
  have hsub : area ≤ Multiset.range doc.size :=
    (Multiset.le_iff_subset hnodup).2 fun id hid ↦ Multiset.mem_range.2 (h.lt_size hid)
  simpa using Multiset.card_le_card hsub

/-- If no node is taken up twice, no way down is longer than the document is large. -/
theorem heights_le_size (h : doc.Spans ids trees area) (hnodup : area.Nodup) :
    Markup.heights trees ≤ doc.size :=
  (Markup.heights_le_length_subtreesAll trees).trans (h.card_eq ▸ h.card_le_size hnodup)

/-! ### Reading a document -/

theorem flatMap_writeFrom (h : doc.Spans ids trees area) {depth : Nat}
    (hdepth : Markup.heights trees ≤ depth) :
    ids.flatMap (doc.writeFrom depth) = Markup.writeAll trees := by
  induction h generalizing depth with
  | nil => rfl
  | @cons id ids children kind inner rest below after hcell _ _ ihbelow ihafter =>
    simp only [Markup.heights, Markup.height] at hdepth
    obtain ⟨depth, rfl⟩ : ∃ n, depth = n + 1 := ⟨depth - 1, by omega⟩
    have hinner := @ihbelow depth (by omega)
    rw [List.flatMap_cons, ihafter (by omega), Markup.writeAll]
    congr 1
    cases kind with
    | root => simp [writeFrom, hcell, Markup.write, hinner]
    | element tag attrs => simp [writeFrom, hcell, Markup.write, hinner]
    | text value => simp [writeFrom, hcell, Markup.write]
    | raw markup => simp [writeFrom, hcell, Markup.write]

/-- A document is written as its tree is. -/
theorem write_eq {tree : Markup} (h : doc.Spans [root] [tree] area) (hnodup : area.Nodup) :
    doc.write = tree.write := by
  have hwrite := h.flatMap_writeFrom (h.heights_le_size hnodup)
  simpa [write, Markup.writeAll] using hwrite

theorem flatMap_textFrom (h : doc.Spans ids trees area) {depth : Nat}
    (hdepth : Markup.heights trees ≤ depth) :
    ids.flatMap (doc.textFrom depth) = Markup.textAll trees := by
  induction h generalizing depth with
  | nil => rfl
  | @cons id ids children kind inner rest below after hcell _ _ ihbelow ihafter =>
    simp only [Markup.heights, Markup.height] at hdepth
    obtain ⟨depth, rfl⟩ : ∃ n, depth = n + 1 := ⟨depth - 1, by omega⟩
    have hinner := @ihbelow depth (by omega)
    rw [List.flatMap_cons, ihafter (by omega), Markup.textAll]
    congr 1
    cases kind with
    | root => simp [textFrom, hcell, Markup.text, hinner]
    | element tag attrs => simp [textFrom, hcell, Markup.text, hinner]
    | text value => simp [textFrom, hcell, Markup.text]
    | raw markup => simp [textFrom, hcell, Markup.text]

theorem any_anyBelow (h : doc.Spans ids trees area) {test : Cell → Bool} {onKind : Kind → Bool}
    (htest : ∀ cell, test cell = onKind cell.kind) {depth : Nat}
    (hdepth : Markup.heights trees ≤ depth) :
    (ids.any fun id ↦ (doc.get? id).any test || doc.anyBelow test depth id) =
      (Markup.subtreesAll trees).any fun tree ↦ onKind tree.kind := by
  induction h generalizing depth with
  | nil => rfl
  | @cons id ids children kind inner rest below after hcell _ _ ihbelow ihafter =>
    simp only [Markup.heights, Markup.height] at hdepth
    obtain ⟨depth, rfl⟩ : ∃ n, depth = n + 1 := ⟨depth - 1, by omega⟩
    have hinner := @ihbelow depth (by omega)
    rw [List.any_cons, ihafter (by omega), anyBelow, children_of_get? hcell, hinner]
    simp [hcell, htest, Markup.subtreesAll, Markup.subtrees, Markup.kind, Bool.or_assoc]

theorem textContent_eq {id : NodeId} {tree : Markup} (h : doc.Spans [id] [tree] area)
    (hnodup : area.Nodup) : doc.textContent id = tree.text := by
  have htext := h.flatMap_textFrom (h.heights_le_size hnodup)
  simpa [textContent, Markup.textAll] using htext

theorem anyDescendant_eq {id : NodeId} {tree : Markup} (h : doc.Spans [id] [tree] area)
    (hnodup : area.Nodup) {test : Cell → Bool} {onKind : Kind → Bool}
    (htest : ∀ cell, test cell = onKind cell.kind) :
    doc.anyDescendant id test = tree.hasBelow onKind := by
  have hheight := h.heights_le_size hnodup
  obtain ⟨kind, children, inner, below, heq, -, hcell, hbelow⟩ := h.of_singleton
  obtain rfl : tree = .node kind inner := by simpa using heq
  simp only [Markup.heights, Markup.height] at hheight
  obtain ⟨depth, hdepth⟩ : ∃ n, doc.size = n + 1 := ⟨doc.size - 1, by omega⟩
  rw [anyDescendant, hdepth, anyBelow, children_of_get? hcell]
  exact hbelow.any_anyBelow htest (by omega)

end Spans

end Document

end Galley.Html
