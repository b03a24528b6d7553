import Galley.Proofs.Html.Span

/-!
Documents whose reachable part is a tree. `Document.IsTree` says so node by node, in terms of what
can be reached from the root: all of it exists, every node but the root stands in one place of one
child list, nothing leads back, and what cannot have content has none. `isTree_iff` shows that this
is to stand for a tree that takes up no node twice, which is the form that can be computed with.
-/

set_option autoImplicit false
set_option relaxedAutoImplicit false

namespace Galley.Html

/-- Kinds of nodes that are written without content. -/
def Kind.isLeaf : Kind → Bool
  | .root => false
  | .element tag _ => isVoid tag
  | .text _ => true
  | .raw _ => true

/-- A node that is written without content has none. -/
def Markup.IsBare (tree : Markup) : Prop := tree.kind.isLeaf = true → tree.children = []

/-- What occurs at most once in a list stands in at most one place of it. -/
theorem count_le_one_iff {ids : List NodeId} {id : NodeId} :
    ids.count id ≤ 1 ↔ ∀ i j : Nat, ids[i]? = some id → ids[j]? = some id → i = j := by
  have hduplicate := List.duplicate_iff_exists_distinct_get (l := ids) (x := id)
  rw [List.duplicate_iff_two_le_count] at hduplicate
  constructor
  · intro hcount i j hi hj
    obtain ⟨hi', hi⟩ := List.getElem?_eq_some_iff.1 hi
    obtain ⟨hj', hj⟩ := List.getElem?_eq_some_iff.1 hj
    rcases lt_trichotomy i j with hlt | heq | hlt
    · have htwice := hduplicate.2 ⟨⟨i, hi'⟩, ⟨j, hj'⟩, hlt, hi.symm, hj.symm⟩
      omega
    · exact heq
    · have htwice := hduplicate.2 ⟨⟨j, hj'⟩, ⟨i, hi'⟩, hlt, hj.symm, hi.symm⟩
      omega
  · intro hunique
    by_contra htwice
    obtain ⟨i, j, hlt, hi, hj⟩ := hduplicate.1 (by omega)
    have heq := hunique i j (by simp [hi]) (by simp [hj])
    exact absurd hlt (by simp [Fin.lt_def, heq])

namespace Document

/-- A node names another one as a child. -/
def Names (doc : Document) (parent child : NodeId) : Prop := child ∈ doc.children parent

/-- Nodes that are the root or named, directly or through others, by it. -/
def Reachable (doc : Document) (id : NodeId) : Prop := Relation.ReflTransGen doc.Names root id

/-- The part of a document that is reachable is a tree. -/
structure IsTree (doc : Document) : Prop where
  exists_node : ∀ id, doc.Reachable id → id < doc.size
  one_slot : ∀ id, doc.Reachable id → id ≠ root → ∃! slot : NodeId × Nat,
    doc.Reachable slot.1 ∧ (doc.children slot.1)[slot.2]? = some id
  root_free : ∀ id, doc.Reachable id → ¬ doc.Names id root
  acyclic : ∀ id, doc.Reachable id → ¬ Relation.TransGen doc.Names id id
  leaves_bare : ∀ id cell, doc.Reachable id → doc.get? id = some cell →
    cell.kind.isLeaf = true → cell.children = []

/-- The part of a document that is reachable has the shape of a tree, whatever is below what. -/
structure HasTreeShape (doc : Document) : Prop where
  exists_node : ∀ id, doc.Reachable id → id < doc.size
  one_slot : ∀ id, doc.Reachable id → id ≠ root → ∃! slot : NodeId × Nat,
    doc.Reachable slot.1 ∧ (doc.children slot.1)[slot.2]? = some id
  root_free : ∀ id, doc.Reachable id → ¬ doc.Names id root
  acyclic : ∀ id, doc.Reachable id → ¬ Relation.TransGen doc.Names id id

theorem IsTree.hasTreeShape {doc : Document} (h : doc.IsTree) : doc.HasTreeShape :=
  ⟨h.exists_node, h.one_slot, h.root_free, h.acyclic⟩

/-! ### From trees to reachable nodes -/

namespace Spans

variable {doc : Document} {ids : List NodeId} {trees : List Markup} {area : Multiset NodeId}

theorem mem_area_of_names (h : doc.Spans ids trees area) {parent child : NodeId}
    (hparent : parent ∈ area) (hnames : doc.Names parent child) : child ∈ area := by
  rw [← h.add_children]
  exact Multiset.mem_add.2 (.inr (Multiset.mem_bind.2 ⟨parent, hparent, Multiset.mem_coe.2 hnames⟩))

/-- Every node taken up stands for one of the trees in the trees. -/
theorem exists_subtree (h : doc.Spans ids trees area) {id : NodeId} (hid : id ∈ area) :
    ∃ tree ∈ Markup.subtreesAll trees, ∃ below, doc.Spans [id] [tree] below := by
  induction h with
  | nil => simp at hid
  | @cons top _ _ kind inner _ _ _ hcell hbelow _ ihbelow ihafter =>
    simp only [Multiset.mem_add, Multiset.mem_singleton] at hid
    rcases hid with (rfl | hid) | hid
    · exact ⟨.node kind inner, by simp [Markup.subtreesAll, Markup.subtrees], _,
        .singleton hcell hbelow⟩
    · obtain ⟨tree, htree, below, hspans⟩ := ihbelow hid
      exact ⟨tree, by simp [Markup.subtreesAll, Markup.subtrees, htree], below, hspans⟩
    · obtain ⟨tree, htree, below, hspans⟩ := ihafter hid
      exact ⟨tree, by simp [Markup.subtreesAll, htree], below, hspans⟩

/-- Every tree in the trees is what a node taken up stands for. -/
theorem exists_id (h : doc.Spans ids trees area) {tree : Markup}
    (htree : tree ∈ Markup.subtreesAll trees) :
    ∃ id ∈ area, ∃ below, doc.Spans [id] [tree] below := by
  induction h with
  | nil => simp [Markup.subtreesAll] at htree
  | cons hcell hbelow _ ihbelow ihafter =>
    simp only [Markup.subtreesAll, Markup.subtrees, List.mem_append, List.mem_cons] at htree
    rcases htree with (rfl | htree) | htree
    · exact ⟨_, by simp, _, .singleton hcell hbelow⟩
    · obtain ⟨id, hid, hspans⟩ := ihbelow htree
      exact ⟨id, by simp [hid], hspans⟩
    · obtain ⟨id, hid, hspans⟩ := ihafter htree
      exact ⟨id, by simp [hid], hspans⟩

/-- Every node taken up is a top or named, directly or through others, by one. -/
theorem exists_top (h : doc.Spans ids trees area) {id : NodeId} (hid : id ∈ area) :
    ∃ top ∈ ids, Relation.ReflTransGen doc.Names top id := by
  induction h with
  | nil => simp at hid
  | @cons top _ _ _ _ _ _ _ hcell _ _ ihbelow ihafter =>
    simp only [Multiset.mem_add, Multiset.mem_singleton] at hid
    rcases hid with (rfl | hid) | hid
    · exact ⟨id, by simp, .refl⟩
    · obtain ⟨child, hchild, hway⟩ := ihbelow hid
      have hnames : doc.Names top child := by simpa [Names, children_of_get? hcell] using hchild
      exact ⟨top, by simp, .head hnames hway⟩
    · obtain ⟨other, hother, hway⟩ := ihafter hid
      exact ⟨other, by simp [hother], hway⟩

theorem mem_area_of_way (h : doc.Spans ids trees area) {id below : NodeId} (hid : id ∈ area)
    (hway : Relation.ReflTransGen doc.Names id below) : below ∈ area := by
  induction hway with
  | refl => exact hid
  | tail _ hnames ih => exact h.mem_area_of_names ih hnames

/-- The nodes that the tree of the root takes up are those that can be reached. -/
theorem mem_area_iff_reachable (h : doc.Spans [root] trees area) {id : NodeId} :
    id ∈ area ↔ doc.Reachable id := by
  constructor
  · intro hid
    obtain ⟨top, htop, hway⟩ := h.exists_top hid
    rwa [List.mem_singleton.1 htop] at hway
  · exact h.mem_area_of_way (h.mem_area_of_mem (by simp))

/-- What holds of all trees of a document holds of all trees of nodes that can be reached. -/
theorem all_of_reachable (h : doc.Spans [root] trees area) {good : Markup → Prop}
    (hgood : Markup.All good trees) {lowerIds : List NodeId} {inner : List Markup}
    {below : Multiset NodeId} (hinner : doc.Spans lowerIds inner below)
    (hids : ∀ id ∈ lowerIds, doc.Reachable id) : Markup.All good inner := by
  intro tree htree
  obtain ⟨id, hid, inside, hspans⟩ := hinner.exists_id htree
  obtain ⟨top, htop, hway⟩ := hinner.exists_top hid
  obtain ⟨tree', htree', inside', hspans'⟩ :=
    h.exists_subtree (h.mem_area_iff_reachable.2 ((hids top htop).trans hway))
  obtain rfl : tree = tree' := by simpa using (hspans.unique hspans').1
  exact hgood tree htree'

/-- Trees get lower from a node to one that it names. -/
theorem height_lt_of_names {parent child : NodeId} {tree : Markup}
    (h : doc.Spans [parent] [tree] area) (hnames : doc.Names parent child) :
    ∃ lower lowerArea, doc.Spans [child] [lower] lowerArea ∧ lower.height < tree.height := by
  obtain ⟨kind, children, inner, below, heq, -, hcell, hbelow⟩ := h.of_singleton
  obtain rfl : tree = .node kind inner := by simpa using heq
  rw [Names, children_of_get? hcell] at hnames
  obtain ⟨lower, hlower, lowerArea, hspans⟩ := hbelow.exists_of_mem hnames
  exact ⟨lower, lowerArea, hspans, Nat.lt_succ_of_le (Markup.height_le_heights hlower)⟩

/-- Trees get lower on every way down. -/
theorem height_lt_of_transGen {id below : NodeId} {tree : Markup}
    (h : doc.Spans [id] [tree] area) (hway : Relation.TransGen doc.Names id below) :
    ∃ lower lowerArea, doc.Spans [below] [lower] lowerArea ∧ lower.height < tree.height := by
  induction hway with
  | single hnames => exact h.height_lt_of_names hnames
  | tail _ hnames ih =>
    obtain ⟨middle, middleArea, hmiddle, hlt⟩ := ih
    obtain ⟨lower, lowerArea, hlower, hlt'⟩ := hmiddle.height_lt_of_names hnames
    exact ⟨lower, lowerArea, hlower, hlt'.trans hlt⟩

/-- No node that is taken up lies below itself. -/
theorem not_transGen_self (h : doc.Spans ids trees area) {id : NodeId} (hid : id ∈ area) :
    ¬ Relation.TransGen doc.Names id id := by
  intro hway
  obtain ⟨tree, -, below, hspans⟩ := h.exists_subtree hid
  obtain ⟨lower, lowerArea, hlower, hlt⟩ := hspans.height_lt_of_transGen hway
  obtain rfl : tree = lower := by simpa using (hspans.unique hlower).1
  exact lt_irrefl _ hlt

/-- How often a node is taken up, in numbers. -/
theorem count_eq (h : doc.Spans ids trees area) (id : NodeId) :
    area.count id = ids.count id + (area.map fun parent ↦ (doc.children parent).count id).sum := by
  conv_lhs => rw [← h.add_children]
  rw [Multiset.count_add, Multiset.count_bind]
  simp

/-- If no node is taken up twice, no two places of child lists of nodes taken up hold the same. -/
theorem slot_unique (h : doc.Spans ids trees area) (hnodup : area.Nodup) {id : NodeId}
    {slot other : NodeId × Nat} (hslot : slot.1 ∈ area)
    (hid : (doc.children slot.1)[slot.2]? = some id) (hother : other.1 ∈ area)
    (hid' : (doc.children other.1)[other.2]? = some id) : slot = other := by
  have hle : (area.map fun parent ↦ (doc.children parent).count id).sum ≤ 1 := by
    have hcount := h.count_eq id
    have hone := Multiset.nodup_iff_count_le_one.1 hnodup id
    omega
  obtain ⟨rest, rfl⟩ := Multiset.exists_cons_of_mem hslot
  rw [Multiset.map_cons, Multiset.sum_cons] at hle
  have hpos : 0 < (doc.children slot.1).count id :=
    List.count_pos_iff.2 (List.mem_of_getElem? hid)
  have hparent : slot.1 = other.1 := by
    rcases Multiset.mem_cons.1 hother with heq | hmem
    · exact heq.symm
    · obtain ⟨rest', rfl⟩ := Multiset.exists_cons_of_mem hmem
      have hpos' : 0 < (doc.children other.1).count id :=
        List.count_pos_iff.2 (List.mem_of_getElem? hid')
      rw [Multiset.map_cons, Multiset.sum_cons] at hle
      omega
  refine Prod.ext hparent (count_le_one_iff.1 (by omega) _ _ hid ?_)
  rw [hparent, hid']

end Spans

/-- A document that stands for a tree without taking up a node twice has the shape of a tree. -/
theorem HasTreeShape.of_spans {doc : Document} {trees : List Markup} {area : Multiset NodeId}
    (h : doc.Spans [root] trees area) (hnodup : area.Nodup) : doc.HasTreeShape where
  exists_node id hreach := h.lt_size (h.mem_area_iff_reachable.2 hreach)
  one_slot id hreach hne := by
    rcases Relation.ReflTransGen.cases_tail hreach with heq | ⟨parent, hparent, hnames⟩
    · exact absurd heq hne
    · obtain ⟨index, hindex⟩ := List.mem_iff_getElem?.1 hnames
      refine ⟨(parent, index), ⟨hparent, hindex⟩, fun other hother ↦ ?_⟩
      exact h.slot_unique hnodup (h.mem_area_iff_reachable.2 hother.1) hother.2
        (h.mem_area_iff_reachable.2 hparent) hindex
  root_free id hreach hnames := by
    have hcount := h.count_eq root
    have hone := Multiset.nodup_iff_count_le_one.1 hnodup root
    obtain ⟨rest, hrest⟩ := Multiset.exists_cons_of_mem (h.mem_area_iff_reachable.2 hreach)
    have hpos : 0 < (doc.children id).count root := List.count_pos_iff.2 hnames
    have hsum : 0 < (area.map fun parent ↦ (doc.children parent).count root).sum := by
      rw [hrest, Multiset.map_cons, Multiset.sum_cons]
      omega
    have htop : [root].count root = 1 := by simp
    omega
  acyclic id hreach := h.not_transGen_self (h.mem_area_iff_reachable.2 hreach)

/-- It is a tree if also nothing is below what is written without content. -/
theorem IsTree.of_spans {doc : Document} {trees : List Markup} {area : Multiset NodeId}
    (h : doc.Spans [root] trees area) (hnodup : area.Nodup)
    (hbare : Markup.All Markup.IsBare trees) : doc.IsTree where
  exists_node := (HasTreeShape.of_spans h hnodup).exists_node
  one_slot := (HasTreeShape.of_spans h hnodup).one_slot
  root_free := (HasTreeShape.of_spans h hnodup).root_free
  acyclic := (HasTreeShape.of_spans h hnodup).acyclic
  leaves_bare id cell hreach hcell hleaf := by
    obtain ⟨tree, htree, below, hspans⟩ := h.exists_subtree (h.mem_area_iff_reachable.2 hreach)
    obtain ⟨inner, inside, heq, -, hbelow⟩ := hspans.of_singleton_get? hcell
    obtain rfl : tree = .node cell.kind inner := by simpa using heq
    have hnone : inner = [] := hbare _ htree hleaf
    exact List.length_eq_zero_iff.1 (by simp [hbelow.length_eq, hnone])

/-! ### From reachable nodes to trees -/

namespace HasTreeShape

variable {doc : Document}

/-- Nodes that each stand for a tree stand for trees together. -/
theorem exists_spans_of_forall {ids : List NodeId}
    (hids : ∀ id ∈ ids, ∃ tree below, doc.Spans [id] [tree] below) :
    ∃ trees area, doc.Spans ids trees area := by
  induction ids with
  | nil => exact ⟨[], 0, .nil⟩
  | cons id ids ih =>
    obtain ⟨tree, below, hid⟩ := hids id (by simp)
    obtain ⟨trees, area, hrest⟩ := ih fun other hother ↦ hids other (by simp [hother])
    exact ⟨tree :: trees, below + area, hid.append hrest⟩

/-- No way down goes on for ever. -/
theorem wellFounded (h : doc.HasTreeShape) :
    WellFounded fun lower upper : {id // doc.Reachable id} ↦
      Relation.TransGen doc.Names upper lower := by
  have hfinite : Finite {id // doc.Reachable id} :=
    Set.Finite.to_subtype ((Set.finite_lt_nat doc.size).subset fun id hid ↦ h.exists_node id hid)
  have htrans : IsTrans {id // doc.Reachable id} fun lower upper ↦
      Relation.TransGen doc.Names upper.1 lower.1 := ⟨fun _ _ _ hab hbc ↦ hbc.trans hab⟩
  have hirrefl : Std.Irrefl fun lower upper : {id // doc.Reachable id} ↦
      Relation.TransGen doc.Names upper.1 lower.1 := ⟨fun id ↦ h.acyclic id.1 id.2⟩
  exact Finite.wellFounded_of_trans_of_irrefl _

/-- Every node that can be reached stands for a tree. -/
theorem exists_spans (h : doc.HasTreeShape) (id : {id // doc.Reachable id}) :
    ∃ tree area, doc.Spans [id.1] [tree] area := by
  induction id using h.wellFounded.induction with
  | _ id ih =>
    obtain ⟨id, hreach⟩ := id
    obtain ⟨cell, hcell⟩ : ∃ cell, doc.get? id = some cell :=
      Option.ne_none_iff_exists'.1 fun hnone ↦
        absurd (get?_eq_none_iff.1 hnone) (not_le.2 (h.exists_node id hreach))
    have hchildren : ∀ child ∈ cell.children, ∃ tree below, doc.Spans [child] [tree] below := by
      intro child hchild
      have hnames : doc.Names id child := by rwa [Names, children_of_get? hcell]
      exact ih ⟨child, hreach.tail hnames⟩ (.single hnames)
    obtain ⟨trees, area, hspans⟩ := exists_spans_of_forall hchildren
    exact ⟨.node cell.kind trees, _, .singleton hcell hspans⟩

theorem sum_map_ite_eq (area : Multiset NodeId) (id : NodeId) :
    (area.map fun other ↦ if other = id then 1 else 0).sum = area.count id := by
  induction area using Multiset.induction with
  | empty => simp
  | cons other area ih =>
    simp only [Multiset.map_cons, Multiset.sum_cons, ih, Multiset.count_cons, eq_comm (a := id)]
    omega

/-- The tree of the root takes up no node twice. -/
theorem nodup (h : doc.HasTreeShape) {trees : List Markup} {area : Multiset NodeId}
    (hspans : doc.Spans [root] trees area) : area.Nodup := by
  rw [Multiset.nodup_iff_count_le_one]
  intro id
  by_cases hid : id ∈ area
  · refine le_of_eq ?_
    have hreach := hspans.mem_area_iff_reachable.1 hid
    clear hid
    induction hreach with
    | refl =>
      have hnone : ∀ parent ∈ area, (doc.children parent).count root = 0 := fun parent hparent ↦
        List.count_eq_zero.2 (h.root_free parent (hspans.mem_area_iff_reachable.1 hparent))
      rw [hspans.count_eq, Multiset.map_congr rfl hnone]
      simp
    | @tail parent id hparent hnames ih =>
      have hreach : doc.Reachable id := hparent.tail hnames
      have hne : id ≠ root := fun heq ↦ h.root_free parent hparent (heq ▸ hnames)
      have hcounts : ∀ other ∈ area,
          (doc.children other).count id = if other = parent then 1 else 0 := by
        intro other hother
        have hother := hspans.mem_area_iff_reachable.1 hother
        split_ifs with heq
        · subst heq
          refine le_antisymm (count_le_one_iff.2 fun i j hi hj ↦ ?_) (List.count_pos_iff.2 hnames)
          have hslot : (other, i) = (other, j) :=
            (h.one_slot id hreach hne).unique ⟨hother, hi⟩ ⟨hother, hj⟩
          exact (Prod.ext_iff.1 hslot).2
        · refine List.count_eq_zero.2 fun hmem ↦ heq ?_
          obtain ⟨i, hi⟩ := List.mem_iff_getElem?.1 hmem
          obtain ⟨j, hj⟩ := List.mem_iff_getElem?.1 hnames
          have hslot : (other, i) = (parent, j) :=
            (h.one_slot id hreach hne).unique ⟨hother, hi⟩ ⟨hparent, hj⟩
          exact (Prod.ext_iff.1 hslot).1
      have htop : [root].count id = 0 := List.count_eq_zero.2 (by simpa using hne)
      rw [hspans.count_eq, htop, Multiset.map_congr rfl hcounts, zero_add]
      rw [sum_map_ite_eq, ih]
  · simp [Multiset.count_eq_zero.2 hid]

end HasTreeShape

/-- The reachable part of a document has the shape of a tree if and only if its root stands for a
tree that takes up no node twice. -/
theorem hasTreeShape_iff {doc : Document} :
    doc.HasTreeShape ↔ ∃ tree area, doc.Spans [root] [tree] area ∧ area.Nodup := by
  constructor
  · intro h
    obtain ⟨tree, area, hspans⟩ := h.exists_spans ⟨root, .refl⟩
    exact ⟨tree, area, hspans, h.nodup hspans⟩
  · rintro ⟨tree, area, hspans, hnodup⟩
    exact .of_spans hspans hnodup

namespace IsTree

variable {doc : Document}

theorem leavesBare (h : doc.IsTree) {trees : List Markup} {area : Multiset NodeId}
    (hspans : doc.Spans [root] trees area) : Markup.All Markup.IsBare trees := by
  intro tree htree hleaf
  obtain ⟨id, hid, below, hsubtree⟩ := hspans.exists_id htree
  obtain ⟨kind, children, inner, inside, heq, -, hcell, hbelow⟩ := hsubtree.of_singleton
  obtain rfl : tree = .node kind inner := by simpa using heq
  have hbare : children = [] :=
    h.leaves_bare id ⟨kind, children⟩ (hspans.mem_area_iff_reachable.1 hid) hcell hleaf
  subst hbare
  cases hbelow
  rfl

end IsTree

/-- A document has the shape of a tree if and only if its root stands for a tree that takes up no
node twice and in which nothing is below what is written without content. -/
theorem isTree_iff {doc : Document} : doc.IsTree ↔ ∃ tree area, doc.Spans [root] [tree] area ∧
    area.Nodup ∧ Markup.All Markup.IsBare [tree] := by
  constructor
  · intro h
    obtain ⟨tree, area, hspans, hnodup⟩ := hasTreeShape_iff.1 h.hasTreeShape
    exact ⟨tree, area, hspans, hnodup, h.leavesBare hspans⟩
  · rintro ⟨tree, area, hspans, hnodup, hbare⟩
    exact .of_spans hspans hnodup hbare

end Document

/-! ### Writing -/

/-- In trees where nothing is below what is written without content, every tree is written. -/
theorem Markup.exists_writeAll_eq {lower : Markup} : ∀ trees : List Markup,
    All IsBare trees → lower ∈ subtreesAll trees →
      ∃ front back, writeAll trees = front ++ (lower.write ++ back)
  | [], _, hmem => by simp [subtreesAll] at hmem
  | .node kind inner :: rest, hbare, hmem => by
    obtain ⟨⟨htop, hinner⟩, hrest⟩ := All.cons.1 hbare
    simp only [subtreesAll, subtrees, List.cons_append, List.mem_cons, List.mem_append] at hmem
    rcases hmem with rfl | hmem | hmem
    · exact ⟨[], writeAll rest, rfl⟩
    · have hleaf : kind.isLeaf = false := by
        refine Bool.eq_false_iff.2 fun hleaf ↦ ?_
        obtain rfl : inner = [] := htop hleaf
        simp [subtreesAll] at hmem
      obtain ⟨front, back, heq⟩ := exists_writeAll_eq inner hinner hmem
      cases kind with
      | root => exact ⟨front, back ++ writeAll rest, by simp [writeAll, write, heq]⟩
      | element tag attrs =>
        rw [Kind.isLeaf] at hleaf
        exact ⟨startTag tag attrs ++ front, back ++ (endTag tag ++ writeAll rest),
          by simp [writeAll, write, heq, hleaf]⟩
      | text value => cases hleaf
      | raw markup => cases hleaf
    · obtain ⟨front, back, heq⟩ := exists_writeAll_eq rest hrest hmem
      exact ⟨write (.node kind inner) ++ front, back, by simp [writeAll, heq]⟩

/-- All that can be reached in a document of the shape of a tree is written. -/
theorem Document.IsTree.exists_write_eq {doc : Document} (h : doc.IsTree) {id : NodeId}
    (hid : doc.Reachable id) {tree : Markup} {below : Multiset NodeId}
    (htree : doc.Spans [id] [tree] below) :
    ∃ front back, doc.write = front ++ (tree.write ++ back) := by
  obtain ⟨top, area, hspans, hnodup, hbare⟩ := isTree_iff.1 h
  obtain ⟨tree', hmem, below', htree'⟩ :=
    hspans.exists_subtree (hspans.mem_area_iff_reachable.2 hid)
  obtain rfl : tree = tree' := by simpa using (htree.unique htree').1
  have hwrite := Markup.exists_writeAll_eq [top] hbare hmem
  rwa [Markup.writeAll, Markup.writeAll, List.append_nil, ← hspans.write_eq hnodup] at hwrite

end Galley.Html
