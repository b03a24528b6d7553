import Galley.Proofs.Enrich.Visits
import Galley.Proofs.Html.Acyclic

/-!
The outermost nodes of a kind in a document that is a tree, except that nodes of this kind may have
children that do not exist (`IsTreeBut`). They are the nodes that a walk visits which does not go on
below such a node (`mem_topsFrom_iff`). None of them is visited twice, and none lies below another.
-/

set_option autoImplicit false
set_option relaxedAutoImplicit false

namespace Galley.Html.Document

variable {doc : Document} {test : Kind → Bool} {id upper lower child top : NodeId}

/-- The part of a document that is reachable is a tree, in which only nodes of a certain kind may
have children that do not exist. -/
structure IsTreeBut (test : Kind → Bool) (doc : Document) : Prop where
  exists_root : root < doc.size
  exists_child : ∀ id, doc.Reachable id → doc.isOfKind test id = false →
    ∀ child, doc.Names id child → child < doc.size
  one_slot : ∀ id < doc.size, doc.Reachable id → id ≠ root → ∃! slot : NodeId × Nat,
    doc.Reachable slot.1 ∧ (doc.children slot.1)[slot.2]? = some id
  root_free : ∀ id, doc.Reachable id → ¬ doc.Names id root
  acyclic : doc.IsAcyclicFrom root

theorem HasTreeShape.isTreeBut (h : doc.HasTreeShape) (test : Kind → Bool) :
    doc.IsTreeBut test where
  exists_root := h.exists_node root .refl
  exists_child _ hid _ child hchild := h.exists_node child (hid.tail hchild)
  one_slot id _ := h.one_slot id
  root_free := h.root_free
  acyclic := h.acyclic

/-- A node of a certain kind lies below no other such node. -/
structure IsOutermost (test : Kind → Bool) (doc : Document) (id : NodeId) : Prop where
  reachable : doc.Reachable id
  kind : doc.isOfKind test id = true
  above : ∀ upper, doc.Reachable upper → Relation.TransGen doc.Names upper id →
    doc.isOfKind test upper = false

/-- A node that is not of a certain kind names another one. -/
def Leads (test : Kind → Bool) (doc : Document) (upper lower : NodeId) : Prop :=
  doc.Names upper lower ∧ doc.isOfKind test upper = false

theorem way_of_mem_topsFrom {depth : Nat} (hid : doc.isOfKind test id = false)
    (h : top ∈ doc.topsFrom test depth id) : Relation.TransGen (Leads test doc) id top := by
  induction depth generalizing id with
  | zero => cases h
  | succ depth ih =>
    obtain ⟨child, hchild, hmem⟩ := List.mem_flatMap.1 h
    split_ifs at hmem with hkind
    · rw [List.mem_singleton.1 hmem]
      exact .single ⟨hchild, hid⟩
    · exact .head ⟨hchild, hid⟩ (ih (by simpa using hkind) hmem)

theorem way_of_leads (h : Relation.ReflTransGen (Leads test doc) upper lower) :
    Relation.ReflTransGen doc.Names upper lower :=
  h.lift (fun id ↦ id) fun _ _ hleads ↦ hleads.1

theorem of_mem_branch {depth : Nat}
    (h : top ∈ if doc.isOfKind test child then [child] else doc.topsFrom test depth child) :
    Relation.ReflTransGen doc.Names child top ∧ doc.isOfKind test top = true := by
  split_ifs at h with hkind
  · obtain rfl := List.mem_singleton.1 h
    exact ⟨.refl, hkind⟩
  · have hway := way_of_mem_topsFrom (by simpa using hkind) h
    exact ⟨way_of_leads hway.to_reflTransGen, isOfKind_of_mem_topsFrom h⟩

theorem IsOutermost.way (h : doc.IsOutermost test id) :
    Relation.ReflTransGen (Leads test doc) root id := by
  have hway := h.reachable
  suffices hall : ∀ upper, doc.Reachable upper → Relation.ReflTransGen doc.Names upper id →
      Relation.ReflTransGen (Leads test doc) upper id from hall root .refl hway
  intro upper hupper hrest
  induction hrest using Relation.ReflTransGen.head_induction_on with
  | refl => exact .refl
  | @head upper middle hchild hrest ih =>
    have hkind := h.above upper hupper (.head' hchild hrest)
    exact .head ⟨hchild, hkind⟩ (ih (hupper.tail hchild))

namespace IsTreeBut

/-- A document is a tree, but for missing children, if all nodes come after those that name them and
none is named twice. -/
theorem of_ordered (hroot : root < doc.size)
    (hchildren : ∀ id < doc.size, doc.isOfKind test id = false →
      ∀ child ∈ doc.children id, child < doc.size)
    (hordered : ∀ id < doc.size, ∀ child ∈ doc.children id, id < child)
    (hnodup : ((List.range doc.size).flatMap doc.children).Nodup) : doc.IsTreeBut test := by
  have hlt {upper lower : NodeId} (hway : Relation.TransGen doc.Names upper lower) :
      upper < lower := by
    induction hway with
    | single hchild => exact hordered _ (lt_size_of_names hchild) _ hchild
    | tail _ hchild ih => exact ih.trans (hordered _ (lt_size_of_names hchild) _ hchild)
  obtain ⟨hlists, hdisjoint⟩ := List.nodup_flatMap.1 hnodup
  refine ⟨hroot, fun id _ hkind child hchild ↦ hchildren id (lt_size_of_names hchild) hkind child
    hchild, fun id _ hid hne ↦ ?_,
    fun id _ hchild ↦ absurd (hlt (.single hchild)) (Nat.not_lt_zero _),
    fun id _ hway ↦ lt_irrefl _ (hlt hway)⟩
  rcases Relation.ReflTransGen.cases_tail hid with heq | ⟨parent, hparent, hchild⟩
  · exact absurd heq hne
  · obtain ⟨index, hindex⟩ := List.mem_iff_getElem?.1 hchild
    refine ⟨(parent, index), ⟨hparent, hindex⟩, fun ⟨other, index'⟩ ⟨_, hindex'⟩ ↦ ?_⟩
    have hchild' : doc.Names other id := List.mem_of_getElem? hindex'
    have hmem := List.mem_range.2 (lt_size_of_names hchild)
    obtain rfl : other = parent := by
      by_contra hother
      have hmem' := List.mem_range.2 (lt_size_of_names hchild')
      have hsymm : Std.Symm (Function.onFun List.Disjoint doc.children) := ⟨fun _ _ h ↦ h.symm⟩
      exact hdisjoint.forall hmem' hmem hother hchild' hchild
    have hcount := List.nodup_iff_count_le_one.1 (hlists other hmem) id
    rw [count_le_one_iff.1 hcount index' index hindex' hindex]

theorem parent_unique (h : doc.IsTreeBut test) (hupper : doc.Reachable upper)
    (hlower : doc.Reachable lower) (hchild : doc.Names upper child)
    (hchild' : doc.Names lower child) (hlt : child < doc.size) : upper = lower := by
  have hne : child ≠ root := fun heq ↦ h.root_free upper hupper (heq ▸ hchild)
  obtain ⟨i, hi⟩ := List.mem_iff_getElem?.1 hchild
  obtain ⟨j, hj⟩ := List.mem_iff_getElem?.1 hchild'
  have hslot : (upper, i) = (lower, j) :=
    (h.one_slot child hlt (hupper.tail hchild) hne).unique ⟨hupper, hi⟩ ⟨hlower, hj⟩
  exact (Prod.ext_iff.1 hslot).1

theorem nodup_children (h : doc.IsTreeBut test) (hid : doc.Reachable id)
    (hkind : doc.isOfKind test id = false) : (doc.children id).Nodup := by
  rw [List.nodup_iff_count_le_one]
  intro child
  refine count_le_one_iff.2 fun i j hi hj ↦ ?_
  have hchild : doc.Names id child := List.mem_of_getElem? hi
  have hne : child ≠ root := fun heq ↦ h.root_free id hid (heq ▸ hchild)
  have hslot : (id, i) = (id, j) :=
    (h.one_slot child (h.exists_child id hid hkind child hchild) (hid.tail hchild) hne).unique
      ⟨hid, hi⟩ ⟨hid, hj⟩
  exact (Prod.ext_iff.1 hslot).2

/-- Of two nodes above a third one, one lies above the other. -/
theorem way_or_way (h : doc.IsTreeBut test) (hupper : doc.Reachable upper)
    (hlower : doc.Reachable lower) (hfirst : Relation.ReflTransGen doc.Names upper id)
    (hsecond : Relation.ReflTransGen doc.Names lower id) (hlt : id < doc.size) :
    Relation.ReflTransGen doc.Names upper lower ∨ Relation.ReflTransGen doc.Names lower upper := by
  induction hfirst with
  | refl => exact .inr hsecond
  | @tail middle id hfirst hchild ih =>
    rcases Relation.ReflTransGen.cases_tail hsecond with rfl | ⟨other, hsecond, hchild'⟩
    · exact .inl (hfirst.tail hchild)
    · obtain rfl := h.parent_unique (hupper.trans hfirst) (hlower.trans hsecond) hchild hchild' hlt
      exact ih hsecond (lt_size_of_names hchild)

/-- No child of a node lies below another one. -/
theorem child_eq_of_way (h : doc.IsTreeBut test) (hid : doc.Reachable id)
    (hupper : doc.Names id upper) (hlower : doc.Names id lower) (hlt : lower < doc.size)
    (hway : Relation.ReflTransGen doc.Names upper lower) : upper = lower := by
  rcases Relation.ReflTransGen.cases_tail hway with heq | ⟨parent, hway, hparent⟩
  · exact heq.symm
  · have hreach := (hid.tail hupper).trans hway
    obtain rfl := h.parent_unique hreach hid hparent hlower hlt
    exact absurd (Relation.TransGen.head' hupper hway) (h.acyclic _ hid)

/-- Above the end of a way past other nodes there are only these. -/
theorem above_of_way (h : doc.IsTreeBut test)
    (hway : Relation.ReflTransGen (Leads test doc) root id) (hlt : id < doc.size)
    (hupper : doc.Reachable upper) (hbelow : Relation.TransGen doc.Names upper id) :
    doc.isOfKind test upper = false := by
  induction hway with
  | refl =>
    obtain ⟨parent, hparent, hroot⟩ := Relation.TransGen.tail'_iff.1 hbelow
    exact absurd hroot (h.root_free parent (hupper.trans hparent))
  | @tail middle id hway hchild ih =>
    obtain ⟨parent, hparent, hchild'⟩ := Relation.TransGen.tail'_iff.1 hbelow
    have hmiddle : doc.Reachable middle := way_of_leads hway
    obtain rfl := h.parent_unique hmiddle (hupper.trans hparent) hchild.1 hchild' hlt
    rcases Relation.reflTransGen_iff_eq_or_transGen.1 hparent with rfl | hparent
    · exact hchild.2
    · exact ih (lt_size_of_names hchild.1) hparent

theorem mem_topsFrom_of_way (h : doc.IsTreeBut test) {depth : Nat} (hid : doc.Reachable id)
    (hway : Relation.TransGen (Leads test doc) id top) (htop : doc.isOfKind test top = true)
    (hdepth : (doc.below id).card < depth) : top ∈ doc.topsFrom test depth id := by
  induction depth generalizing id with
  | zero => exact absurd hdepth (Nat.not_lt_zero _)
  | succ depth ih =>
    obtain ⟨child, ⟨hchild, -⟩, hrest⟩ := Relation.TransGen.head'_iff.1 hway
    refine List.mem_flatMap.2 ⟨child, hchild, ?_⟩
    rcases Relation.reflTransGen_iff_eq_or_transGen.1 hrest with rfl | hrest
    · rw [if_pos htop]
      exact List.mem_singleton_self top
    · obtain ⟨next, ⟨hnext, hkind⟩, -⟩ := Relation.TransGen.head'_iff.1 hrest
      have hfewer := (h.acyclic.of_way hid).card_below_lt hchild (lt_size_of_names hnext)
      rw [hkind, if_neg Bool.false_ne_true]
      exact ih (hid.tail hchild) hrest (by omega)

/-- The nodes of a kind that a walk comes to first are the outermost ones. -/
theorem mem_topsFrom_iff (h : doc.IsTreeBut test) (hroot : doc.isOfKind test root = false) :
    top ∈ doc.topsFrom test doc.size root ↔ doc.IsOutermost test top := by
  constructor
  · intro hmem
    have hway := (way_of_mem_topsFrom hroot hmem).to_reflTransGen
    have hkind := isOfKind_of_mem_topsFrom hmem
    exact ⟨way_of_leads hway, hkind,
      fun upper ↦ h.above_of_way hway (lt_size_of_isOfKind hkind)⟩
  · intro htop
    rcases Relation.reflTransGen_iff_eq_or_transGen.1 htop.way with rfl | hway
    · rw [htop.kind] at hroot
      cases hroot
    · exact h.mem_topsFrom_of_way .refl hway htop.kind (h.acyclic.card_below_lt_size h.exists_root)

/-- A walk comes to no such node twice. -/
theorem nodup_topsFrom (h : doc.IsTreeBut test) (depth : Nat) (hid : doc.Reachable id)
    (hkind : doc.isOfKind test id = false) : (doc.topsFrom test depth id).Nodup := by
  induction depth generalizing id with
  | zero => exact List.nodup_nil
  | succ depth ih =>
    refine List.nodup_flatMap.2 ⟨fun child hchild ↦ ?_, ?_⟩
    · split_ifs with hchildKind
      · exact List.nodup_singleton child
      · exact ih (hid.tail hchild) (by simpa using hchildKind)
    · refine (h.nodup_children hid hkind).imp_of_mem fun {first second} hfirst hsecond hne ↦ ?_
      -- a node that both children lead to puts one of them below the other
      refine List.disjoint_left.2 fun top htop htop' ↦ hne ?_
      obtain ⟨hway, htopKind⟩ := of_mem_branch htop
      obtain ⟨hway', -⟩ := of_mem_branch htop'
      rcases h.way_or_way (hid.tail hfirst) (hid.tail hsecond) hway hway'
        (lt_size_of_isOfKind htopKind) with hway | hway
      · exact h.child_eq_of_way hid hfirst hsecond (h.exists_child id hid hkind _ hsecond) hway
      · have hlt := h.exists_child id hid hkind _ hfirst
        exact (h.child_eq_of_way hid hsecond hfirst hlt hway).symm

end IsTreeBut

end Galley.Html.Document
