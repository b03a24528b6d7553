import Galley.Proofs.Html.TreeShape

/-!
Documents without circles, in which nodes may be named that do not exist. The way down from a node
leads past fewer and fewer nodes, so that as many levels as there are nodes are enough to find
whatever lies below it (`IsAcyclicFrom.anyDescendant_iff`) and to write all of it
(`IsAcyclicFrom.writeFrom_eq_write`). A new node that takes over the children of another one brings
no circle, unless it was named below that one (`IsAcyclicFrom.wrap`).
-/

set_option autoImplicit false
set_option relaxedAutoImplicit false

namespace Galley.Html.Document

variable {doc after : Document} {top id lower child : NodeId}

/-- No node at or below the given one lies below itself. -/
def IsAcyclicFrom (doc : Document) (top : NodeId) : Prop :=
  ∀ id, Relation.ReflTransGen doc.Names top id → ¬ Relation.TransGen doc.Names id id

/-- The nodes that exist below a node. -/
noncomputable def below (doc : Document) (id : NodeId) : Finset NodeId :=
  @Finset.filter _ (Relation.TransGen doc.Names id) (Classical.decPred _) (Finset.range doc.size)

theorem mem_below :
    lower ∈ doc.below id ↔ lower < doc.size ∧ Relation.TransGen doc.Names id lower := by
  rw [below, @Finset.mem_filter, Finset.mem_range]

theorem lt_size_of_names (h : doc.Names id child) : id < doc.size := by
  by_contra hid
  rw [Names, children, get?_eq_none_iff.2 (not_lt.1 hid)] at h
  cases h

/-- There are no circles below what stands for a tree. -/
theorem Spans.isAcyclicFrom {ids : List NodeId} {trees : List Markup} {area : Multiset NodeId}
    (h : doc.Spans ids trees area) (hid : id ∈ area) : doc.IsAcyclicFrom id :=
  fun _ hway ↦ h.not_transGen_self (h.mem_area_of_way hid hway)

theorem exists_of_anyBelow {test : Cell → Bool} {depth : Nat}
    (h : doc.anyBelow test depth id = true) :
    ∃ lower, Relation.TransGen doc.Names id lower ∧ (doc.get? lower).any test = true := by
  induction depth generalizing id with
  | zero => cases h
  | succ depth ih =>
    obtain ⟨child, hchild, hfound⟩ := List.any_eq_true.1 h
    rcases Bool.or_eq_true_iff.1 hfound with htest | hbelow
    · exact ⟨child, .single hchild, htest⟩
    · obtain ⟨lower, hway, htest⟩ := ih hbelow
      exact ⟨lower, .head hchild hway, htest⟩

theorem writeFrom_of_missing (h : doc.size ≤ id) (depth : Nat) : doc.writeFrom depth id = [] := by
  cases depth with
  | zero => rfl
  | succ depth => rw [writeFrom, get?_eq_none_iff.2 h]

namespace IsAcyclicFrom

theorem of_way (h : doc.IsAcyclicFrom top) (hway : Relation.ReflTransGen doc.Names top id) :
    doc.IsAcyclicFrom id :=
  fun other hother ↦ h other (hway.trans hother)

theorem card_below_lt (h : doc.IsAcyclicFrom id) (hchild : doc.Names id child)
    (hlt : child < doc.size) : (doc.below child).card < (doc.below id).card := by
  refine Finset.card_lt_card ⟨fun lower hlower ↦ ?_, fun hsubset ↦ ?_⟩
  · rw [mem_below] at hlower ⊢
    exact ⟨hlower.1, .head hchild hlower.2⟩
  · have hself := hsubset (mem_below.2 ⟨hlt, .single hchild⟩)
    exact h child (.single hchild) (mem_below.1 hself).2

theorem card_below_lt_size (h : doc.IsAcyclicFrom id) (hid : id < doc.size) :
    (doc.below id).card < doc.size := by
  have hlt : (doc.below id).card < (Finset.range doc.size).card := by
    refine Finset.card_lt_card ⟨fun lower hlower ↦ ?_, fun hsubset ↦ ?_⟩
    · exact Finset.mem_range.2 (mem_below.1 hlower).1
    · exact h id .refl (mem_below.1 (hsubset (Finset.mem_range.2 hid))).2
  rwa [Finset.card_range] at hlt

/-- What lies below a node is found, also after changes elsewhere and of what did not exist. -/
theorem anyBelow_of_way {test : Cell → Bool} {depth : Nat} (h : doc.IsAcyclicFrom id)
    (hkept : ∀ other < doc.size, Relation.ReflTransGen doc.Names id other →
      after.get? other = doc.get? other)
    (hway : Relation.TransGen doc.Names id lower) (htest : (after.get? lower).any test = true)
    (hdepth : (doc.below id).card < depth) : after.anyBelow test depth id = true := by
  -- the depth suffices since a child has fewer nodes below it, as there is no circle
  induction depth generalizing id with
  | zero => exact absurd hdepth (Nat.not_lt_zero _)
  | succ depth ih =>
    obtain ⟨child, hchild, hrest⟩ := Relation.TransGen.head'_iff.1 hway
    have hsame := hkept id (lt_size_of_names hchild) .refl
    refine List.any_eq_true.2 ⟨child, ?_, Bool.or_eq_true_iff.2 ?_⟩
    · rwa [children, hsame, ← children]
    · rcases Relation.reflTransGen_iff_eq_or_transGen.1 hrest with rfl | hrest
      · exact .inl htest
      · obtain ⟨next, hnext, -⟩ := Relation.TransGen.head'_iff.1 hrest
        have hlt := h.card_below_lt hchild (lt_size_of_names hnext)
        exact .inr (ih (h.of_way (.single hchild))
          (fun other hother hway ↦ hkept other hother (.head hchild hway)) hrest (by omega))

/-- A search below a node finds whatever lies there. -/
theorem anyDescendant_iff {test : Cell → Bool} (h : doc.IsAcyclicFrom id) (hid : id < doc.size) :
    doc.anyDescendant id test = true ↔
      ∃ lower, Relation.TransGen doc.Names id lower ∧ (doc.get? lower).any test = true := by
  constructor
  · exact exists_of_anyBelow
  · rintro ⟨lower, hway, htest⟩
    exact h.anyBelow_of_way (fun _ _ _ ↦ rfl) hway htest (h.card_below_lt_size hid)

/-- Nothing more is written of a node if it is read further down than there are nodes below it. -/
theorem writeFrom_succ {depth : Nat} (h : doc.IsAcyclicFrom id)
    (hdepth : (doc.below id).card < depth) :
    doc.writeFrom (depth + 1) id = doc.writeFrom depth id := by
  induction depth generalizing id with
  | zero => exact absurd hdepth (Nat.not_lt_zero _)
  | succ depth ih =>
    have hchildren : (doc.children id).flatMap (doc.writeFrom (depth + 1)) =
        (doc.children id).flatMap (doc.writeFrom depth) := by
      refine List.flatMap_congr fun child hchild ↦ ?_
      by_cases hlt : child < doc.size
      · have hfewer := h.card_below_lt hchild hlt
        exact ih (h.of_way (.single hchild)) (by omega)
      · rw [writeFrom_of_missing (not_lt.1 hlt), writeFrom_of_missing (not_lt.1 hlt)]
    rw [writeFrom, writeFrom]
    rcases hcell : doc.get? id with _ | ⟨kind, children⟩
    · rfl
    · rw [children_of_get? hcell] at hchildren
      cases kind <;> simp only [hchildren]

/-- A document without circles is written in full: to read it further down changes nothing. -/
theorem writeFrom_eq_write (h : doc.IsAcyclicFrom root) (hroot : root < doc.size) {depth : Nat}
    (hdepth : doc.size ≤ depth) : doc.writeFrom depth root = doc.write := by
  have hcard := h.card_below_lt_size hroot
  induction depth, hdepth using Nat.le_induction with
  | base => rfl
  | succ depth hdepth ih => rw [h.writeFrom_succ (hcard.trans_le hdepth), ih]

theorem congr (h : doc.IsAcyclicFrom top) (hsame : ∀ id, after.children id = doc.children id) :
    after.IsAcyclicFrom top := by
  have hnames : after.Names = doc.Names := by
    funext upper lower
    rw [Names, Names, hsame]
  rwa [IsAcyclicFrom, hnames]

end IsAcyclicFrom

/-! ### A node in between -/

section Wrap

variable {new upper : NodeId}

/-- A way leads on as it did before, or else through a node whose children have changed. -/
theorem way_or_through {isChanged : NodeId → Prop}
    (hsame : ∀ other, ¬ isChanged other → after.children other = doc.children other)
    (hway : Relation.TransGen after.Names upper lower) :
    Relation.TransGen doc.Names upper lower ∨ ∃ middle, isChanged middle ∧
      Relation.ReflTransGen after.Names upper middle ∧
        Relation.TransGen after.Names middle lower := by
  induction hway with
  | @single lower hchild =>
    by_cases hupper : isChanged upper
    · exact .inr ⟨upper, hupper, .refl, .single hchild⟩
    · exact .inl (.single (by rwa [Names, hsame upper hupper] at hchild))
  | @tail middle lower hway hchild ih =>
    rcases ih with hold | ⟨between, hbetween, hfirst, hsecond⟩
    · by_cases hmiddle : isChanged middle
      · exact .inr ⟨middle, hmiddle, hway.to_reflTransGen, .single hchild⟩
      · exact .inl (hold.tail (by rwa [Names, hsame middle hmiddle] at hchild))
    · exact .inr ⟨between, hbetween, hfirst, hsecond.tail hchild⟩

/-- What lies below a new node lay below the node that it has the children of. -/
theorem way_of_way_new (hnew : after.children new = doc.children id)
    (hothers : ∀ other, other ≠ id → other ≠ new → after.children other = doc.children other)
    (hcircle : ¬ Relation.TransGen doc.Names id id) (hfresh : ¬ Relation.TransGen doc.Names id new)
    (hway : Relation.TransGen after.Names new lower) : Relation.TransGen doc.Names id lower := by
  induction hway with
  | single hchild => exact .single (by rwa [Names, hnew] at hchild)
  | @tail middle lower _ hchild ih =>
    have hmiddle : middle ≠ id := fun heq ↦ hcircle (heq ▸ ih)
    have hmiddle' : middle ≠ new := fun heq ↦ hfresh (heq ▸ ih)
    exact ih.tail (by rwa [Names, hothers middle hmiddle hmiddle'] at hchild)

/-- The new node is all that is reached and was not before. -/
theorem reachable_or_eq_new (hreach : doc.Reachable id) (hid : after.children id = [new])
    (hnew : after.children new = doc.children id)
    (hothers : ∀ other, other ≠ id → other ≠ new → after.children other = doc.children other)
    (hlower : after.Reachable lower) : doc.Reachable lower ∨ lower = new := by
  induction hlower with
  | refl => exact .inl .refl
  | @tail middle lower _ hchild ih =>
    by_cases hmiddle' : middle = new
    · rw [hmiddle', Names, hnew] at hchild
      exact .inl (hreach.tail hchild)
    · by_cases hmiddle : middle = id
      · rw [hmiddle, Names, hid] at hchild
        exact .inr (List.mem_singleton.1 hchild)
      · rw [Names, hothers middle hmiddle hmiddle'] at hchild
        exact .inl ((ih.resolve_right hmiddle').tail hchild)

/-- A new node takes over the children of another one, whose only child it becomes. No circle arises
if it was not named below that one before. -/
theorem IsAcyclicFrom.wrap (h : doc.IsAcyclicFrom root) (hreach : doc.Reachable id)
    (hne : id ≠ new) (hid : after.children id = [new]) (hnew : after.children new = doc.children id)
    (hothers : ∀ other, other ≠ id → other ≠ new → after.children other = doc.children other)
    (hfresh : ¬ Relation.TransGen doc.Names id new) : after.IsAcyclicFrom root := by
  have hbelow {lower : NodeId} : Relation.TransGen after.Names new lower →
      Relation.TransGen doc.Names id lower :=
    way_of_way_new hnew hothers (h id hreach) hfresh
  have hnoNew : ¬ Relation.TransGen after.Names new new := fun hway ↦ hfresh (hbelow hway)
  have hnoId : ¬ Relation.TransGen after.Names id id := by
    intro hway
    obtain ⟨child, hchild, hrest⟩ := Relation.TransGen.head'_iff.1 hway
    obtain rfl : child = new := by simpa [Names, hid] using hchild
    rcases Relation.reflTransGen_iff_eq_or_transGen.1 hrest with heq | hrest
    · exact hne heq
    · exact h id hreach (hbelow hrest)
  have hsame (other : NodeId) (hother : ¬ (other = id ∨ other = new)) :
      after.children other = doc.children other :=
    hothers other (fun heq ↦ hother (.inl heq)) fun heq ↦ hother (.inr heq)
  intro lower hlower hway
  -- a circle through neither of the two nodes was there before
  rcases way_or_through hsame hway with hold | ⟨middle, rfl | rfl, hfirst, hsecond⟩
  · rcases reachable_or_eq_new hreach hid hnew hothers hlower with hlower | rfl
    · exact h lower hlower hold
    · exact hnoNew hway
  · exact hnoId (hsecond.trans_left hfirst)
  · exact hnoNew (hsecond.trans_left hfirst)

end Wrap

end Galley.Html.Document
