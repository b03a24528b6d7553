import Galley.Enrich.Walk
import Galley.Proofs.Html.Change

/-!
What a pass does to a tree. A `Rewrite` says for a tree whether its top is left alone, so that the
trees below it are rewritten in turn, or another tree takes its place; it may look at a state, which
the next tree sees changed. A visitor that does at every node what a rewrite says (`Follows`) makes
of a document, wherever its nodes stand, one that stands for the rewritten tree, and it never fails
(`walk_follows`).
-/

set_option autoImplicit false
set_option relaxedAutoImplicit false

namespace Galley.Enrich

open Html

/-- What becomes of a tree, and the state after it; nothing if the trees below it are looked at. -/
abbrev Rewrite (σ : Type) := σ → Markup → Option (σ × Markup)

namespace Rewrite

variable {σ : Type}

mutual

/-- Rewrites a tree. -/
def tree (rewrite : Rewrite σ) (state : σ) : Markup → σ × Markup
  | .node kind children =>
    match rewrite state (.node kind children) with
    | some result => result
    | none =>
      let (state, children) := trees rewrite state children
      (state, .node kind children)

/-- Rewrites trees one after the other. -/
def trees (rewrite : Rewrite σ) (state : σ) : List Markup → σ × List Markup
  | [] => (state, [])
  | top :: rest =>
    let (state, top) := tree rewrite state top
    let (state, rest) := trees rewrite state rest
    (state, top :: rest)

end

/-- Trees of one property are rewritten to trees of another if that holds where another tree takes
the place of one, and where only the trees below one are rewritten. -/
structure Carries (rewrite : Rewrite σ) (before after : Markup → Prop) : Prop where
  replace : ∀ state tree result, rewrite state tree = some result → Markup.All before [tree] →
    Markup.All after [result.2]
  descend : ∀ state kind inner, rewrite state (.node kind inner) = none →
    before (.node kind inner) → Markup.All after (trees rewrite state inner).2 →
      after (.node kind (trees rewrite state inner).2)

/-- A property is kept by a rewrite. -/
abbrev Keeps (rewrite : Rewrite σ) (good : Markup → Prop) : Prop := Carries rewrite good good

mutual

theorem Carries.tree {rewrite : Rewrite σ} {before after : Markup → Prop}
    (h : rewrite.Carries before after) (state : σ) : ∀ top : Markup, Markup.All before [top] →
      Markup.All after [(rewrite.tree state top).2]
  | .node kind inner, hgood => by
    rw [Rewrite.tree]
    cases hrewrite : rewrite state (.node kind inner) with
    | some result => exact h.replace state _ result hrewrite hgood
    | none =>
      rw [Markup.All.singleton] at hgood ⊢
      have hinner := h.trees state inner hgood.2
      exact ⟨h.descend state kind inner hrewrite hgood.1 hinner, hinner⟩

theorem Carries.trees {rewrite : Rewrite σ} {before after : Markup → Prop}
    (h : rewrite.Carries before after) (state : σ) : ∀ tops : List Markup,
      Markup.All before tops → Markup.All after (rewrite.trees state tops).2
  | [], _ => .nil
  | top :: rest, hgood => by
    have htop := h.tree state top (Markup.All.singleton.2 (Markup.All.cons.1 hgood).1)
    have hrest := h.trees (rewrite.tree state top).1 rest (Markup.All.cons.1 hgood).2
    rw [Rewrite.trees]
    exact Markup.All.cons.2 ⟨Markup.All.singleton.1 htop, hrest⟩

end

mutual

/-- What every replacement keeps of the state, a rewrite keeps. -/
theorem tree_state {rewrite : Rewrite σ} (good : σ → Prop)
    (h : ∀ state tree result, rewrite state tree = some result → good state → good result.1) :
    ∀ (top : Markup) (state : σ), good state → good (rewrite.tree state top).1
  | .node kind inner, state, hgood => by
    rw [Rewrite.tree]
    cases hrewrite : rewrite state (.node kind inner) with
    | some result => exact h state _ result hrewrite hgood
    | none => exact trees_state good h inner state hgood

theorem trees_state {rewrite : Rewrite σ} (good : σ → Prop)
    (h : ∀ state tree result, rewrite state tree = some result → good state → good result.1) :
    ∀ (tops : List Markup) (state : σ), good state → good (rewrite.trees state tops).1
  | [], _, hgood => hgood
  | top :: rest, state, hgood => trees_state good h rest _ (tree_state good h top state hgood)

end

mutual

/-- What is read of the nodes of good trees gets no longer by a rewrite, and keeps its order, if so
it is where another tree takes the place of one. -/
theorem tree_sublist {α : Type} {rewrite : Rewrite σ} {good : Markup → Prop}
    (read : Kind → Option α)
    (h : ∀ state tree result, rewrite state tree = some result → Markup.All good [tree] →
      ((Markup.subtreesAll [result.2]).filterMap (read ·.kind)).Sublist
        ((Markup.subtreesAll [tree]).filterMap (read ·.kind))) :
    ∀ (top : Markup) (state : σ), Markup.All good [top] →
      ((Markup.subtreesAll [(rewrite.tree state top).2]).filterMap (read ·.kind)).Sublist
        ((Markup.subtreesAll [top]).filterMap (read ·.kind))
  | .node kind inner, state, hgood => by
    have hinner := trees_sublist read h inner state (Markup.All.singleton.1 hgood).2
    rw [Rewrite.tree]
    cases hrewrite : rewrite state (.node kind inner) with
    | some result => exact h state _ result hrewrite hgood
    | none =>
      simp only [Markup.subtreesAll, Markup.subtrees, List.append_nil]
      cases hread : read kind with
      | none => simpa [Markup.kind, hread] using hinner
      | some value => simpa [Markup.kind, hread] using hinner

theorem trees_sublist {α : Type} {rewrite : Rewrite σ} {good : Markup → Prop}
    (read : Kind → Option α)
    (h : ∀ state tree result, rewrite state tree = some result → Markup.All good [tree] →
      ((Markup.subtreesAll [result.2]).filterMap (read ·.kind)).Sublist
        ((Markup.subtreesAll [tree]).filterMap (read ·.kind))) :
    ∀ (tops : List Markup) (state : σ), Markup.All good tops →
      ((Markup.subtreesAll (rewrite.trees state tops).2).filterMap (read ·.kind)).Sublist
        ((Markup.subtreesAll tops).filterMap (read ·.kind))
  | [], _, _ => List.Sublist.refl _
  | top :: rest, state, hgood => by
    rw [Markup.All.cons, ← Markup.All.singleton] at hgood
    have htop := tree_sublist read h top state hgood.1
    have hrest := trees_sublist read h rest (rewrite.tree state top).1 hgood.2
    rw [Rewrite.trees]
    simp only [Markup.subtreesAll, List.append_nil, List.filterMap_append] at htop ⊢
    exact htop.append hrest

end

end Rewrite

/-! ### Visitors that follow a rewrite -/

/-- A visit leaves a node that stands for a tree: the one visited, or one that takes its place. -/
def Leaves {σ : Type} (p : Progress σ) (result : Progress σ × Except EnrichError Visit)
    (id : NodeId) (area : Multiset NodeId) (after : (σ × Diagnostics) × Markup) : Prop :=
  ∃ doc outcome id' new, result = (⟨after.1.1, doc, after.1.2⟩, .ok outcome) ∧
    (outcome = .skip ∧ id' = id ∨ outcome = .replace id') ∧ doc.Spans [id'] [after.2] new ∧
      Document.Change p.doc doc area new

/-- A visitor does at every node of a tree what a rewrite says. -/
def Follows {σ : Type} (visit : Visitor σ) (rewrite : Rewrite (σ × Diagnostics)) : Prop :=
  ∀ (p : Progress σ) id tree area, p.doc.Spans [id] [tree] area → area.Nodup →
    match rewrite (p.state, p.diagnostics) tree with
    | none => visit p id = (p, .ok .descend)
    | some after => Leaves p (visit p id) id area after

variable {σ : Type} {visit : Visitor σ} {rewrite : Rewrite (σ × Diagnostics)}

/-- A walk below the node of a tree, of bounded height, makes of it the rewritten tree. -/
def Walks (rewrite : Rewrite (σ × Diagnostics)) (depth : Nat)
    (below : Progress σ → NodeId → Progress σ × Option EnrichError) : Prop :=
  ∀ (p : Progress σ) id kind inner area, p.doc.Spans [id] [.node kind inner] area → area.Nodup →
    Markup.heights inner ≤ depth →
      ∀ state diagnostics inner', rewrite.trees (p.state, p.diagnostics) inner =
          ((state, diagnostics), inner') →
        ∃ doc new, below p id = (⟨state, doc, diagnostics⟩, none) ∧
          doc.Spans [id] [.node kind inner'] new ∧ Document.Change p.doc doc area new

section Children

variable {below : Progress σ → NodeId → Progress σ × Option EnrichError} {depth : Nat}
  {p : Progress σ} {parent child : NodeId} {kind : Kind} {front rest : List NodeId}
  {area : Multiset NodeId} {state : σ} {diagnostics : Diagnostics}

/-- The visit of one child puts what its tree is rewritten to in its place. -/
theorem visitChild_follows (name : List Char) (hfollows : Follows visit rewrite)
    (hbelow : Walks rewrite depth below)
    (hparent : p.doc.get? parent = some ⟨kind, front ++ child :: rest⟩) {top top' : Markup}
    (hchild : p.doc.Spans [child] [top] area) (hnodup : ({parent} + area).Nodup)
    (hheight : top.height ≤ depth + 1)
    (hafter : rewrite.tree (p.state, p.diagnostics) top = ((state, diagnostics), top')) :
    ∃ doc child' new, visitChild name visit below parent front.length child p =
        (⟨state, doc, diagnostics⟩, none) ∧
      doc.get? parent = some ⟨kind, front ++ child' :: rest⟩ ∧ doc.Spans [child'] [top'] new ∧
        Document.Change p.doc doc ({parent} + area) ({parent} + new) := by
  have hapart : parent ∉ area ∧ area.Nodup := by
    rwa [Multiset.singleton_add, Multiset.nodup_cons] at hnodup
  have hkept : ∀ doc new, Document.Change p.doc doc area new →
      doc.get? parent = some ⟨kind, front ++ child :: rest⟩ := fun doc new hchange ↦ by
    rw [hchange.kept parent (Document.lt_size_of_get? hparent) hapart.1, hparent]
  have hmem : child ∈ area := hchild.mem_area_of_mem (List.mem_singleton_self child)
  obtain ⟨cell, hget⟩ := Document.get_of_lt_size (hchild.lt_size hmem)
  obtain ⟨kind', inner⟩ := top
  have hvisit := hfollows p child _ area hchild hapart.2
  cases hrewrite : rewrite (p.state, p.diagnostics) (.node kind' inner) with
  | none =>
    simp only [hrewrite] at hvisit
    simp only [Rewrite.tree, hrewrite, Prod.mk.injEq] at hafter
    obtain ⟨hstate, rfl⟩ := hafter
    obtain ⟨doc, new, hrun, hspans, hchange⟩ := hbelow p child kind' inner area hchild hapart.2
      (by simpa [Markup.height] using hheight) state diagnostics _ (Prod.ext hstate rfl)
    refine ⟨doc, child, new, ?_, hkept doc new hchange, hspans, hchange.add_left _⟩
    simp [visitChild, hget, hvisit, hrun]
  | some result =>
    simp only [hrewrite] at hvisit
    simp only [Rewrite.tree, hrewrite] at hafter
    subst hafter
    obtain ⟨doc, outcome, id', new, hresult, houtcome, hspans, hchange⟩ := hvisit
    have hparent' : doc.get? parent = some ⟨kind, front ++ child :: rest⟩ := hkept doc new hchange
    rcases houtcome with ⟨rfl, rfl⟩ | rfl
    · refine ⟨doc, id', new, ?_, hparent', hspans, hchange.add_left _⟩
      simp only [visitChild, hget, hresult]
    · have hfresh : parent ∉ new := hchange.notMem (Document.lt_size_of_get? hparent) hapart.1
      have hid : id' < doc.size := hspans.lt_size (hspans.mem_area_of_mem (by simp))
      have hindex : front.length < (front ++ child :: rest).length := by simp
      have hreplace := Document.replaceChild_eq_ok hparent' hindex hid
      refine ⟨doc.modifyChildren parent (·.set front.length id'), id', new, ?_, ?_,
        hspans.modifyChildren hfresh _, ?_⟩
      · simp only [visitChild, hget, hresult, hreplace]
      · rw [Document.get?_modifyChildren_self hparent']
        simp
      · exact (hchange.add_left _).trans (.modifyChildren doc (by simp) _)

/-- The visits of children put what their trees are rewritten to in their places. -/
theorem visitChildren_follows (name : List Char) (hfollows : Follows visit rewrite)
    (hbelow : Walks rewrite depth below) {ids : List NodeId} {trees trees' : List Markup}
    (hparent : p.doc.get? parent = some ⟨kind, front ++ ids⟩)
    (hids : p.doc.Spans ids trees area) (hnodup : ({parent} + area).Nodup)
    (hheights : Markup.heights trees ≤ depth + 1)
    (hafter : rewrite.trees (p.state, p.diagnostics) trees = ((state, diagnostics), trees')) :
    ∃ doc ids' new, visitChildren name visit below parent front.length ids p =
        (⟨state, doc, diagnostics⟩, none) ∧
      doc.get? parent = some ⟨kind, front ++ ids'⟩ ∧ doc.Spans ids' trees' new ∧
        Document.Change p.doc doc ({parent} + area) ({parent} + new) := by
  induction ids generalizing p front trees trees' area with
  | nil =>
    cases hids
    obtain ⟨⟨rfl, rfl⟩, rfl⟩ : (p.state = state ∧ p.diagnostics = diagnostics) ∧ [] = trees' := by
      simpa [Rewrite.trees] using hafter
    exact ⟨p.doc, [], 0, rfl, hparent, .nil, .refl _ _⟩
  | cons child ids ih =>
    cases hids with
    | @cons _ _ _ kind' inner rest below' after hcell hinner hrest =>
      have hchild := Document.Spans.singleton hcell hinner
      generalize ({child} : Multiset NodeId) + below' = first at hchild hnodup ⊢
      rw [Markup.heights] at hheights
      rcases htop : rewrite.tree (p.state, p.diagnostics) (.node kind' inner) with
        ⟨⟨state₁, diagnostics₁⟩, top⟩
      rcases hothers : rewrite.trees (state₁, diagnostics₁) rest with ⟨final, others⟩
      obtain ⟨rfl, rfl⟩ : final = (state, diagnostics) ∧ top :: others = trees' := by
        simpa [Rewrite.trees, htop, hothers] using hafter
      have hlt : ∀ id ∈ after + ({parent} + first), id < p.doc.size := by
        intro id hid
        simp only [Multiset.mem_add, Multiset.mem_singleton] at hid
        rcases hid with hid | rfl | hid
        · exact hrest.lt_size hid
        · exact Document.lt_size_of_get? hparent
        · exact hchild.lt_size hid
      have hbefore : {parent} + (first + after) = after + ({parent} + first) := by abel
      have hbetween (new : Multiset NodeId) :
          after + ({parent} + new) = new + ({parent} + after) := by abel
      rw [hbefore] at hnodup ⊢
      have hfirst := Multiset.nodup_add.1 hnodup
      obtain ⟨doc, child', new, hrun, hparent', hspans, hchange⟩ :=
        visitChild_follows name hfollows hbelow hparent hchild hfirst.2.1 (by omega) htop
      have hsecond := Multiset.nodup_add.1 (hbetween new ▸ hchange.nodup_add hnodup hlt)
      have hparent'' : doc.get? parent = some ⟨kind, (front ++ [child']) ++ ids⟩ := by
        simpa using hparent'
      obtain ⟨doc', ids', new', hrun', hlast, hspans', hchange'⟩ :=
        @ih ⟨state₁, doc, diagnostics₁⟩ (front ++ [child']) after rest others hparent''
          (hchange.spans hrest hfirst.2.2) hsecond.2.1 (by omega) hothers
      refine ⟨doc', child' :: ids', new + new', ?_, ?_, ?_, ?_⟩
      · rw [visitChildren, hrun]
        simpa using hrun'
      · simpa using hlast
      · exact (hchange'.spans hspans hsecond.2.2).append hspans'
      · have hboth := (hbetween new ▸ hchange.add_left after).trans (hchange'.add_left new)
        rwa [add_left_comm new] at hboth

end Children

theorem walkBelow_follows (name : List Char) (hfollows : Follows visit rewrite) (depth : Nat) :
    Walks rewrite depth (walkBelow name visit depth) := by
  induction depth with
  | zero =>
    intro p id kind inner area hspans _ hdepth state diagnostics inner' hafter
    obtain rfl : inner = [] := by
      cases inner with
      | nil => rfl
      | cons top rest =>
        obtain ⟨kind', inner'⟩ := top
        simp [Markup.heights, Markup.height] at hdepth
    obtain ⟨⟨rfl, rfl⟩, rfl⟩ : (p.state = state ∧ p.diagnostics = diagnostics) ∧ [] = inner' := by
      simpa [Rewrite.trees] using hafter
    exact ⟨p.doc, area, rfl, hspans, .refl _ _⟩
  | succ depth ih =>
    intro p id kind inner area hspans hnodup hdepth state diagnostics inner' hafter
    obtain ⟨kind', children, inner'', below, heq, rfl, hcell, hbelow⟩ := hspans.of_singleton
    obtain ⟨rfl, rfl⟩ : kind = kind' ∧ inner = inner'' := by simpa using heq
    have hparent : p.doc.get? id = some ⟨kind, [] ++ children⟩ := hcell
    obtain ⟨doc, ids, new, hrun, hcell', hspans', hchange⟩ :=
      visitChildren_follows name hfollows ih hparent hbelow hnodup hdepth hafter
    refine ⟨doc, {id} + new, ?_, .singleton hcell' hspans', hchange⟩
    rw [walkBelow, Document.get, hcell]
    exact hrun

/-- A walk over a document makes of it one that stands for the rewritten tree. -/
theorem walk_follows (name : List Char) (hfollows : Follows visit rewrite) (state : σ)
    {doc : Document} {kind : Kind} {inner : List Markup} {area : Multiset NodeId}
    (hspans : doc.Spans [Document.root] [.node kind inner] area) (hnodup : area.Nodup)
    (diagnostics : Diagnostics) :
    let after := rewrite.trees (state, diagnostics) inner
    ∃ doc' new, walk name visit state doc diagnostics = (.ok doc', after.1.2) ∧
      doc'.Spans [Document.root] [.node kind after.2] new ∧ new.Nodup := by
  intro after
  have hheights : Markup.heights inner ≤ doc.size := by
    have hheight := hspans.heights_le_size hnodup
    simp only [Markup.heights, Markup.height] at hheight
    omega
  obtain ⟨doc', new, hrun, hspans', hchange⟩ := walkBelow_follows name hfollows doc.size
    ⟨state, doc, diagnostics⟩ Document.root kind inner area hspans hnodup hheights _ _ _ rfl
  refine ⟨doc', new, ?_, hspans', hchange.nodup hnodup fun id hid ↦ hspans.lt_size hid⟩
  rw [walk, hrun]

end Galley.Enrich
