import Galley.Proofs.Enrich.HeadingVisits

/-!
Self-links of headings that have children which do not exist. Their damage is isolated if those with
a missing child are left alone and reported, if all others are made to link to themselves at indices
that do not depend on the damage, and if no circle arises (`IsIsolated`). This is so as long as no
index of a missing node is mistaken for that of a link, and not any longer as soon as one is
(`headingAnchors_isolate_iff`).
-/

set_option autoImplicit false
set_option relaxedAutoImplicit false

namespace Galley.Enrich

open Html

/-- The damage of headings is isolated. Those with a missing child stay as they are, with one error
for each, in order; the others get links as if there were no damage. No circle arises, so that the
document is written in full. -/
structure IsIsolated (className : List Char) (before after : Document) (errors : List Problem) :
    Prop where
  left : ∀ id ∈ linkables before, isDamaged before id = true → after.get? id = before.get? id
  linked : ∀ slot ∈ (linkables before).zipIdx before.size, isDamaged before slot.1 = false →
    IsLinkedAt className before after slot.1 slot.2
  reported : List.Forall₂ (IsReportOf before) ((linkables before).filter (isDamaged before)) errors
  acyclic : after.IsAcyclicFrom Document.root
  written : ∀ depth, after.size ≤ depth → after.writeFrom depth Document.root = after.write

/-! ### Visits with a mistake -/

/-- What visits should not do: leave a damaged heading unreported or another one unlinked, or make a
circle. -/
inductive IsSpoilt (doc : Document) (ids : List NodeId) (p p' : Progress Unit) : Prop where
  | unreported (hfewer : p'.diagnostics.errors.length <
      p.diagnostics.errors.length + (ids.filter (isDamaged doc)).length)
  | unlinked {id : NodeId} (hid : id ∈ ids) (hwhole : isDamaged doc id = false)
      (hsame : p'.doc.get? id = doc.get? id)
  | circular (hcircle : ¬ p'.doc.IsAcyclicFrom Document.root)

section Run

variable {className : List Char} {doc : Document} {done rest ids : List NodeId} {id : NodeId}

/-- What the other visits spoil is spoilt in all. -/
theorem IsSpoilt.cons {p p' p'' : Progress Unit} (h : IsSpoilt doc ids p' p'')
    (herrors : ∃ errors, p'.diagnostics.errors = p.diagnostics.errors ++ errors ∧
      errors.length ≤ ([id].filter (isDamaged doc)).length) : IsSpoilt doc (id :: ids) p p'' := by
  cases h with
  | unreported hfewer =>
    obtain ⟨errors, heq, hle⟩ := herrors
    refine .unreported ?_
    rw [heq, List.length_append] at hfewer
    rw [← List.singleton_append, List.filter_append, List.length_append]
    omega
  | unlinked hid hwhole hsame => exact .unlinked (List.mem_cons_of_mem _ hid) hwhole hsame
  | circular hcircle => exact .circular hcircle

/-- A damaged heading for which there is no error is not reported. -/
theorem IsSpoilt.of_silent {p p' p'' : Progress Unit} (hran : Ran doc ids p' p'')
    (herrors : p'.diagnostics.errors = p.diagnostics.errors) (hdamaged : isDamaged doc id = true) :
    IsSpoilt doc (id :: ids) p p'' := by
  obtain ⟨errors, heq, hle⟩ := hran.errors
  refine .unreported ?_
  rw [List.filter_cons_of_pos hdamaged, List.length_cons, heq, List.length_append, herrors]
  omega

/-- A link that takes the index of something that is missing below its heading makes a circle. -/
theorem IsNext.circular {kind wrapper : Kind} {children : List NodeId} {link : NodeId}
    {after : Document} (h : IsNext doc done id rest) (hcell : doc.get? id = some ⟨kind, children⟩)
    (hcell' : after.get? id = some ⟨kind, [link]⟩)
    (hanchor : after.get? link = some ⟨wrapper, children⟩)
    (hkept : ∀ other < doc.size, other ∉ id :: done → other ∉ rest →
      after.get? other = doc.get? other)
    (hway : Relation.TransGen doc.Names id link) : ¬ after.IsAcyclicFrom Document.root := by
  have hrest (upper : NodeId) (hrest : Relation.ReflTransGen doc.Names upper link) :
      Relation.TransGen doc.Names id upper → Relation.ReflTransGen after.Names upper link := by
    induction hrest using Relation.ReflTransGen.head_induction_on with
    | refl => exact fun _ ↦ .refl
    | @head upper lower hnames _ ih =>
      intro hbelow
      have hne : upper ≠ id := fun heq ↦ h.acyclic_from id .refl (heq ▸ hbelow)
      have hfree (hmem : upper ∈ done ∨ upper ∈ rest) : False :=
        h.free upper hmem hbelow.to_reflTransGen
      have hsame := hkept upper (Document.lt_size_of_names hnames)
        (List.not_mem_cons_of_ne_of_not_mem hne fun hmem ↦ hfree (.inl hmem))
        fun hmem ↦ hfree (.inr hmem)
      refine .head ?_ (ih (hbelow.tail hnames))
      rwa [Document.Names, children_congr hsame]
  obtain ⟨child, hchild, hway⟩ := Relation.TransGen.head'_iff.1 hway
  have hfirst : after.Names link child := by
    rw [Document.Names, Document.children_of_get? hcell] at hchild
    rwa [Document.Names, Document.children_of_get? hanchor]
  have hlast : after.Names id link := by
    rw [Document.Names, Document.children_of_get? hcell']
    exact List.mem_singleton_self link
  exact fun hacyclic ↦ hacyclic link ((h.reachable hkept).tail hlast)
    (.head' hfirst (hrest child hway (.single hchild)))

/-- As soon as something is mistaken, visits of headings do not do what they should. -/
theorem AreNext.isSpoilt (h : AreNext doc done ids) : ∀ p : Progress Unit,
    Untouched doc done p.doc → (∃ slot ∈ (ids.filter (isLinkable doc)).zipIdx p.doc.size,
      ¬ IsUnmistaken doc slot.1 slot.2) →
        IsSpoilt doc (ids.filter (isLinkable doc)) p (linkAll className ids p) := by
  induction h with
  | nil => exact fun p _ hmistaken ↦ absurd hmistaken (by simp)
  | @cons done rest id hnext hrest ih =>
    intro p huntouched hmistaken
    have hstep : LinkStep className doc p _ _ := hnext.visited_step huntouched
    have huntouched' := hstep.untouched huntouched
    have herrors := hstep.errors huntouched
    rw [linkAll, List.foldl_cons, ← linkAll]
    generalize visited "heading-anchors".toList (wrapHeading className) p id = p' at *
    have hran : Ran doc (rest.filter (isLinkable doc)) p' (linkAll className rest p') :=
      hrest.ran p' huntouched'
    have hsame : p.doc.get? id = doc.get? id :=
      hnext.kept_below huntouched hnext.lt_size .refl
    by_cases hlinkable : isLinkable doc id = true
    · rw [List.filter_cons_of_pos hlinkable] at hmistaken ⊢
      rw [List.filter_cons_of_pos hlinkable, List.filter_nil] at herrors
      rw [List.zipIdx_cons, List.exists_mem_cons_iff] at hmistaken
      cases hstep with
      | left =>
        -- it seems to contain a link, so that it gets none and is not reported
        by_cases hdamaged : isDamaged doc id = true
        · exact .of_silent hran rfl hdamaged
        · refine .unlinked List.mem_cons_self (by simpa using hdamaged) ?_
          exact (hran.kept id (hnext.lt_size.trans_le huntouched.size) hnext.not_mem).trans hsame
      | @failed wrapper child _ _ hearlier hchild hmissing =>
        have hid : IsUnmistaken doc id p.doc.size := ⟨hearlier, fun _ ↦ ⟨child, hchild, hmissing⟩⟩
        refine (ih _ huntouched' ?_).cons herrors
        rw [Document.size_alloc]
        exact hmistaken.resolve_left fun hnot ↦ hnot hid
      | @wrapped name kind children after _ hearlier hname hcell hchildren hsize hcell' hanchor
          hkept =>
        -- either its own link has the index of what is missing, or the mistake is made later
        by_cases hown : Relation.TransGen doc.Names id p.doc.size
        · by_cases hdamaged : isDamaged doc id = true
          · exact .of_silent hran rfl hdamaged
          · refine .circular (hnext.circular hcell
              ((hran.kept id (Document.lt_size_of_get? hcell') hnext.not_mem).trans hcell')
              ((hran.kept _ (Document.lt_size_of_get? hanchor)
                (hnext.new_not_mem huntouched.size)).trans hanchor)
              (fun other hlt hdone hother ↦ ?_) hown)
            exact (hran.kept other (hlt.trans_le huntouched'.size) fun hmem ↦
              hother (List.mem_of_mem_filter hmem)).trans (huntouched'.kept other hlt hdone)
        · have hid : IsUnmistaken doc id p.doc.size := ⟨hearlier, fun hway ↦ absurd hway hown⟩
          refine (ih _ huntouched' ?_).cons herrors
          rw [hsize]
          exact hmistaken.resolve_left fun hnot ↦ hnot hid
    · rw [List.filter_cons_of_neg hlinkable] at hmistaken ⊢
      obtain rfl := hstep.eq_of_not_linkable hlinkable
      exact ih _ huntouched' hmistaken

end Run

/-! ### The pass -/

section Pass

variable {doc : Document} {id : NodeId}

theorem Isolates.isIsolated {className : List Char} {p p' : Progress Unit} {errors : List Problem}
    (h : Isolates className p.doc (linkables p.doc) p p')
    (herrors : p'.diagnostics.errors = p.diagnostics.errors ++ errors)
    (hroot : Document.root < p'.doc.size) : IsIsolated className p.doc p'.doc errors where
  left := h.left
  linked := h.linked
  reported := by
    obtain ⟨reports, heq, hreports⟩ := h.reported
    rwa [← List.append_cancel_left (herrors.symm.trans heq)] at hreports
  acyclic := h.acyclic
  written _ := h.acyclic.writeFrom_eq_write hroot

theorem IsSpoilt.not_isIsolated {className : List Char} {p p' : Progress Unit}
    {errors : List Problem} (h : IsSpoilt p.doc (linkables p.doc) p p')
    (herrors : p'.diagnostics.errors = p.diagnostics.errors ++ errors) :
    ¬ IsIsolated className p.doc p'.doc errors := by
  intro hisolated
  cases h with
  | unreported hfewer =>
    rw [herrors, List.length_append, ← hisolated.reported.length_eq] at hfewer
    exact lt_irrefl _ hfewer
  | @unlinked id hid hwhole hsame =>
    obtain ⟨link, hnew, hslot⟩ := exists_slot hid p.doc.size
    obtain ⟨kind, children, name, hcell, -, hcell', -⟩ := hisolated.linked _ hslot hwhole
    dsimp only at hcell hcell'
    obtain rfl : [link] = children := by
      simpa using hcell'.symm.trans (hsame.trans hcell)
    have hdamaged : isDamaged p.doc id = true := by
      simpa [isDamaged, Document.children_of_get? hcell] using hnew
    rw [hwhole] at hdamaged
    cases hdamaged
  | circular hcircle => exact hcircle hisolated.acyclic

/-- The pass for self-links succeeds on every document that is a tree except that headings may have
missing children. It changes only headings that are to link to themselves. It isolates their damage
if and only if no index of a missing node is mistaken for that of a link. -/
theorem headingAnchors_isolate_iff (htree : doc.IsTreeBut isHeadingKind)
    (hroot : doc.isOfKind isHeadingKind Document.root = false) (className : List Char)
    (d : Diagnostics) : ∃ doc' errors, (headingAnchors className).apply doc d =
        (.ok doc', { d with errors := d.errors ++ errors }) ∧
      (∀ id < doc.size, id ∉ linkables doc → doc'.get? id = doc.get? id) ∧
        (IsIsolated className doc doc' errors ↔
          ∀ slot ∈ (linkables doc).zipIdx doc.size, IsUnmistaken doc slot.1 slot.2) := by
  have hnext := areNext_topsFrom htree hroot
  have happly := headingAnchors_apply_eq htree hroot className d
  have hran := @AreNext.ran className _ _ _ hnext ⟨(), doc, d⟩ (.refl doc)
  have hisolates := @AreNext.isolates className _ _ _ hnext ⟨(), doc, d⟩ (.refl doc) htree.acyclic
  have hspoilt := @AreNext.isSpoilt className _ _ _ hnext ⟨(), doc, d⟩ (.refl doc)
  rw [← linkables] at hran hisolates hspoilt
  dsimp only at happly
  generalize linkAll className (doc.topsFrom isHeadingKind doc.size Document.root) ⟨(), doc, d⟩ = p'
    at *
  obtain ⟨errors, herrors, -⟩ := hran.errors
  refine ⟨p'.doc, errors, hran.diagnostics_eq herrors ▸ happly, hran.kept, fun hisolated ↦ ?_,
    fun hunmistaken ↦ ?_⟩
  · by_contra hmistaken
    simp only [not_forall, exists_prop] at hmistaken
    exact (hspoilt hmistaken).not_isIsolated herrors hisolated
  · exact (hisolates hunmistaken).isIsolated herrors (htree.exists_root.trans_le hran.size)

end Pass

/-- A heading with a child that does not exist, and after it another heading. -/
def tornPage : Document where
  cells := #[⟨.root, [1, 3]⟩,
    ⟨.element "h2".toList ⟨[(.id, "a".toList)]⟩, [2, 9]⟩,
    ⟨.text "A".toList, []⟩,
    ⟨.element "h2".toList ⟨[(.id, "b".toList)]⟩, [4]⟩,
    ⟨.text "B".toList, []⟩]

theorem tornPage_isTreeBut : tornPage.IsTreeBut isHeadingKind :=
  .of_ordered (by decide) (by decide) (by decide) (by decide)

theorem tornPage_isUnmistaken :
    ∀ slot ∈ (linkables tornPage).zipIdx tornPage.size, IsUnmistaken tornPage slot.1 slot.2 := by
  have hslots : (linkables tornPage).zipIdx tornPage.size = [(1, 5), (3, 6)] := by decide
  have hbelow {id lower : NodeId}
      (hid : ∀ child ∈ tornPage.children id, tornPage.children child = [])
      (hway : Relation.TransGen tornPage.Names id lower) : lower ∈ tornPage.children id := by
    obtain ⟨child, hchild, hrest⟩ := Relation.TransGen.head'_iff.1 hway
    rcases Relation.reflTransGen_iff_eq_or_transGen.1 hrest with rfl | hrest
    · exact hchild
    · obtain ⟨next, hnext, -⟩ := Relation.TransGen.head'_iff.1 hrest
      rw [Document.Names, hid child hchild] at hnext
      cases hnext
  have hfirst : ∀ child ∈ tornPage.children 1, tornPage.size ≤ child → 5 < child := by decide
  have hsecond : ∀ child ∈ tornPage.children 3, tornPage.size ≤ child → 6 < child := by decide
  rw [hslots, List.forall_mem_cons, List.forall_mem_singleton]
  exact ⟨.of_forall_lt (by decide) fun missing hway ↦ hfirst missing (hbelow (by decide) hway),
    .of_forall_lt (by decide) fun missing hway ↦ hsecond missing (hbelow (by decide) hway)⟩

/-- The damage of a heading is isolated from another one after it. -/
theorem headingAnchors_isolate_tornPage : tornPage.IsTreeBut isHeadingKind ∧
    tornPage.isOfKind isHeadingKind Document.root = false ∧ ∃ doc' errors,
      (headingAnchors "anchor".toList).apply tornPage {} = (.ok doc', { errors }) ∧
        IsIsolated "anchor".toList tornPage doc' errors := by
  obtain ⟨doc', errors, happly, -, hiff⟩ :=
    headingAnchors_isolate_iff tornPage_isTreeBut rfl "anchor".toList {}
  exact ⟨tornPage_isTreeBut, rfl, doc', errors, happly, hiff.2 tornPage_isUnmistaken⟩

/-- Of two headings the second has a child that does not exist, at the index that the link to the
first gets. -/
def mistakenPage : Document where
  cells := #[⟨.root, [1, 3]⟩,
    ⟨.element "h2".toList ⟨[(.id, "a".toList)]⟩, [2]⟩,
    ⟨.text "A".toList, []⟩,
    ⟨.element "h2".toList ⟨[(.id, "b".toList)]⟩, [4, 5]⟩,
    ⟨.text "B".toList, []⟩]

/-- A damaged heading that seems to contain the link to another one is not reported. -/
theorem headingAnchors_mistake_link : mistakenPage.IsTreeBut isHeadingKind ∧
    mistakenPage.isOfKind isHeadingKind Document.root = false ∧ ∃ doc',
      (headingAnchors "anchor".toList).apply mistakenPage {} = (.ok doc', {}) ∧
        ¬ IsIsolated "anchor".toList mistakenPage doc' [] := by
  refine ⟨.of_ordered (by decide) (by decide) (by decide) (by decide), rfl, _, rfl, fun h ↦ ?_⟩
  have hlength := h.reported.length_eq
  exact absurd hlength (by decide)

end Galley.Enrich
