import Galley.Proofs.Enrich.Identifiers
import Galley.Proofs.Enrich.Outermost
import Galley.Proofs.Html.Change

/-!
Visits of the pass for self-links, also of headings that have children which do not exist. The pass
visits the headings that lie below no other one (`headingAnchors_apply_eq`). A visit adds a link
before it looks at the children of the heading, so that the index of a missing child may have become
that of a link (`IsUnmistaken`). As long as this happens to no heading, each one that is damaged is
left alone and reported, and the others are made to link to themselves (`AreNext.isolates`).
-/

set_option autoImplicit false
set_option relaxedAutoImplicit false

namespace Galley.Enrich

open Html

section Nodes

variable {before after : Document} {id : NodeId}

theorem element?_congr (h : after.get? id = before.get? id) :
    after.element? id = before.element? id := by
  rw [Document.element?, Document.element?, h]

theorem children_congr (h : after.get? id = before.get? id) :
    after.children id = before.children id := by
  rw [Document.children, Document.children, h]

theorem attribute?_congr (h : after.get? id = before.get? id) (key : AttributeKey) :
    after.attribute? id key = before.attribute? id key := by
  rw [Document.attribute?, Document.attribute?, element?_congr h]

end Nodes

/-! ### Headings and links -/

/-- A heading has an identifier and contains no link. -/
def isLinkable (doc : Document) (id : NodeId) : Bool :=
  (doc.attribute? id .id).isSome && !doc.anyDescendant id isLink

/-- The headings that are to link to themselves, in the order in which they are written. What lies
in a heading is not looked at. -/
def linkables (doc : Document) : List NodeId :=
  (doc.topsFrom isHeadingKind doc.size Document.root).filter (isLinkable doc)

/-- A child of a node does not exist. -/
def isDamaged (doc : Document) (id : NodeId) : Bool := (doc.children id).any (doc.size ≤ ·)

/-- An error says that a child of a heading does not exist. -/
def IsReportOf (doc : Document) (id : NodeId) (problem : Problem) : Prop :=
  ∃ child ∈ doc.children id, doc.size ≤ child ∧ problem =
    { stage := "heading-anchors".toList
      message := (DocumentError.danglingNode child).message.toList }

/-- The only child of a heading is the link to it at an index, which has the former children. -/
def IsLinkedAt (className : List Char) (before after : Document) (id link : NodeId) : Prop :=
  ∃ kind children name, before.get? id = some ⟨kind, children⟩ ∧
    before.attribute? id .id = some name ∧ after.get? id = some ⟨kind, [link]⟩ ∧
      after.get? link = some ⟨.element ['a'] (anchorAttributes className name), children⟩

/-- What is missing below a heading is not taken for a link when a link to it is added at an index:
it is none of those that were added before, and it is the new one only if another child is missing
even so. -/
structure IsUnmistaken (doc : Document) (id link : NodeId) : Prop where
  earlier : ∀ missing, Relation.TransGen doc.Names id missing → doc.size ≤ missing → link ≤ missing
  own : Relation.TransGen doc.Names id link → ∃ child ∈ doc.children id, link < child

/-- Nothing is mistaken if all that is missing below a heading has a greater index. -/
theorem IsUnmistaken.of_forall_lt {doc : Document} {id link : NodeId} (hlink : doc.size ≤ link)
    (h : ∀ missing, Relation.TransGen doc.Names id missing → doc.size ≤ missing → link < missing) :
    IsUnmistaken doc id link :=
  ⟨fun missing hway hmissing ↦ (h missing hway hmissing).le,
    fun hway ↦ absurd (h link hway hlink) (lt_irrefl link)⟩

/-- A link element lies below a node. -/
def HoldsLink (doc : Document) (id : NodeId) : Prop :=
  ∃ lower, Relation.TransGen doc.Names id lower ∧ doc.isOfKind isLinkKind lower = true

/-! ### Where a visit finds the document -/

/-- A heading is visited after some and before others, of which none lies at or below it. -/
structure IsNext (doc : Document) (done : List NodeId) (id : NodeId) (rest : List NodeId) :
    Prop where
  outermost : doc.IsOutermost isHeadingKind id
  acyclic : doc.IsAcyclicFrom Document.root
  headings : ∀ other, other ∈ done ∨ other ∈ rest → doc.isOfKind isHeadingKind other = true
  free : ∀ other, other ∈ done ∨ other ∈ rest → ¬ Relation.ReflTransGen doc.Names id other

/-- Headings are visited one after the other. -/
inductive AreNext (doc : Document) : List NodeId → List NodeId → Prop
  | nil (done : List NodeId) : AreNext doc done []
  | cons {done rest : List NodeId} {id : NodeId} (hnext : IsNext doc done id rest)
      (hrest : AreNext doc (id :: done) rest) : AreNext doc done (id :: rest)

/-- Visits of the given headings changed no other node and added links only. -/
structure Untouched (doc : Document) (done : List NodeId) (current : Document) : Prop where
  size : doc.size ≤ current.size
  kept : ∀ id < doc.size, id ∉ done → current.get? id = doc.get? id
  links : ∀ id < current.size, doc.size ≤ id → current.isOfKind isLinkKind id = true

section Finds

variable {doc current : Document} {done rest : List NodeId} {id lower : NodeId}

theorem AreNext.of_nodup (hacyclic : doc.IsAcyclicFrom Document.root) {ids : List NodeId}
    (hnodup : (done ++ ids).Nodup)
    (houtermost : ∀ id ∈ done ++ ids, doc.IsOutermost isHeadingKind id) : AreNext doc done ids := by
  induction ids generalizing done with
  | nil => exact .nil done
  | cons id rest ih =>
    have hperm : (done ++ id :: rest).Perm (id :: done ++ rest) := List.perm_middle
    have hothers {other : NodeId} (hother : other ∈ done ∨ other ∈ rest) :
        doc.IsOutermost isHeadingKind other ∧ other ≠ id := by
      refine ⟨houtermost other (hperm.mem_iff.2 (by simp [hother])), ?_⟩
      have hid := (List.nodup_cons.1 (hperm.nodup_iff.1 hnodup)).1
      exact ne_of_mem_of_not_mem (List.mem_append.2 hother) hid
    refine .cons ⟨houtermost id (by simp), hacyclic, fun other hother ↦ (hothers hother).1.kind,
      fun other hother hway ↦ ?_⟩ (ih (hperm.nodup_iff.1 hnodup) fun other hother ↦
        houtermost other (hperm.mem_iff.2 hother))
    obtain ⟨hother, hne⟩ := hothers hother
    rcases Relation.reflTransGen_iff_eq_or_transGen.1 hway with heq | hway
    · exact hne heq
    · have hid := houtermost id (by simp)
      have hnot := hother.above id hid.reachable hway
      rw [hid.kind] at hnot
      cases hnot

namespace IsNext

variable (h : IsNext doc done id rest)
include h

theorem lt_size : id < doc.size := Document.lt_size_of_isOfKind h.outermost.kind

theorem acyclic_from : doc.IsAcyclicFrom id := h.acyclic.of_way h.outermost.reachable

/-- What lies at or below the next heading is as it was. -/
theorem kept_below (huntouched : Untouched doc done current) (hlt : lower < doc.size)
    (hway : Relation.ReflTransGen doc.Names id lower) : current.get? lower = doc.get? lower :=
  huntouched.kept lower hlt fun hmem ↦ h.free lower (.inl hmem) hway

/-- What lies below the next heading now lay there before, if it does not lie below something that
was missing there. -/
theorem way_or_missing (huntouched : Untouched doc done current)
    (hway : Relation.TransGen current.Names id lower) : Relation.TransGen doc.Names id lower ∨
      ∃ missing < current.size, doc.size ≤ missing ∧ Relation.TransGen doc.Names id missing := by
  have hstep {upper child : NodeId} (hupper : Relation.ReflTransGen doc.Names id upper)
      (hlt : upper < doc.size) (hchild : current.Names upper child) : doc.Names upper child := by
    rwa [Document.Names, children_congr (h.kept_below huntouched hlt hupper)] at hchild
  induction hway with
  | single hchild => exact .inl (.single (hstep .refl h.lt_size hchild))
  | @tail middle lower _ hchild ih =>
    rcases ih with hmiddle | hmissing
    · by_cases hlt : middle < doc.size
      · exact .inl (hmiddle.tail (hstep hmiddle.to_reflTransGen hlt hchild))
      · exact .inr ⟨middle, Document.lt_size_of_names hchild, not_lt.1 hlt, hmiddle⟩
    · exact .inr hmissing

/-- A link is found below the next heading if there was one before, or if something that was missing
there was added. -/
theorem anyDescendant_iff (huntouched : Untouched doc done current) :
    current.anyDescendant id isLink = true ↔ doc.anyDescendant id isLink = true ∨
      ∃ missing < current.size, doc.size ≤ missing ∧ Relation.TransGen doc.Names id missing := by
  have hfound {lower : NodeId} (hway : Relation.TransGen doc.Names id lower)
      (hlink : current.isOfKind isLinkKind lower = true) :
      current.anyDescendant id isLink = true :=
    h.acyclic_from.anyBelow_of_way (fun other hother ↦ h.kept_below huntouched hother) hway hlink
      ((h.acyclic_from.card_below_lt_size h.lt_size).trans_le huntouched.size)
  have hbefore : doc.anyDescendant id isLink = true ↔ ∃ lower,
      Relation.TransGen doc.Names id lower ∧ doc.isOfKind isLinkKind lower = true :=
    h.acyclic_from.anyDescendant_iff h.lt_size
  rw [hbefore]
  constructor
  · intro hany
    obtain ⟨lower, hway, hlink⟩ : ∃ lower, Relation.TransGen current.Names id lower ∧
        current.isOfKind isLinkKind lower = true := Document.exists_of_anyBelow hany
    rcases h.way_or_missing huntouched hway with hway | hmissing
    · by_cases hlt : lower < doc.size
      · rw [isOfKind_congr (h.kept_below huntouched hlt hway.to_reflTransGen)] at hlink
        exact .inl ⟨lower, hway, hlink⟩
      · exact .inr ⟨lower, Document.lt_size_of_isOfKind hlink, not_lt.1 hlt, hway⟩
    · exact .inr hmissing
  · rintro (⟨lower, hway, hlink⟩ | ⟨missing, hlt, hmissing, hway⟩)
    · refine hfound hway ?_
      have hlt := Document.lt_size_of_isOfKind hlink
      rwa [isOfKind_congr (h.kept_below huntouched hlt hway.to_reflTransGen)]
    · exact hfound hway (huntouched.links missing hlt hmissing)

end IsNext

end Finds

/-! ### One visit -/

/-- What a visit of a heading can do. It leaves the heading alone, or it adds a link; then it fails
if a child of the heading is missing even so, or else it puts the children into the link. -/
inductive HeadingVisit (className : List Char) (p : Progress Unit) (id : NodeId) :
    Progress Unit → Except EnrichError Visit → Prop where
  | left (hleft : p.doc.attribute? id .id = none ∨ p.doc.anyDescendant id isLink = true) :
      HeadingVisit className p id p (.ok .skip)
  | failed {name : List Char} {child : NodeId} (hname : p.doc.attribute? id .id = some name)
      (hlink : p.doc.anyDescendant id isLink = false) (hchild : child ∈ p.doc.children id)
      (hmissing : p.doc.size < child) :
      HeadingVisit className p id
        { p with doc := (p.doc.alloc (.element ['a'] (anchorAttributes className name))).1 }
        (.error (.document (.danglingNode child)))
  | wrapped {name : List Char} {kind : Kind} {children : List NodeId} {doc : Document}
      (hname : p.doc.attribute? id .id = some name)
      (hlink : p.doc.anyDescendant id isLink = false)
      (hcell : p.doc.get? id = some ⟨kind, children⟩)
      (hchildren : ∀ child ∈ children, child ≤ p.doc.size) (hsize : doc.size = p.doc.size + 1)
      (hcell' : doc.get? id = some ⟨kind, [p.doc.size]⟩)
      (hanchor : doc.get? p.doc.size =
        some ⟨.element ['a'] (anchorAttributes className name), children⟩)
      (hkept : ∀ other < p.doc.size, other ≠ id → doc.get? other = p.doc.get? other) :
      HeadingVisit className p id { p with doc } (.ok .skip)

section Visit

variable {className : List Char} {p p' : Progress Unit} {id : NodeId}
  {result : Except EnrichError Visit}

theorem wrapHeading_visit (h : p.doc.isOfKind isHeadingKind id = true) :
    HeadingVisit className p id (wrapHeading className p id).1 (wrapHeading className p id).2 := by
  obtain ⟨tag, attrs, children, hcell, htag⟩ := exists_heading h
  have hattribute : p.doc.attribute? id .id = attrs.get? .id := by
    simp [Document.attribute?, Document.element?, hcell]
  simp only [wrapHeading, heading?_of_get? hcell htag]
  cases hname : attrs.get? .id with
  | none => exact .left (.inl (hattribute.trans hname))
  | some name =>
    cases hlink : p.doc.anyDescendant id isLink with
    | true => exact .left (.inr hlink)
    | false =>
      simp only [Bool.false_eq_true, ↓reduceIte, Document.children_of_get? hcell,
        Document.alloc_snd]
      by_cases hchildren : ∀ child ∈ children, child < p.doc.size + 1
      · obtain ⟨doc₁, doc₂, hfirst, hsecond, hsize, hcell₂, hanchor, hkept⟩ :=
          Document.exists_wrapped hcell hchildren (.element ['a'] (anchorAttributes className name))
        simp only [hfirst, hsecond]
        exact .wrapped (hattribute.trans hname) hlink hcell
          (fun child hchild ↦ Nat.le_of_lt_succ (hchildren child hchild)) hsize hcell₂ hanchor hkept
      · rw [← Document.size_alloc _ (.element ['a'] (anchorAttributes className name))] at hchildren
        obtain ⟨missing, hmem, hmissing, herror⟩ :=
          Document.exists_error_of_setChildren hchildren p.doc.size
        simp only [herror]
        refine .failed (hattribute.trans hname) hlink ?_ ?_
        · rwa [Document.children_of_get? hcell]
        · rwa [Document.size_alloc] at hmissing

namespace HeadingVisit

variable (h : HeadingVisit className p id p' result)
include h

theorem eq_skip {outcome : Visit} (hresult : result = .ok outcome) : outcome = .skip := by
  cases h <;> cases hresult <;> rfl

theorem kept {other : NodeId} (hother : other < p.doc.size) (hne : other ≠ id) :
    p'.doc.get? other = p.doc.get? other := by
  cases h with
  | left => rfl
  | failed => exact (Document.get?_alloc ..).trans (if_neg hother.ne)
  | wrapped _ _ _ _ _ _ _ hkept => exact hkept other hother hne

theorem stays (hkind : p.doc.isOfKind isHeadingKind id = true) :
    p'.doc.isOfKind isHeadingKind id = true := by
  obtain ⟨cell, hcell, -⟩ := Document.exists_of_isOfKind hkind
  cases h with
  | left => exact hkind
  | failed =>
    refine (isOfKind_congr ?_).trans hkind
    exact (Document.get?_alloc ..).trans (if_neg (Document.lt_size_of_get? hcell).ne)
  | wrapped _ _ hcell₁ _ _ hcell' =>
    rw [Document.isOfKind_of_get? hcell₁] at hkind
    rwa [Document.isOfKind_of_get? hcell']

end HeadingVisit

theorem wrapHeading_staysAt (className : List Char) :
    StaysAt (wrapHeading className) isHeadingKind where
  descend p id h := by rw [wrapHeading, heading?_eq_none h]
  skip p id h _ := (wrapHeading_visit h).eq_skip
  kept p id h _ := (wrapHeading_visit h).kept
  stays p id h := (wrapHeading_visit h).stays h

end Visit

/-- What a visit of the next heading does, in terms of the document as it was. It leaves alone what
is not to link to itself, or what seems to contain a link because something that was missing below
it was added. Otherwise it adds a link, and fails if a child is missing even so. -/
inductive LinkStep (className : List Char) (doc : Document) (p : Progress Unit) (id : NodeId) :
    Progress Unit → Prop where
  | left (hleft : isLinkable doc id = true → ∃ missing < p.doc.size, doc.size ≤ missing ∧
      Relation.TransGen doc.Names id missing) : LinkStep className doc p id p
  | failed {wrapper : Kind} {child : NodeId} (hlinkable : isLinkable doc id = true)
      (hwrapper : isLinkKind wrapper = true)
      (hearlier : ∀ missing, Relation.TransGen doc.Names id missing → doc.size ≤ missing →
        p.doc.size ≤ missing)
      (hchild : child ∈ doc.children id) (hmissing : p.doc.size < child) :
      LinkStep className doc p id { p with
        doc := (p.doc.alloc wrapper).1
        diagnostics := p.diagnostics.fail "heading-anchors".toList
          (DocumentError.danglingNode child).message.toList }
  | wrapped {name : List Char} {kind : Kind} {children : List NodeId} {after : Document}
      (hlinkable : isLinkable doc id = true)
      (hearlier : ∀ missing, Relation.TransGen doc.Names id missing → doc.size ≤ missing →
        p.doc.size ≤ missing)
      (hname : doc.attribute? id .id = some name) (hcell : doc.get? id = some ⟨kind, children⟩)
      (hchildren : ∀ child ∈ children, child ≤ p.doc.size) (hsize : after.size = p.doc.size + 1)
      (hcell' : after.get? id = some ⟨kind, [p.doc.size]⟩)
      (hanchor : after.get? p.doc.size =
        some ⟨.element ['a'] (anchorAttributes className name), children⟩)
      (hkept : ∀ other < p.doc.size, other ≠ id → after.get? other = p.doc.get? other) :
      LinkStep className doc p id { p with doc := after }

section Step

variable {className : List Char} {doc : Document} {done rest : List NodeId} {id : NodeId}
  {p p' : Progress Unit}

/-- A heading in which no link is found contains none, and nothing below it was added. -/
theorem IsNext.of_anyDescendant (h : IsNext doc done id rest)
    (huntouched : Untouched doc done p.doc) (hlink : p.doc.anyDescendant id isLink = false) :
    doc.anyDescendant id isLink = false ∧ ∀ missing, Relation.TransGen doc.Names id missing →
      doc.size ≤ missing → p.doc.size ≤ missing := by
  rw [← Bool.not_eq_true, h.anyDescendant_iff huntouched, not_or] at hlink
  refine ⟨by simpa using hlink.1, fun missing hway hmissing ↦ ?_⟩
  by_contra hlt
  exact hlink.2 ⟨missing, not_le.1 hlt, hmissing, hway⟩

theorem IsNext.visited_step (h : IsNext doc done id rest) (huntouched : Untouched doc done p.doc) :
    LinkStep className doc p id
      (visited "heading-anchors".toList (wrapHeading className) p id) := by
  have hsame : p.doc.get? id = doc.get? id := h.kept_below huntouched h.lt_size .refl
  have hattribute := attribute?_congr hsame .id
  have hvisit : HeadingVisit className p id _ _ :=
    wrapHeading_visit ((isOfKind_congr hsame).trans h.outermost.kind)
  rw [visited]
  rcases hresult : wrapHeading className p id with ⟨p', result⟩
  rw [hresult] at hvisit
  cases hvisit with
  | left hleft =>
    refine .left fun hlinkable ↦ ?_
    rw [isLinkable, Bool.and_eq_true, Bool.not_eq_true', ← hattribute,
      Option.isSome_iff_ne_none] at hlinkable
    have hfound := (h.anyDescendant_iff huntouched).1 (hleft.resolve_left hlinkable.1)
    rw [hlinkable.2] at hfound
    exact hfound.resolve_left Bool.false_ne_true
  | failed hname hlink hchild hmissing =>
    obtain ⟨hnone, hearlier⟩ := h.of_anyDescendant huntouched hlink
    refine .failed ?_ rfl hearlier ?_ hmissing
    · rw [isLinkable, ← hattribute, hname, hnone]
      rfl
    · rwa [← children_congr hsame]
  | wrapped hname hlink hcell hchildren hsize hcell' hanchor hkept =>
    obtain ⟨hnone, hearlier⟩ := h.of_anyDescendant huntouched hlink
    refine .wrapped ?_ hearlier (hattribute ▸ hname) (hsame ▸ hcell) hchildren hsize hcell' hanchor
      hkept
    rw [isLinkable, ← hattribute, hname, hnone]
    rfl

namespace LinkStep

variable (h : LinkStep className doc p id p')
include h

theorem size_le : p.doc.size ≤ p'.doc.size := by
  cases h with
  | left => exact le_rfl
  | failed => simp
  | wrapped _ _ _ _ _ hsize => exact hsize ▸ Nat.le_succ _

theorem kept {other : NodeId} (hother : other < p.doc.size)
    (hne : other ≠ id ∨ isLinkable doc id = false) : p'.doc.get? other = p.doc.get? other := by
  cases h with
  | left => rfl
  | failed => exact (Document.get?_alloc ..).trans (if_neg hother.ne)
  | wrapped hlinkable _ _ _ _ _ _ _ hkept =>
    rw [hlinkable] at hne
    exact hkept other hother (hne.resolve_right nofun)

theorem eq_of_not_linkable (hnot : ¬ isLinkable doc id = true) : p' = p := by
  cases h with
  | left => rfl
  | failed hlinkable => exact absurd hlinkable hnot
  | wrapped hlinkable => exact absurd hlinkable hnot

theorem warnings : p'.diagnostics.warnings = p.diagnostics.warnings := by
  cases h <;> rfl

/-- A heading is reported at most once, and only if it is to link to itself and damaged. -/
theorem errors (huntouched : Untouched doc done p.doc) : ∃ errors,
    p'.diagnostics.errors = p.diagnostics.errors ++ errors ∧ errors.length ≤
      (([id].filter (isLinkable doc)).filter (isDamaged doc)).length := by
  cases h with
  | left => exact ⟨[], by simp, Nat.zero_le _⟩
  | @failed _ child hlinkable _ _ hchild hmissing =>
    have hdamaged : isDamaged doc id = true :=
      List.any_eq_true.2 ⟨child, hchild, decide_eq_true (huntouched.size.trans hmissing.le)⟩
    refine ⟨[_], rfl, ?_⟩
    simp [hlinkable, hdamaged]
  | wrapped => exact ⟨[], by simp, Nat.zero_le _⟩

theorem untouched (huntouched : Untouched doc done p.doc) : Untouched doc (id :: done) p'.doc where
  size := huntouched.size.trans h.size_le
  kept other hother hmem := by
    rw [List.mem_cons, not_or] at hmem
    exact (h.kept (hother.trans_le huntouched.size) (.inl hmem.1)).trans
      (huntouched.kept other hother hmem.2)
  links other hother hnew := by
    have hold {current : Document} (hlt : other < p.doc.size)
        (hsame : current.get? other = p.doc.get? other) :
        current.isOfKind isLinkKind other = true :=
      (isOfKind_congr hsame).trans (huntouched.links other hlt hnew)
    cases h with
    | left => exact hold hother rfl
    | failed _ hwrapper =>
      rw [Document.size_alloc] at hother
      rcases Nat.lt_succ_iff_lt_or_eq.1 hother with hlt | rfl
      · exact hold hlt ((Document.get?_alloc ..).trans (if_neg hlt.ne))
      · rwa [Document.isOfKind, Document.get?_alloc, if_pos rfl]
    | wrapped _ _ _ hcell _ hsize _ hanchor hkept =>
      rw [hsize] at hother
      rcases Nat.lt_succ_iff_lt_or_eq.1 hother with hlt | rfl
      · have hne := (Document.lt_size_of_get? hcell).trans_le hnew
        exact hold hlt (hkept other hlt hne.ne')
      · rw [Document.isOfKind_of_get? hanchor]
        rfl

end LinkStep

end Step

/-! ### All visits -/

/-- Visits of headings, one after the other. -/
def linkAll (className : List Char) (ids : List NodeId) (p : Progress Unit) : Progress Unit :=
  ids.foldl (visited "heading-anchors".toList (wrapHeading className)) p

/-- What visits do in any case, of which the given headings are to link to themselves: they change
only these and report at most the damaged ones. -/
structure Ran (doc : Document) (ids : List NodeId) (p p' : Progress Unit) : Prop where
  size : p.doc.size ≤ p'.doc.size
  kept : ∀ id < p.doc.size, id ∉ ids → p'.doc.get? id = p.doc.get? id
  warnings : p'.diagnostics.warnings = p.diagnostics.warnings
  errors : ∃ errors, p'.diagnostics.errors = p.diagnostics.errors ++ errors ∧
    errors.length ≤ (ids.filter (isDamaged doc)).length

/-- What visits should do to the given headings. -/
structure Isolates (className : List Char) (doc : Document) (ids : List NodeId)
    (p p' : Progress Unit) : Prop where
  left : ∀ id ∈ ids, isDamaged doc id = true → p'.doc.get? id = doc.get? id
  linked : ∀ slot ∈ ids.zipIdx p.doc.size, isDamaged doc slot.1 = false →
    IsLinkedAt className doc p'.doc slot.1 slot.2
  reported : ∃ errors, p'.diagnostics.errors = p.diagnostics.errors ++ errors ∧
    List.Forall₂ (IsReportOf doc) (ids.filter (isDamaged doc)) errors
  acyclic : p'.doc.IsAcyclicFrom Document.root

section Run

variable {className : List Char} {doc : Document} {done rest ids : List NodeId} {id : NodeId}

theorem Ran.refl (doc : Document) (p : Progress Unit) : Ran doc [] p p :=
  ⟨le_rfl, fun _ _ _ ↦ rfl, rfl, [], by simp, Nat.zero_le _⟩

theorem Ran.diagnostics_eq {p p' : Progress Unit} (h : Ran doc ids p p') {errors : List Problem}
    (herrors : p'.diagnostics.errors = p.diagnostics.errors ++ errors) :
    p'.diagnostics = { p.diagnostics with errors := p.diagnostics.errors ++ errors } := by
  rw [← herrors]
  exact congrArg (Diagnostics.mk · p'.diagnostics.errors) h.warnings

theorem Ran.cons {p p' p'' : Progress Unit} (hstep : LinkStep className doc p id p')
    (huntouched : Untouched doc done p.doc)
    (h : Ran doc (rest.filter (isLinkable doc)) p' p'') :
    Ran doc ((id :: rest).filter (isLinkable doc)) p p'' := by
  have hcons : (id :: rest).filter (isLinkable doc) =
      [id].filter (isLinkable doc) ++ rest.filter (isLinkable doc) := by
    rw [← List.filter_append, List.singleton_append]
  obtain ⟨first, hfirst, hfirstLength⟩ := hstep.errors huntouched
  obtain ⟨more, hmore, hmoreLength⟩ := h.errors
  refine ⟨hstep.size_le.trans h.size, fun other hother hmem ↦ ?_,
    h.warnings.trans hstep.warnings, first ++ more, ?_, ?_⟩
  · rw [hcons, List.mem_append, not_or] at hmem
    refine (h.kept other (hother.trans_le hstep.size_le) hmem.2).trans (hstep.kept hother ?_)
    by_cases hne : other = id
    · subst hne
      exact .inr (by simpa using hmem.1)
    · exact .inl hne
  · rw [hmore, hfirst, List.append_assoc]
  · rw [hcons, List.filter_append, List.length_append, List.length_append]
    exact Nat.add_le_add hfirstLength hmoreLength

theorem AreNext.ran (h : AreNext doc done ids) : ∀ p : Progress Unit, Untouched doc done p.doc →
    Ran doc (ids.filter (isLinkable doc)) p (linkAll className ids p) := by
  induction h with
  | nil => exact fun p _ ↦ .refl doc p
  | cons hnext _ ih =>
    intro p huntouched
    have hstep : LinkStep className doc p _ _ := hnext.visited_step huntouched
    exact (ih _ (hstep.untouched huntouched)).cons hstep huntouched

/-! ### Visits without a mistake -/

theorem IsNext.not_mem (h : IsNext doc done id rest) : id ∉ rest.filter (isLinkable doc) :=
  fun hmem ↦ h.free id (.inr (List.mem_of_mem_filter hmem)) .refl

theorem IsNext.new_not_mem (h : IsNext doc done id rest) {new : NodeId} (hnew : doc.size ≤ new) :
    new ∉ rest.filter (isLinkable doc) := fun hmem ↦ absurd hnew <| not_le.2 <|
  Document.lt_size_of_isOfKind (h.headings new (.inr (List.mem_of_mem_filter hmem)))

/-- A heading stays reachable while no other nodes than headings change. -/
theorem IsNext.reachable (h : IsNext doc done id rest) {current : Document}
    (hkept : ∀ other < doc.size, other ∉ id :: done → other ∉ rest →
      current.get? other = doc.get? other) : current.Reachable id := by
  refine h.outermost.way.lift (fun id ↦ id) fun upper lower hleads ↦ ?_
  have hnot {other : NodeId} (hother : doc.isOfKind isHeadingKind other = true) :
      upper ≠ other := by
    rintro rfl
    have hnotHeading := hleads.2
    rw [hother] at hnotHeading
    cases hnotHeading
  have hsame : current.get? upper = doc.get? upper := by
    refine hkept upper (Document.lt_size_of_names hleads.1) ?_ fun hmem ↦
      hnot (h.headings upper (.inr hmem)) rfl
    exact List.not_mem_cons_of_ne_of_not_mem (hnot h.outermost.kind) fun hmem ↦
      hnot (h.headings upper (.inl hmem)) rfl
  change lower ∈ current.children upper
  rw [children_congr hsame]
  exact hleads.1

/-- A link around the children of a heading makes no circle if nothing with its index was missing
below the heading. -/
theorem isAcyclicFrom_of_wrapped {before after : Document} {kind wrapper : Kind}
    {children : List NodeId} (h : before.IsAcyclicFrom Document.root) (hreach : before.Reachable id)
    (hcell : before.get? id = some ⟨kind, children⟩) (hsize : after.size = before.size + 1)
    (hcell' : after.get? id = some ⟨kind, [before.size]⟩)
    (hanchor : after.get? before.size = some ⟨wrapper, children⟩)
    (hkept : ∀ other < before.size, other ≠ id → after.get? other = before.get? other)
    (hfresh : ¬ Relation.TransGen before.Names id before.size) :
    after.IsAcyclicFrom Document.root := by
  have hid := Document.lt_size_of_get? hcell
  refine h.wrap hreach hid.ne (Document.children_of_get? hcell') ?_ (fun other hne hnew ↦ ?_) hfresh
  · rw [Document.children_of_get? hanchor, Document.children_of_get? hcell]
  · refine children_congr ?_
    rcases lt_or_gt_of_ne hnew with hlt | hgt
    · exact hkept other hlt hne
    · rw [Document.get?_eq_none_iff.2 hgt.le, Document.get?_eq_none_iff.2 (hsize ▸ hgt)]

/-- What the visit of a heading that is to link to itself should do. -/
structure LinksWell (className : List Char) (doc : Document) (p : Progress Unit) (id : NodeId)
    (p' : Progress Unit) : Prop where
  size : p'.doc.size = p.doc.size + 1
  acyclic : p'.doc.IsAcyclicFrom Document.root
  left : isDamaged doc id = true → p'.doc.get? id = doc.get? id
  linked : isDamaged doc id = false → IsLinkedAt className doc p'.doc id p.doc.size
  reported : ∃ errors, p'.diagnostics.errors = p.diagnostics.errors ++ errors ∧
    List.Forall₂ (IsReportOf doc) ([id].filter (isDamaged doc)) errors

/-- A visit does what it should if nothing is mistaken. -/
theorem LinkStep.linksWell {p p' : Progress Unit} (h : LinkStep className doc p id p')
    (hnext : IsNext doc done id rest) (huntouched : Untouched doc done p.doc)
    (hacyclic : p.doc.IsAcyclicFrom Document.root) (hlinkable : isLinkable doc id = true)
    (hid : IsUnmistaken doc id p.doc.size) : LinksWell className doc p id p' := by
  have hsame : p.doc.get? id = doc.get? id := hnext.kept_below huntouched hnext.lt_size .refl
  cases h with
  | left hleft =>
    obtain ⟨missing, hlt, hmissing, hway⟩ := hleft hlinkable
    exact absurd hlt (not_lt.2 (hid.earlier missing hway hmissing))
  | @failed wrapper child _ _ _ hchild hmissing =>
    have hle : doc.size ≤ child := huntouched.size.trans hmissing.le
    have hdamaged : isDamaged doc id = true :=
      List.any_eq_true.2 ⟨child, hchild, decide_eq_true hle⟩
    refine ⟨Document.size_alloc p.doc wrapper, hacyclic.congr (p.doc.children_alloc wrapper),
      fun _ ↦ ?_, fun hwhole ↦ ?_, _, rfl, ?_⟩
    · have hlt : id < p.doc.size := hnext.lt_size.trans_le huntouched.size
      rw [Document.get?_alloc, if_neg hlt.ne, hsame]
    · rw [hdamaged] at hwhole
      cases hwhole
    · rw [List.filter_cons_of_pos hdamaged]
      exact .cons ⟨child, hchild, hle, rfl⟩ .nil
  | @wrapped name kind children after _ hearlier hname hcell hchildren hsize hcell' hanchor hkept =>
    have hown : ¬ Relation.TransGen doc.Names id p.doc.size := by
      intro hway
      obtain ⟨child, hchild, hlt⟩ := hid.own hway
      rw [Document.children_of_get? hcell] at hchild
      exact absurd hlt (not_lt.2 (hchildren child hchild))
    have hfresh : ¬ Relation.TransGen p.doc.Names id p.doc.size := by
      intro hway
      rcases hnext.way_or_missing huntouched hway with hway | ⟨missing, hlt, hmissing, hway⟩
      · exact hown hway
      · exact absurd hlt (not_lt.2 (hearlier missing hway hmissing))
    -- a missing child would have the index of the new link
    have hwhole : isDamaged doc id = false := by
      refine List.any_eq_false.2 fun child hchild hmissing ↦ hown ?_
      have hway : Relation.TransGen doc.Names id child := .single hchild
      rw [Document.children_of_get? hcell] at hchild
      rwa [le_antisymm (hearlier child hway (of_decide_eq_true hmissing)) (hchildren child hchild)]
    have hreach := hnext.reachable fun other hlt hdone _ ↦
      huntouched.kept other hlt (List.not_mem_of_not_mem_cons hdone)
    refine ⟨hsize, isAcyclicFrom_of_wrapped hacyclic hreach (hsame.trans hcell) hsize hcell' hanchor
      hkept hfresh, fun hdamaged ↦ ?_,
      fun _ ↦ ⟨kind, children, name, hcell, hname, hcell', hanchor⟩, [], by simp, ?_⟩
    · rw [hwhole] at hdamaged
      cases hdamaged
    · rw [List.filter_cons_of_neg (by simp [hwhole])]
      exact .nil

theorem Isolates.refl {p : Progress Unit} (hacyclic : p.doc.IsAcyclicFrom Document.root) :
    Isolates className doc [] p p :=
  ⟨nofun, nofun, ⟨[], by simp, .nil⟩, hacyclic⟩

/-- What the first visit should do stays done if the others change neither the heading nor its
link. -/
theorem Isolates.cons {p p' p'' : Progress Unit} (h : Isolates className doc ids p' p'')
    (hwell : LinksWell className doc p id p') (hid : p''.doc.get? id = p'.doc.get? id)
    (hlink : p''.doc.get? p.doc.size = p'.doc.get? p.doc.size) :
    Isolates className doc (id :: ids) p p'' := by
  obtain ⟨first, hfirst, hfirstReports⟩ := hwell.reported
  obtain ⟨more, hmore, hmoreReports⟩ := h.reported
  have hlinked : isDamaged doc id = false → IsLinkedAt className doc p''.doc id p.doc.size := by
    intro hwhole
    obtain ⟨kind, children, name, hcell, hname, hcell', hanchor⟩ := hwell.linked hwhole
    exact ⟨kind, children, name, hcell, hname, hid.trans hcell', hlink.trans hanchor⟩
  refine ⟨List.forall_mem_cons.2 ⟨fun hdamaged ↦ hid.trans (hwell.left hdamaged), h.left⟩, ?_,
    ⟨first ++ more, ?_, ?_⟩, h.acyclic⟩
  · rw [List.zipIdx_cons, List.forall_mem_cons, ← hwell.size]
    exact ⟨hlinked, h.linked⟩
  · rw [hmore, hfirst, List.append_assoc]
  · rw [← List.singleton_append, List.filter_append]
    exact List.rel_append hfirstReports hmoreReports

/-- As long as nothing is mistaken, visits of headings do what they should. -/
theorem AreNext.isolates (h : AreNext doc done ids) : ∀ p : Progress Unit,
    Untouched doc done p.doc → p.doc.IsAcyclicFrom Document.root →
      (∀ slot ∈ (ids.filter (isLinkable doc)).zipIdx p.doc.size, IsUnmistaken doc slot.1 slot.2) →
        Isolates className doc (ids.filter (isLinkable doc)) p (linkAll className ids p) := by
  -- a link gets the size of the document as its index, which each visit then raises by one
  induction h with
  | nil => exact fun p _ hacyclic _ ↦ .refl hacyclic
  | @cons done rest id hnext hrest ih =>
    intro p huntouched hacyclic hunmistaken
    have hstep : LinkStep className doc p _ _ := hnext.visited_step huntouched
    have huntouched' := hstep.untouched huntouched
    rw [linkAll, List.foldl_cons, ← linkAll]
    generalize visited "heading-anchors".toList (wrapHeading className) p id = p' at *
    by_cases hlinkable : isLinkable doc id = true
    · rw [List.filter_cons_of_pos hlinkable] at hunmistaken ⊢
      rw [List.zipIdx_cons, List.forall_mem_cons] at hunmistaken
      have hwell := hstep.linksWell hnext huntouched hacyclic hlinkable hunmistaken.1
      have hran : Ran doc (rest.filter (isLinkable doc)) p' (linkAll className rest p') :=
        hrest.ran p' huntouched'
      have hlt : p.doc.size < p'.doc.size := hwell.size ▸ Nat.lt_succ_self _
      exact (ih p' huntouched' hwell.acyclic (hwell.size ▸ hunmistaken.2)).cons hwell
        (hran.kept id (hnext.lt_size.trans_le huntouched'.size) hnext.not_mem)
        (hran.kept p.doc.size hlt (hnext.new_not_mem huntouched.size))
    · rw [List.filter_cons_of_neg hlinkable] at hunmistaken ⊢
      obtain rfl := hstep.eq_of_not_linkable hlinkable
      exact ih _ huntouched' hacyclic hunmistaken

end Run

/-! ### The pass -/

section Pass

variable {doc : Document} {id : NodeId}

/-- The headings that are to link to themselves are the outermost ones that have an identifier and
no link below them. -/
theorem mem_linkables_iff (htree : doc.IsTreeBut isHeadingKind)
    (hroot : doc.isOfKind isHeadingKind Document.root = false) :
    id ∈ linkables doc ↔ doc.IsOutermost isHeadingKind id ∧
      (∃ name, doc.attribute? id .id = some name) ∧ ¬ HoldsLink doc id := by
  rw [linkables, List.mem_filter, htree.mem_topsFrom_iff hroot]
  refine and_congr_right fun hid ↦ ?_
  have hholds : doc.anyDescendant id isLink = true ↔ HoldsLink doc id :=
    (htree.acyclic.of_way hid.reachable).anyDescendant_iff
      (Document.lt_size_of_isOfKind hid.kind)
  rw [isLinkable, Bool.and_eq_true, Option.isSome_iff_exists, ← hholds, Bool.not_eq_true',
    Bool.not_eq_true]

theorem exists_slot {ids : List NodeId} (hid : id ∈ ids) (start : Nat) :
    ∃ link, start ≤ link ∧ (id, link) ∈ ids.zipIdx start := by
  rw [← List.zipIdx_map_fst start ids] at hid
  obtain ⟨⟨id, link⟩, hslot, rfl⟩ := List.mem_map.1 hid
  exact ⟨link, List.le_snd_of_mem_zipIdx hslot, hslot⟩

theorem Untouched.refl (doc : Document) : Untouched doc [] doc :=
  ⟨le_rfl, fun _ _ _ ↦ rfl, fun _ hlt hle ↦ absurd hlt (not_lt.2 hle)⟩

theorem areNext_topsFrom (htree : doc.IsTreeBut isHeadingKind)
    (hroot : doc.isOfKind isHeadingKind Document.root = false) :
    AreNext doc [] (doc.topsFrom isHeadingKind doc.size Document.root) :=
  .of_nodup htree.acyclic (htree.nodup_topsFrom _ .refl hroot) fun _ hid ↦
    (htree.mem_topsFrom_iff hroot).1 hid

/-- The pass for self-links makes of a document what visits of its outermost headings make of it. -/
theorem headingAnchors_apply_eq (htree : doc.IsTreeBut isHeadingKind)
    (hroot : doc.isOfKind isHeadingKind Document.root = false) (className : List Char)
    (d : Diagnostics) :
    let after := linkAll className (doc.topsFrom isHeadingKind doc.size Document.root) ⟨(), doc, d⟩
    (headingAnchors className).apply doc d = (.ok after.doc, after.diagnostics) :=
  (wrapHeading_staysAt className).walk_eq "heading-anchors".toList htree.exists_child
    htree.exists_root hroot () d

end Pass

end Galley.Enrich
