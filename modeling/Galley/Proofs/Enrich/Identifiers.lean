import Galley.Proofs.Enrich.Visits
import Galley.Proofs.Slug

/-!
Identifiers of the headings of a document. The pass for identifiers changes nothing but the
identifiers of headings that have none, or an empty one, and gives each of these one that no heading
before it has (`headingIds_apply`). An identifier that a later heading has already is not known when
an earlier heading gets its own, so identifiers are distinct if and only if no heading is given one
that a later heading came with (`headingIds_are_distinct_iff`).
-/

set_option autoImplicit false
set_option relaxedAutoImplicit false

namespace Galley.Enrich

open Html

/-- The headings of a document, in the order in which they are written. -/
def headings (doc : Document) : List NodeId := doc.nodes.filter (doc.isOfKind isHeadingKind)

/-- The identifier of a node, unless it is empty. -/
def name? (doc : Document) (id : NodeId) : Option (List Char) :=
  (doc.attribute? id .id).filter (!·.isEmpty)

/-- A node keeps an identifier that is not empty, or else it gets one that is not. -/
def IsNamedFrom (before after : Document) (id : NodeId) : Prop :=
  match name? before id with
  | some _ => after.get? id = before.get? id
  | none => ∃ tag attrs children name, name ≠ [] ∧
    before.get? id = some ⟨.element tag attrs, children⟩ ∧
      after.get? id = some ⟨.element tag (attrs.set .id name), children⟩

/-- Headings were given identifiers one after the other: nothing else changes, none gets one that
was taken before, and none gets one that an earlier one has. -/
structure Assigned (ids : List NodeId) (p p' : Progress Slugger) : Prop where
  diagnostics : p'.diagnostics = p.diagnostics
  size : p'.doc.size = p.doc.size
  kept : ∀ id ∉ ids, p'.doc.get? id = p.doc.get? id
  named : ∀ id ∈ ids, IsNamedFrom p.doc p'.doc id
  fresh : ∀ id ∈ ids, name? p.doc id = none → ∀ name ∈ p.state.used, name? p'.doc id ≠ some name
  apart : ids.Pairwise fun earlier later ↦ name? p.doc later = none →
    name? p'.doc earlier ≠ name? p'.doc later

section Nodes

variable {doc other before after : Document} {id : NodeId} {tag : List Char} {attrs : Attributes}
  {ids : List NodeId}

theorem heading?_isSome (doc : Document) (id : NodeId) :
    (heading? doc id).isSome = doc.isOfKind isHeadingKind id := by
  rw [heading?, Document.element?, Document.isOfKind]
  rcases doc.get? id with _ | ⟨kind, children⟩
  · rfl
  · cases kind with
    | element tag attrs =>
      cases hlevel : (headingLevel? tag).isSome <;> simp [isHeadingKind, hlevel]
    | _ => rfl

theorem exists_heading (h : doc.isOfKind isHeadingKind id = true) : ∃ tag attrs children,
    doc.get? id = some ⟨.element tag attrs, children⟩ ∧ (headingLevel? tag).isSome = true := by
  obtain ⟨⟨kind, children⟩, hcell, hkind⟩ := Document.exists_of_isOfKind h
  cases kind with
  | element tag attrs => exact ⟨tag, attrs, children, hcell, hkind⟩
  | _ => cases hkind

theorem heading?_of_get? (hcell : doc.get? id = some ⟨.element tag attrs, ids⟩)
    (htag : (headingLevel? tag).isSome = true) : heading? doc id = some attrs := by
  simp [heading?, Document.element?, hcell, htag]

theorem heading?_eq_none (h : doc.isOfKind isHeadingKind id = false) : heading? doc id = none := by
  rw [← Option.not_isSome_iff_eq_none, heading?_isSome, h]
  exact Bool.false_ne_true

theorem name?_of_get? (hcell : doc.get? id = some ⟨.element tag attrs, ids⟩) :
    name? doc id = (attrs.get? .id).filter (!·.isEmpty) := by
  simp [name?, Document.attribute?, Document.element?, hcell]

theorem name?_congr (h : other.get? id = doc.get? id) : name? other id = name? doc id := by
  simp [name?, Document.attribute?, Document.element?, h]

theorem IsNamedFrom.congr {before' after' : Document} (h : IsNamedFrom before after id)
    (hbefore : before'.get? id = before.get? id) (hafter : after'.get? id = after.get? id) :
    IsNamedFrom before' after' id := by
  unfold IsNamedFrom at h ⊢
  rwa [name?_congr hbefore, hbefore, hafter]

theorem IsNamedFrom.name?_eq (h : IsNamedFrom before after id) {name : List Char}
    (hname : name? before id = some name) : name? after id = some name := by
  rw [IsNamedFrom, hname] at h
  rw [name?_congr h, hname]

/-- Whether a node gets an identifier or keeps one, it has one then. -/
theorem IsNamedFrom.isSome (h : IsNamedFrom before after id) : (name? after id).isSome = true := by
  cases hname : name? before id with
  | some name =>
    rw [h.name?_eq hname]
    rfl
  | none =>
    rw [IsNamedFrom, hname] at h
    obtain ⟨tag, attrs, children, name, hne, -, hcell⟩ := h
    simp [name?_of_get? hcell, Attributes.get?_set_self, Option.filter, hne]

theorem IsNamedFrom.children (h : IsNamedFrom before after id) :
    after.children id = before.children id := by
  unfold IsNamedFrom at h
  split at h
  · rw [Document.children, h, Document.children]
  · obtain ⟨tag, attrs, children, name, -, hbefore, hafter⟩ := h
    rw [Document.children_of_get? hbefore, Document.children_of_get? hafter]

/-- A node stays of every kind that does not depend on attributes. -/
theorem IsNamedFrom.isOfKind_eq {test : Kind → Bool} (h : IsNamedFrom before after id)
    (htest : ∀ tag attrs attrs', test (.element tag attrs) = test (.element tag attrs')) :
    after.isOfKind test id = before.isOfKind test id := by
  unfold IsNamedFrom at h
  split at h
  · exact isOfKind_congr h
  · obtain ⟨tag, attrs, children, name, -, hbefore, hafter⟩ := h
    rw [Document.isOfKind_of_get? hbefore, Document.isOfKind_of_get? hafter]
    exact htest tag _ _

theorem IsNamedFrom.isOfKind (h : IsNamedFrom before after id) :
    after.isOfKind isHeadingKind id = before.isOfKind isHeadingKind id :=
  h.isOfKind_eq fun _ _ _ ↦ rfl

end Nodes

/-! ### One visit -/

section Visit

variable {p : Progress Slugger} {id : NodeId}

theorem assignId_of_notHeading (h : p.doc.isOfKind isHeadingKind id = false) :
    assignId p id = (p, .ok .descend) := by
  rw [assignId, heading?_eq_none h]

/-- The visit of a heading ends with a name being taken that the heading has then. If the heading
came without one, the name was free. -/
theorem assignId_heading (h : p.doc.isOfKind isHeadingKind id = true) : ∃ name doc,
    assignId p id = (⟨p.state.reserve name, doc, p.diagnostics⟩, .ok .skip) ∧
      doc.size = p.doc.size ∧ (∀ other ≠ id, doc.get? other = p.doc.get? other) ∧
        IsNamedFrom p.doc doc id ∧ name? doc id = some name ∧
          (name? p.doc id = none → name ∉ p.state.used) := by
  obtain ⟨tag, attrs, children, hcell, htag⟩ := exists_heading h
  have hname := name?_of_get? hcell
  rw [assignId, heading?_of_get? hcell htag]
  dsimp only
  have hnew (hnone : name? p.doc id = none) :
      let slug := p.state.nameFor (headingId (p.doc.textContent id))
      let doc := p.doc.setAttributes id (attrs.set .id slug)
      doc.size = p.doc.size ∧ (∀ other ≠ id, doc.get? other = p.doc.get? other) ∧
        IsNamedFrom p.doc doc id ∧ name? doc id = some slug ∧
          (name? p.doc id = none → slug ∉ p.state.used) := by
    intro slug doc
    have hslug : slug ≠ [] := Slugger.nameFor_ne_nil (headingId_ne_nil _)
    have hcell' : doc.get? id = some ⟨.element tag (attrs.set .id slug), children⟩ :=
      Document.get?_setAttributes_self hcell _
    refine ⟨by simp [doc, Document.setAttributes, Document.modify, Document.size],
      fun other hother ↦ Document.get?_setAttributes_of_ne hother _, ?_, ?_,
      fun _ ↦ Slugger.nameFor_notMem _ _⟩
    · rw [IsNamedFrom, hnone]
      exact ⟨tag, attrs, children, slug, hslug, hcell, hcell'⟩
    · simp [name?_of_get? hcell', Attributes.get?_set_self, Option.filter, hslug]
  rcases hid : attrs.get? .id with _ | _ | ⟨c, rest⟩
  · rw [hid] at hname
    exact ⟨_, _, rfl, hnew hname⟩
  · rw [hid] at hname
    exact ⟨_, _, rfl, hnew hname⟩
  · rw [hid] at hname
    have hsome : name? p.doc id = some (c :: rest) := hname
    refine ⟨c :: rest, p.doc, rfl, rfl, fun _ _ ↦ rfl, ?_, hsome, by simp [hsome]⟩
    rw [IsNamedFrom, hsome]

theorem assignId_staysAt : StaysAt assignId isHeadingKind where
  descend _ _ := assignId_of_notHeading
  skip p id h outcome houtcome := by
    obtain ⟨name, doc, hvisit, -⟩ := assignId_heading h
    rw [hvisit] at houtcome
    cases houtcome
    rfl
  kept p id h other _ hne := by
    obtain ⟨name, doc, hvisit, -, hkept, -⟩ := assignId_heading h
    rw [hvisit]
    exact hkept other hne
  stays p id h := by
    obtain ⟨name, doc, hvisit, -, -, hnamed, -⟩ := assignId_heading h
    rw [hvisit]
    exact hnamed.isOfKind.trans h

end Visit

/-! ### All visits -/

namespace Assigned

variable {ids : List NodeId} {id : NodeId} {p p' p'' : Progress Slugger}

theorem nil (p : Progress Slugger) : Assigned [] p p :=
  ⟨rfl, rfl, fun _ _ ↦ rfl, nofun, nofun, .nil⟩

/-- A heading is given an identifier before the others. -/
theorem cons {name : List Char} (h : Assigned ids p' p'') (hid : id ∉ ids)
    (hdiagnostics : p'.diagnostics = p.diagnostics) (hsize : p'.doc.size = p.doc.size)
    (hkept : ∀ other ≠ id, p'.doc.get? other = p.doc.get? other)
    (hnamed : IsNamedFrom p.doc p'.doc id) (hname : name? p'.doc id = some name)
    (hfree : name? p.doc id = none → name ∉ p.state.used)
    (hused : p'.state.used = name :: p.state.used) :
    Assigned (id :: ids) p p'' := by
  have hother : ∀ other ∈ ids, p'.doc.get? other = p.doc.get? other := fun other hmem ↦
    hkept other fun heq ↦ hid (heq ▸ hmem)
  have hself : p''.doc.get? id = p'.doc.get? id := h.kept id hid
  have hname' : name? p''.doc id = some name := (name?_congr hself).trans hname
  refine ⟨h.diagnostics.trans hdiagnostics, h.size.trans hsize, fun other hmem ↦ ?_, ?_, ?_, ?_⟩
  · rw [List.mem_cons, not_or] at hmem
    rw [h.kept other hmem.2, hkept other hmem.1]
  · refine List.forall_mem_cons.2 ⟨hnamed.congr rfl hself, fun other hmem ↦ ?_⟩
    exact (h.named other hmem).congr (hother other hmem).symm rfl
  · refine List.forall_mem_cons.2
      ⟨fun hnone taken htaken ↦ ?_, fun other hmem hnone taken htaken ↦ ?_⟩
    · rw [hname']
      rintro ⟨⟩
      exact hfree hnone htaken
    · exact h.fresh other hmem ((name?_congr (hother other hmem)).trans hnone) taken
        (hused ▸ List.mem_cons_of_mem _ htaken)
  · refine List.pairwise_cons.2 ⟨fun other hmem hnone ↦ ?_, h.apart.imp_of_mem ?_⟩
    · rw [hname']
      exact (h.fresh other hmem ((name?_congr (hother other hmem)).trans hnone) name
        (hused ▸ List.mem_cons_self)).symm
    · intro earlier later _ hlater hapart hnone
      exact hapart ((name?_congr (hother later hlater)).trans hnone)

/-- Visits give identifiers to headings. -/
theorem foldl (name : List Char) (hnodup : ids.Nodup) :
    ∀ p : Progress Slugger, (∀ id ∈ ids, p.doc.isOfKind isHeadingKind id = true) →
      Assigned ids p (ids.foldl (visited name assignId) p) := by
  induction ids with
  | nil => exact fun p _ ↦ .nil p
  | cons id rest ih =>
    intro p hheadings
    obtain ⟨hid, hrest⟩ := List.nodup_cons.1 hnodup
    obtain ⟨slug, doc, hvisit, hsize, hkept, hnamed, hslug, hfree⟩ :=
      assignId_heading (hheadings id List.mem_cons_self)
    have hstep : visited name assignId p id = ⟨p.state.reserve slug, doc, p.diagnostics⟩ := by
      rw [visited, hvisit]
    rw [List.foldl_cons, hstep]
    have hlast := ih hrest ⟨p.state.reserve slug, doc, p.diagnostics⟩ fun other hother ↦
      (isOfKind_congr (hkept other fun heq ↦ hid (heq ▸ hother))).trans
        (hheadings other (List.mem_cons_of_mem _ hother))
    exact hlast.cons hid rfl hsize hkept hnamed hslug hfree rfl

end Assigned

/-! ### The pass -/

section Pass

variable {doc doc' : Document} {trees : List Markup} {area : Multiset NodeId}

theorem nodesFrom_congr (h : ∀ id, doc'.children id = doc.children id) (depth : Nat) (id : NodeId) :
    doc'.nodesFrom depth id = doc.nodesFrom depth id := by
  induction depth generalizing id with
  | zero => rfl
  | succ depth ih =>
    rw [Document.nodesFrom, Document.nodesFrom, h]
    exact congrArg (id :: ·) (List.flatMap_congr fun child _ ↦ ih child)

/-- Where headings were given identifiers, every node has the children that it had. -/
theorem Assigned.children {p p' : Progress Slugger} {ids : List NodeId} (h : Assigned ids p p')
    (id : NodeId) : p'.doc.children id = p.doc.children id := by
  by_cases hid : id ∈ ids
  · exact (h.named id hid).children
  · rw [Document.children, h.kept id hid, Document.children]

/-- Where headings were given identifiers, every node is of the same kind, apart from attributes. -/
theorem Assigned.isOfKind {p p' : Progress Slugger} {ids : List NodeId} (h : Assigned ids p p')
    {test : Kind → Bool}
    (htest : ∀ tag attrs attrs', test (.element tag attrs) = test (.element tag attrs'))
    (id : NodeId) : p'.doc.isOfKind test id = p.doc.isOfKind test id := by
  by_cases hid : id ∈ ids
  · exact (h.named id hid).isOfKind_eq htest
  · exact isOfKind_congr (h.kept id hid)

/-- Where headings were given identifiers, the same nodes are there, and the same are headings. -/
theorem headings_of_assigned {p p' : Progress Slugger} {ids : List NodeId}
    (h : Assigned ids p p') : headings p'.doc = headings p.doc := by
  have hkind : p'.doc.isOfKind isHeadingKind = p.doc.isOfKind isHeadingKind :=
    funext (h.isOfKind fun _ _ _ ↦ rfl)
  rw [headings, headings, hkind, Document.nodes, Document.nodes, nodesFrom_congr h.children, h.size]

theorem mem_headings_iff (hspans : doc.Spans [Document.root] trees area) (hnodup : area.Nodup)
    {id : NodeId} : id ∈ headings doc ↔ doc.Reachable id ∧ (heading? doc id).isSome = true := by
  rw [headings, List.mem_filter, hspans.mem_nodes_iff hnodup, heading?_isSome]

theorem nodup_headings (hspans : doc.Spans [Document.root] trees area) (hnodup : area.Nodup) :
    (headings doc).Nodup :=
  (hspans.nodup_nodes hnodup).filter (doc.isOfKind isHeadingKind)

/-- The pass for identifiers succeeds on a document of the shape of a tree without headings in
headings, and gives its headings identifiers. -/
theorem headingIds_apply (hspans : doc.Spans [Document.root] trees area) (hnodup : area.Nodup)
    (hroot : doc.isOfKind isHeadingKind Document.root = false)
    (hflat : doc.IsFlat isHeadingKind) (d : Diagnostics) : ∃ slugger doc',
      headingIds.apply doc d = (.ok doc', d) ∧
        Assigned (headings doc) ⟨.empty, doc, d⟩ ⟨slugger, doc', d⟩ := by
  have hwalk := assignId_staysAt.walk_nodes "heading-ids".toList hspans hnodup hroot hflat
    Slugger.empty d
  rw [← headings] at hwalk
  have hassigned := Assigned.foldl "heading-ids".toList (nodup_headings hspans hnodup)
    ⟨.empty, doc, d⟩ fun id hid ↦ (List.mem_filter.1 hid).2
  rcases hafter : (headings doc).foldl (visited "heading-ids".toList assignId)
    ⟨.empty, doc, d⟩ with ⟨slugger, doc', d'⟩
  rw [hafter] at hassigned hwalk
  obtain rfl : d' = d := hassigned.diagnostics
  exact ⟨slugger, doc', hwalk, hassigned⟩

/-- On a document of the shape of a tree, without headings in headings, whose headings have distinct
identifiers as far as they have any, the pass for identifiers changes nothing but the identifiers of
headings that have none, or an empty one. All headings have one then, and these are distinct if and
only if no heading was given one that a later heading came with. -/
theorem headingIds_are_distinct_iff (htree : doc.IsTree)
    (hroot : doc.isOfKind isHeadingKind Document.root = false)
    (hflat : doc.IsFlat isHeadingKind)
    (hdistinct : ((headings doc).filterMap (name? doc)).Nodup) (d : Diagnostics) : ∃ doc',
      headingIds.apply doc d = (.ok doc', d) ∧
        (∀ id, id ∈ headings doc ↔ doc.Reachable id ∧ (heading? doc id).isSome = true) ∧
        headings doc' = headings doc ∧ doc'.size = doc.size ∧
        (∀ id ∉ headings doc, doc'.get? id = doc.get? id) ∧
        (∀ id ∈ headings doc, IsNamedFrom doc doc' id ∧ (name? doc' id).isSome = true) ∧
        (((headings doc).map (name? doc')).Nodup ↔
          (headings doc).Pairwise fun earlier later ↦ name? doc earlier = none →
            name? doc later ≠ name? doc' earlier) := by
  obtain ⟨tree, area, hspans, hnodup, -⟩ := Document.isTree_iff.1 htree
  obtain ⟨slugger, doc', happly, h⟩ := headingIds_apply hspans hnodup hroot hflat d
  refine ⟨doc', happly, fun id ↦ mem_headings_iff hspans hnodup, headings_of_assigned h, h.size,
    h.kept, fun id hid ↦ ⟨h.named id hid, (h.named id hid).isSome⟩, ?_⟩
  have hpairs : (headings doc).Pairwise fun earlier later ↦
      (name? doc' earlier ≠ name? doc' later ↔
        (name? doc earlier = none → name? doc later ≠ name? doc' earlier)) := by
    refine (h.apart.and (List.pairwise_filterMap.1 hdistinct)).imp_of_mem ?_
    intro earlier later hearlier hlater ⟨hapart, hother⟩
    cases hname : name? doc later with
    | none =>
      refine iff_of_true (hapart hname) fun _ heq ↦ ?_
      have hsome := (h.named earlier hearlier).isSome
      rw [← heq] at hsome
      cases hsome
    | some name =>
      have hkept : name? doc' later = some name := (h.named later hlater).name?_eq hname
      cases hname' : name? doc earlier with
      | none => rw [hkept, ne_comm, imp_iff_right rfl]
      | some name' =>
        have hkept' : name? doc' earlier = some name' := (h.named earlier hearlier).name?_eq hname'
        refine iff_of_true ?_ nofun
        rw [hkept, hkept', ne_eq, Option.some.injEq]
        exact hother name' hname' name hname
  rw [List.Nodup, List.pairwise_map]
  exact ⟨fun hall ↦ (hpairs.and hall).imp fun ⟨hiff, hne⟩ ↦ hiff.1 hne,
    fun hall ↦ (hpairs.and hall).imp fun ⟨hiff, hne⟩ ↦ hiff.2 hne⟩

end Pass

/-! ### Two headings -/

/-- A document of two headings that say "Setup". -/
def twoHeadings (first second : Attributes) : Document :=
  ⟨#[⟨.root, [1, 3]⟩, ⟨.element "h2".toList first, [2]⟩, ⟨.text "Setup".toList, []⟩,
    ⟨.element "h2".toList second, [4]⟩, ⟨.text "Setup".toList, []⟩]⟩

/-- The attributes of a heading with the identifier that "Setup" asks for. -/
def setupAttributes : Attributes := Attributes.empty.set .id "setup".toList

theorem twoHeadings_spans (first second : Attributes) : ∃ area,
    (twoHeadings first second).Spans [Document.root] [.node .root
      [.element "h2".toList first [.leaf "Setup".toList],
        .element "h2".toList second [.leaf "Setup".toList]]] area ∧ area.Nodup :=
  ⟨_, .singleton rfl (.cons rfl (.cons rfl .nil .nil) (.singleton rfl (.cons rfl .nil .nil))),
    by decide⟩

theorem twoHeadings_isTree (first second : Attributes) : (twoHeadings first second).IsTree := by
  obtain ⟨area, hspans, hnodup⟩ := twoHeadings_spans first second
  refine .of_spans hspans hnodup ?_
  simp [Markup.IsBare, Markup.kind, Markup.children, Kind.isLeaf, isVoid, voidElements]

theorem twoHeadings_isFlat (first second : Attributes) :
    (twoHeadings first second).IsFlat isHeadingKind := by
  obtain ⟨area, hspans, -⟩ := twoHeadings_spans first second
  refine hspans.isFlat ?_
  simp [Markup.kind, Markup.children, isHeadingKind]

/-- A heading that comes after one with its identifier gets another one. -/
theorem headingIds_are_distinct_iff_of_setup : ∃ doc',
    headingIds.apply (twoHeadings setupAttributes .empty) {} = (.ok doc', {}) ∧
      (∀ id, id ∈ headings (twoHeadings setupAttributes .empty) ↔
        (twoHeadings setupAttributes .empty).Reachable id ∧
          (heading? (twoHeadings setupAttributes .empty) id).isSome = true) ∧
      headings doc' = headings (twoHeadings setupAttributes .empty) ∧
      doc'.size = (twoHeadings setupAttributes .empty).size ∧
      (∀ id ∉ headings (twoHeadings setupAttributes .empty),
        doc'.get? id = (twoHeadings setupAttributes .empty).get? id) ∧
      (∀ id ∈ headings (twoHeadings setupAttributes .empty),
        IsNamedFrom (twoHeadings setupAttributes .empty) doc' id ∧ (name? doc' id).isSome = true) ∧
      (((headings (twoHeadings setupAttributes .empty)).map (name? doc')).Nodup ↔
        (headings (twoHeadings setupAttributes .empty)).Pairwise fun earlier later ↦
          name? (twoHeadings setupAttributes .empty) earlier = none →
            name? (twoHeadings setupAttributes .empty) later ≠ name? doc' earlier) :=
  headingIds_are_distinct_iff (twoHeadings_isTree _ _) rfl (twoHeadings_isFlat _ _) (by decide) {}

/-- A heading before one with the identifier that its text asks for is given the same one. -/
theorem later_setup_has_same_identifier :
    (twoHeadings .empty setupAttributes).IsTree ∧
      (twoHeadings .empty setupAttributes).isOfKind isHeadingKind Document.root = false ∧
      (twoHeadings .empty setupAttributes).IsFlat isHeadingKind ∧
      ((headings (twoHeadings .empty setupAttributes)).filterMap
        (name? (twoHeadings .empty setupAttributes))).Nodup ∧
      ∃ doc', headingIds.apply (twoHeadings .empty setupAttributes) {} = (.ok doc', {}) ∧
        (headings doc').map (name? doc') = [some "setup".toList, some "setup".toList] :=
  ⟨twoHeadings_isTree _ _, rfl, twoHeadings_isFlat _ _, by decide,
    twoHeadings setupAttributes setupAttributes, by decide, by decide⟩

end Galley.Enrich
