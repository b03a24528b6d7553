import Galley.Proofs.Enrich.HeadingVisits
import Galley.Proofs.Enrich.Shape

/-!
Self-links of headings. The pass for self-links changes nothing but the children of headings that
have an identifier and contain no link: each of them gets a new link as its only child, which has
the former children (`headingAnchors_apply`). After the pass for identifiers no heading is without
one, so that all of them link to themselves or contain a link (`exists_areAnchored`).
-/

set_option autoImplicit false
set_option relaxedAutoImplicit false

namespace Galley.Enrich

open Html

/-- The only child of a node is a new link to it that has its former children. -/
def HasSelfLink (className name : List Char) (before after : Document) (id : NodeId) : Prop :=
  ∃ anchor, before.size ≤ anchor ∧ after.children id = [anchor] ∧
    after.get? anchor = some ⟨.element ['a'] (anchorAttributes className name), before.children id⟩

/-- The children of a heading are put into a link to it, unless it has no identifier or contains a
link. -/
structure IsLinkedFrom (className : List Char) (before after : Document) (id : NodeId) : Prop where
  element : after.element? id = before.element? id
  left : before.attribute? id .id = none ∨ before.anyDescendant id isLink = true →
    after.children id = before.children id
  linked : ∀ name, before.attribute? id .id = some name → before.anyDescendant id isLink = false →
    HasSelfLink className name before after id

section Nodes

variable {className : List Char} {before after : Document} {id link : NodeId}

theorem isLinkable_eq_false_iff : isLinkable before id = false ↔
    before.attribute? id .id = none ∨ before.anyDescendant id isLink = true := by
  rw [isLinkable, Bool.and_eq_false_iff, Option.isSome_eq_false_iff, Option.isNone_iff_eq_none,
    Bool.not_eq_false']

theorem IsLinkedFrom.of_kept (hkept : after.get? id = before.get? id)
    (hnot : isLinkable before id = false) : IsLinkedFrom className before after id where
  element := element?_congr hkept
  left _ := children_congr hkept
  linked name hname hlink := by
    rw [isLinkable, hname, hlink] at hnot
    cases hnot

/-- A heading that has a link at a new index links to itself. -/
theorem IsLinkedAt.isLinkedFrom (h : IsLinkedAt className before after id link)
    (hnew : before.size ≤ link) (hlinkable : isLinkable before id = true) :
    IsLinkedFrom className before after id := by
  obtain ⟨kind, children, name, hcell, hname, hcell', hanchor⟩ := h
  refine ⟨?_, fun hleft ↦ ?_, fun name' hname' _ ↦ ?_⟩
  · rw [Document.element?, Document.element?, hcell, hcell']
    cases kind <;> rfl
  · rw [← isLinkable_eq_false_iff, hlinkable] at hleft
    cases hleft
  · obtain rfl : name = name' := Option.some.inj (hname.symm.trans hname')
    refine ⟨link, hnew, Document.children_of_get? hcell', ?_⟩
    rw [Document.children_of_get? hcell, hanchor]

end Nodes

/-! ### The pass -/

section Pass

variable {doc : Document} {trees : List Markup} {area : Multiset NodeId} {id link : NodeId}

theorem isDamaged_eq_false (h : doc.HasTreeShape) (hid : doc.Reachable id) :
    isDamaged doc id = false :=
  List.any_eq_false.2 fun child hchild hmissing ↦
    absurd (h.exists_node child (hid.tail hchild)) (not_lt.2 (of_decide_eq_true hmissing))

theorem isUnmistaken_of_hasTreeShape (h : doc.HasTreeShape) (hid : doc.Reachable id)
    (hnew : doc.size ≤ link) : IsUnmistaken doc id link :=
  .of_forall_lt hnew fun missing hway hmissing ↦
    absurd (h.exists_node missing (hid.trans hway.to_reflTransGen)) (not_lt.2 hmissing)

/-- The pass for self-links succeeds on a document of the shape of a tree. It adds a link for each
heading that is to link to itself, and changes no other node. -/
theorem headingAnchors_apply_tree (h : doc.HasTreeShape)
    (hroot : doc.isOfKind isHeadingKind Document.root = false) (className : List Char)
    (d : Diagnostics) : ∃ doc', (headingAnchors className).apply doc d = (.ok doc', d) ∧
      (∀ id < doc.size, id ∉ linkables doc → doc'.get? id = doc.get? id) ∧
        ∀ id ∈ linkables doc, ∃ link, doc.size ≤ link ∧ IsLinkedAt className doc doc' id link := by
  have htree := h.isTreeBut isHeadingKind
  have hreach {id : NodeId} (hid : id ∈ linkables doc) : doc.Reachable id :=
    ((mem_linkables_iff htree hroot).1 hid).1.reachable
  have hunmistaken : ∀ slot ∈ (linkables doc).zipIdx doc.size, IsUnmistaken doc slot.1 slot.2 :=
    fun slot hslot ↦ isUnmistaken_of_hasTreeShape h (hreach (List.fst_mem_of_mem_zipIdx hslot))
      (List.le_snd_of_mem_zipIdx hslot)
  have hnext := areNext_topsFrom htree hroot
  have happly := headingAnchors_apply_eq htree hroot className d
  have hran := @AreNext.ran className _ _ _ hnext ⟨(), doc, d⟩ (.refl doc)
  have hisolates := @AreNext.isolates className _ _ _ hnext ⟨(), doc, d⟩ (.refl doc) htree.acyclic
    hunmistaken
  rw [← linkables] at hran hisolates
  dsimp only at happly
  generalize linkAll className (doc.topsFrom isHeadingKind doc.size Document.root) ⟨(), doc, d⟩ = p'
    at *
  have hwhole : (linkables doc).filter (isDamaged doc) = [] := by
    rw [List.filter_eq_nil_iff]
    exact fun id hid ↦ by simp [isDamaged_eq_false h (hreach hid)]
  obtain ⟨errors, herrors, hreports⟩ := hisolates.reported
  obtain rfl : errors = [] := by
    rw [hwhole] at hreports
    cases hreports
    rfl
  have hdiagnostics : p'.diagnostics = d := by
    rw [hran.diagnostics_eq herrors, List.append_nil]
  refine ⟨p'.doc, hdiagnostics ▸ happly, hran.kept, fun id hid ↦ ?_⟩
  obtain ⟨link, hnew, hslot⟩ := exists_slot hid doc.size
  exact ⟨link, hnew, hisolates.linked _ hslot (isDamaged_eq_false h (hreach hid))⟩

/-- Without headings in headings, the headings that are to link to themselves are those that have an
identifier and contain no link. -/
theorem linkables_eq (hspans : doc.Spans [Document.root] trees area) (hnodup : area.Nodup)
    (hroot : doc.isOfKind isHeadingKind Document.root = false) (hflat : doc.IsFlat isHeadingKind) :
    linkables doc = (headings doc).filter (isLinkable doc) := by
  rw [linkables, headings, Document.filter_nodes_eq hspans hnodup hflat hroot]

/-- The pass for self-links succeeds on a document of the shape of a tree without headings in
headings, and makes its headings link to themselves. Nothing else changes. -/
theorem headingAnchors_apply (hspans : doc.Spans [Document.root] trees area) (hnodup : area.Nodup)
    (hroot : doc.isOfKind isHeadingKind Document.root = false) (hflat : doc.IsFlat isHeadingKind)
    (className : List Char) (d : Diagnostics) : ∃ doc',
      (headingAnchors className).apply doc d = (.ok doc', d) ∧
        (∀ id < doc.size, id ∉ headings doc → doc'.get? id = doc.get? id) ∧
          ∀ id ∈ headings doc, IsLinkedFrom className doc doc' id := by
  obtain ⟨doc', happly, hkept, hlinked⟩ :=
    headingAnchors_apply_tree (.of_spans hspans hnodup) hroot className d
  rw [linkables_eq hspans hnodup hroot hflat] at hkept hlinked
  refine ⟨doc', happly, fun id hlt hid ↦ hkept id hlt fun hmem ↦ hid (List.mem_of_mem_filter hmem),
    fun id hid ↦ ?_⟩
  cases hlinkable : isLinkable doc id with
  | true =>
    obtain ⟨link, hnew, hlink⟩ := hlinked id (List.mem_filter.2 ⟨hid, hlinkable⟩)
    exact hlink.isLinkedFrom hnew hlinkable
  | false =>
    have hlt := Document.lt_size_of_isOfKind (List.mem_filter.1 hid).2
    refine .of_kept (hkept id hlt fun hmem ↦ ?_) hlinkable
    rw [(List.mem_filter.1 hmem).2] at hlinkable
    cases hlinkable

end Pass

/-! ### Both passes -/

/-- A heading has a name, by which it links to itself unless it held a link before. -/
structure IsAnchored (className name : List Char) (before after : Document) (id : NodeId) :
    Prop where
  ne_nil : name ≠ []
  tag : (after.element? id).map Prod.fst = (before.element? id).map Prod.fst
  has_name : after.attribute? id .id = some name
  others : ∀ key, key ≠ .id → after.attribute? id key = before.attribute? id key
  left : HoldsLink before id → after.children id = before.children id
  linked : ¬ HoldsLink before id → HasSelfLink className name before after id

/-- All headings are anchored, and nothing else changes. -/
structure AreAnchored (className : List Char) (before after : Document) : Prop where
  kept : ∀ id < before.size, id ∉ headings before → after.get? id = before.get? id
  anchored : ∀ id ∈ headings before, ∃ name, IsAnchored className name before after id

section Both

variable {doc other before after : Document} {className : List Char} {id : NodeId}

/-- A search for links below a node finds one if and only if one lies there. -/
theorem anyDescendant_iff_holdsLink {tree : Markup} {area : Multiset NodeId}
    (hspans : doc.Spans [id] [tree] area) :
    doc.anyDescendant id isLink = true ↔ HoldsLink doc id :=
  have hid := hspans.mem_area_of_mem (List.mem_singleton_self id)
  (hspans.isAcyclicFrom hid).anyDescendant_iff (hspans.lt_size hid)

theorem name?_eq_some {name : List Char} (h : name? doc id = some name) :
    doc.attribute? id .id = some name ∧ name ≠ [] := by
  obtain ⟨hattribute, hne⟩ := Option.filter_eq_some_iff.1 h
  exact ⟨hattribute, by simpa using hne⟩

theorem anyBelow_congr {test : Cell → Bool} (hchildren : ∀ id, other.children id = doc.children id)
    (htest : ∀ id, (other.get? id).any test = (doc.get? id).any test) (depth : Nat) (id : NodeId) :
    other.anyBelow test depth id = doc.anyBelow test depth id := by
  induction depth generalizing id with
  | zero => rfl
  | succ depth ih =>
    rw [Document.anyBelow, Document.anyBelow, hchildren]
    exact congrArg _ (funext fun child ↦ by rw [htest, ih])

/-- Of its attributes, a node that is given an identifier keeps the others. -/
theorem IsNamedFrom.element (h : IsNamedFrom before after id) :
    (after.element? id).map Prod.fst = (before.element? id).map Prod.fst ∧
      ∀ key, key ≠ .id → after.attribute? id key = before.attribute? id key := by
  unfold IsNamedFrom at h
  split at h
  · simp [element?_congr h, Document.attribute?]
  · obtain ⟨tag, attrs, children, name, -, hbefore, hafter⟩ := h
    refine ⟨by simp [Document.element?, hbefore, hafter], fun key hkey ↦ ?_⟩
    simp [Document.attribute?, Document.element?, hbefore, hafter, Attributes.get?_set_of_ne hkey]

/-- Identifiers do not bring headings into headings. -/
theorem Assigned.isFlat {p p' : Progress Slugger} {ids : List NodeId} (h : Assigned ids p p')
    (hflat : p.doc.IsFlat isHeadingKind) : p'.doc.IsFlat isHeadingKind := by
  have hnames : p'.doc.Names = p.doc.Names := by
    funext upper lower
    rw [Document.Names, Document.Names, h.children]
  have hkind (id : NodeId) :
      p'.doc.isOfKind isHeadingKind id = p.doc.isOfKind isHeadingKind id :=
    h.isOfKind (fun _ _ _ ↦ rfl) id
  intro id lower hid hheading hway
  rw [Document.Reachable, hnames] at hid
  rw [hkind] at hheading ⊢
  exact hflat id lower hid hheading (hnames ▸ hway)

/-- A heading that was given an identifier and then made to link to itself is anchored. -/
theorem IsLinkedFrom.isAnchored {p p' : Progress Slugger} {ids : List NodeId}
    (hassigned : Assigned ids p p') (hid : id ∈ ids)
    (hholds : p.doc.anyDescendant id isLink = true ↔ HoldsLink p.doc id)
    (h : IsLinkedFrom className p'.doc after id) :
    ∃ name, IsAnchored className name p.doc after id := by
  obtain ⟨name, hname⟩ := Option.isSome_iff_exists.1 (hassigned.named id hid).isSome
  obtain ⟨hattribute, hne⟩ := name?_eq_some hname
  obtain ⟨htag, hothers⟩ := (hassigned.named id hid).element
  have hlink : p'.doc.anyDescendant id isLink = p.doc.anyDescendant id isLink := by
    have hkind (id : NodeId) : p'.doc.isOfKind isLinkKind id = p.doc.isOfKind isLinkKind id :=
      hassigned.isOfKind (fun _ _ _ ↦ rfl) id
    rw [Document.anyDescendant, Document.anyDescendant, hassigned.size]
    exact anyBelow_congr hassigned.children hkind p.doc.size id
  have hsame (key : AttributeKey) : after.attribute? id key = p'.doc.attribute? id key := by
    rw [Document.attribute?, Document.attribute?, h.element]
  refine ⟨name, hne, h.element ▸ htag, (hsame .id).trans hattribute,
    fun key hkey ↦ (hsame key).trans (hothers key hkey), fun hlinks ↦ ?_, fun hlinks ↦ ?_⟩
  · rw [h.left (.inr (hlink.trans (hholds.2 hlinks))), hassigned.children]
  · rw [← hholds, Bool.not_eq_true] at hlinks
    obtain ⟨anchor, hle, hchildren, hanchor⟩ := h.linked name hattribute (hlink.trans hlinks)
    exact ⟨anchor, hassigned.size ▸ hle, hchildren, hassigned.children id ▸ hanchor⟩

/-- The pass for identifiers and that for self-links succeed on a document of the shape of a tree
without headings in headings. They give one in which the headings are anchored. -/
theorem exists_areAnchored (htree : doc.IsTree)
    (hroot : doc.isOfKind isHeadingKind Document.root = false) (hflat : doc.IsFlat isHeadingKind)
    (className : List Char) (d : Diagnostics) : ∃ doc',
      runPasses ([.headingIds, .headingAnchors className].map BuiltIn.pass) doc d = (.ok doc', d) ∧
        doc'.IsTree ∧ AreAnchored className doc doc' := by
  obtain ⟨tree, area, hspans, hnodup, -⟩ := Document.isTree_iff.1 htree
  obtain ⟨slugger, middle, hids, hassigned⟩ := headingIds_apply hspans hnodup hroot hflat d
  have hmiddle : middle.IsTree := @BuiltIn.isTree_of_apply .headingIds _ _ _ _ hids htree
  obtain ⟨tree', area', hspans', hnodup', -⟩ := Document.isTree_iff.1 hmiddle
  obtain ⟨doc', hanchors, hkept, hlinked⟩ := headingAnchors_apply hspans' hnodup'
    ((hassigned.isOfKind (fun _ _ _ ↦ rfl) _).trans hroot) (hassigned.isFlat hflat) className d
  have hdoc' : doc'.IsTree :=
    @BuiltIn.isTree_of_apply (.headingAnchors className) _ _ _ _ hanchors hmiddle
  rw [headings_of_assigned hassigned] at hkept hlinked
  refine ⟨doc', ?_, hdoc', fun id hlt hid ↦ ?_, fun id hid ↦ ?_⟩
  · simp only [List.map_cons, List.map_nil, BuiltIn.pass, runPasses, hids, hanchors]
  · rw [hkept id (hassigned.size ▸ hlt) hid, hassigned.kept id hid]
  · have hreach := ((mem_headings_iff hspans hnodup).1 hid).1
    obtain ⟨tree, -, below, htop, -⟩ := hspans.exists_standsFor hnodup hreach
    exact (hlinked id hid).isAnchored hassigned hid (anyDescendant_iff_holdsLink htop)

end Both

namespace AreAnchored

variable {before after : Document} {className : List Char} {id : NodeId}

/-- The tag alone says whether a node is a heading. -/
theorem isHeading_eq (doc : Document) (id : NodeId) : doc.isOfKind isHeadingKind id =
    ((doc.element? id).map Prod.fst).any fun tag ↦ (headingLevel? tag).isSome := by
  rw [← heading?_isSome, heading?]
  rcases doc.element? id with _ | ⟨tag, attrs⟩
  · rfl
  · cases hlevel : (headingLevel? tag).isSome <;> simp [hlevel]

theorem isOfKind_eq (h : AreAnchored className before after) (hid : id < before.size) :
    after.isOfKind isHeadingKind id = before.isOfKind isHeadingKind id := by
  by_cases hmem : id ∈ headings before
  · obtain ⟨name, hanchored⟩ := h.anchored id hmem
    rw [isHeading_eq, isHeading_eq, hanchored.tag]
  · exact isOfKind_congr (h.kept id hid hmem)

/-- What can be reached was reached before, or is a new link with such children. -/
theorem reachable_or (h : AreAnchored className before after) (htree : before.IsTree)
    (hid : after.Reachable id) : before.Reachable id ∨
      after.isOfKind isHeadingKind id = false ∧
        ∀ child ∈ after.children id, before.Reachable child := by
  induction hid with
  | refl => exact .inl .refl
  | @tail upper lower _ hnames ih =>
    rcases ih with hupper | ⟨-, hlower⟩
    · by_cases hheading : upper ∈ headings before
      · obtain ⟨name, hanchored⟩ := h.anchored upper hheading
        by_cases hlinks : HoldsLink before upper
        · rw [Document.Names, hanchored.left hlinks] at hnames
          exact .inl (hupper.tail hnames)
        · obtain ⟨anchor, -, hchildren, hanchor⟩ := hanchored.linked hlinks
          obtain rfl : lower = anchor := by simpa [Document.Names, hchildren] using hnames
          refine .inr ⟨by rw [Document.isOfKind_of_get? hanchor]; rfl, fun child hchild ↦ ?_⟩
          rw [Document.children_of_get? hanchor] at hchild
          exact hupper.tail hchild
      · have hkept := h.kept upper (htree.exists_node upper hupper) hheading
        rw [Document.Names, children_congr hkept] at hnames
        exact .inl (hupper.tail hnames)
    · exact .inl (hlower lower hnames)

/-- What lies below no heading can be reached as before. -/
theorem reachable_of_above (h : AreAnchored className before after) (htree : before.IsTree)
    (hid : before.Reachable id)
    (habove : ∀ upper, Relation.TransGen before.Names upper id → upper ∉ headings before) :
    after.Reachable id := by
  induction hid with
  | refl => exact .refl
  | @tail upper lower hupper hnames ih =>
    have hkept := h.kept upper (htree.exists_node upper hupper) (habove upper (.single hnames))
    refine (ih fun top hway ↦ habove top (hway.tail hnames)).tail ?_
    rwa [Document.Names, children_congr hkept]

/-- The same nodes are headings. -/
theorem mem_headings_iff (h : AreAnchored className before after) (htree : before.IsTree)
    (hflat : before.IsFlat isHeadingKind) (htree' : after.IsTree) :
    id ∈ headings after ↔ id ∈ headings before := by
  obtain ⟨tree, area, hspans, hnodup, -⟩ := Document.isTree_iff.1 htree
  obtain ⟨tree', area', hspans', hnodup', -⟩ := Document.isTree_iff.1 htree'
  rw [Enrich.mem_headings_iff hspans hnodup, Enrich.mem_headings_iff hspans' hnodup',
    heading?_isSome, heading?_isSome]
  constructor
  · rintro ⟨hreach, hkind⟩
    rcases h.reachable_or htree hreach with hbefore | ⟨hnot, -⟩
    · exact ⟨hbefore, (h.isOfKind_eq (htree.exists_node id hbefore)).symm.trans hkind⟩
    · rw [hnot] at hkind
      cases hkind
  · rintro ⟨hreach, hkind⟩
    refine ⟨h.reachable_of_above htree hreach fun upper hway hheading ↦ ?_,
      (h.isOfKind_eq (htree.exists_node id hreach)).trans hkind⟩
    rw [Enrich.mem_headings_iff hspans hnodup, heading?_isSome] at hheading
    have hnot := hflat upper id hheading.1 hheading.2 hway
    rw [hkind] at hnot
    cases hnot

/-- A self-link is written around what the children of its heading were written as. -/
theorem exists_write_eq (h : AreAnchored className before after) (htree : before.IsTree)
    (hflat : before.IsFlat isHeadingKind) (htree' : after.IsTree) (hid : id ∈ headings before)
    {name : List Char} (hlinked : HasSelfLink className name before after id) {inner : List Markup}
    {below : Multiset NodeId} (hinner : before.Spans (before.children id) inner below) :
    ∃ front back, after.write = front ++ (startTag ['a'] (anchorAttributes className name) ++
      (Markup.writeAll inner ++ endTag ['a']) ++ back) := by
  obtain ⟨tree, area, hspans, hnodup, -⟩ := Document.isTree_iff.1 htree
  obtain ⟨tree', area', hspans', hnodup', -⟩ := Document.isTree_iff.1 htree'
  obtain ⟨anchor, -, hchildren, hanchor⟩ := hlinked
  have hbelow : ∀ lower ∈ below, lower ∉ headings before := by
    intro lower hlower hheading
    rw [Enrich.mem_headings_iff hspans hnodup, heading?_isSome] at hid hheading
    obtain ⟨child, hchild, hway⟩ := hinner.exists_top hlower
    have hnot := hflat id lower hid.1 hid.2 (.head' hchild hway)
    rw [hheading.2] at hnot
    cases hnot
  have hlink : after.Spans [anchor]
      [.element ['a'] (anchorAttributes className name) inner] ({anchor} + below) :=
    .singleton hanchor <| hinner.congr fun lower hlower ↦
      h.kept lower (hinner.lt_size hlower) (hbelow lower hlower)
  have hreach : after.Reachable id := by
    have hmem := (h.mem_headings_iff htree hflat htree').2 hid
    exact ((Enrich.mem_headings_iff hspans' hnodup').1 hmem).1
  have hnames : after.Names id anchor := by simp [Document.Names, hchildren]
  obtain ⟨front, back, hwrite⟩ := htree'.exists_write_eq (hreach.tail hnames) hlink
  exact ⟨front, back, hwrite⟩

end AreAnchored

end Galley.Enrich
