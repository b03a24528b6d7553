import Galley.Proofs.Enrich.SelfLinks
import Galley.Proofs.Html.Links
import Galley.Proofs.Outline

/-!
Self-links of the headings of a page. After identifiers are given, every heading that contains no
link element has its children put into a link to it, and no other one is changed. Within a self-link
another link begins only where raw markup in the heading begins one
(`headings_link_to_themselves`): raw markup is not looked into when headings are searched for links.
-/

set_option autoImplicit false
set_option relaxedAutoImplicit false

namespace Galley

open Html Typeset Enrich Markdown

namespace Typeset

/-! ### Pages -/

/-- Nodes that are no heading. -/
def IsNoHeading (node : Node) : Prop :=
  ∀ level children, node ≠ .branch (.heading level) children

theorem isHeadingKind_eq_false {tag : List Char} (htag : tag ∈ contentTags ++ codeTags ++ bareTags)
    (attrs : Attributes) : isHeadingKind (.element tag attrs) = false := by
  have hnot : ∀ tag ∈ contentTags ++ codeTags ++ bareTags, (headingLevel? tag).isSome = false := by
    decide
  exact hnot tag htag

/-- Only headings are set as headings. -/
theorem admits_isNoHeading : Admits IsNoHeading fun tree ↦ isHeadingKind tree.kind = false :=
  .of_kind (isHeadingKind · = false) (fun _ ↦ rfl) (fun _ _ ↦ rfl)
    (fun _ htag attrs _ ↦ isHeadingKind_eq_false htag attrs)
    fun level children hfits ↦ absurd rfl (hfits level children)

theorem admits_isFlat : Admits (fun node ↦ ∀ level children,
    node = .branch (.heading level) children → ∀ lower ∈ Node.allIn children, IsNoHeading lower)
    fun tree ↦ isHeadingKind tree.kind = true →
      Markup.All (fun lower ↦ isHeadingKind lower.kind = false) tree.children where
  text _ := nofun
  raw _ _ := nofun
  bare _ _ _ _ _ := .nil
  content tag htag attrs _ _ _ hheading := by
    have hnot := isHeadingKind_eq_false (List.mem_append_left _ (List.mem_append_left _ htag)) attrs
    rw [Markup.kind, hnot] at hheading
    cases hheading
  code _ hatom _ ds := by
    refine all_of_isCode (fun _ ↦ nofun) (fun tag htag attrs _ _ _ hheading ↦ ?_) hatom ds
    have hnot :=
      isHeadingKind_eq_false (List.mem_append_left _ (List.mem_append_right _ htag)) attrs
    rw [Markup.kind, hnot] at hheading
    cases hheading
  heading ds isTight level children calls hfits _ _ :=
    admits_isNoHeading.nodesMarkup ds isTight children calls (hfits level children rfl)
  paragraph _ _ _ _ _ := nofun

/-- No heading of a page lies below another one if none does in the source. -/
theorem page_isFlat {tree : Node} (h : tree.HasFlatHeadings) :
    (page tree).IsFlat isHeadingKind := by
  obtain ⟨area, hspans, -⟩ := page_spans tree
  refine hspans.isFlat (Markup.All.singleton.2 ⟨nofun, admits_isFlat.pageMarkup ?_⟩)
  rintro _ hheading level children rfl _ hlower level' children' rfl
  exact h level children hheading level' children' hlower

/-- What is on a page has proper tags and clean attributes. -/
theorem admits_isUnlinked :
    Admits (fun _ ↦ True) fun tree ↦ isLinkKind tree.kind = false → tree.kind.IsUnlinked := by
  refine .of_kind (fun kind ↦ isLinkKind kind = false → kind.IsUnlinked) (fun _ _ ↦ trivial)
    (fun _ _ _ ↦ trivial) (fun tag htag attrs hattrs hlink ↦ ?_)
    fun level _ _ hlink ↦ ?_
  · have hall : ∀ tag ∈ contentTags ++ codeTags ++ bareTags,
        isTagName tag = true ∧ tag ≠ ['A'] := by
      decide
    obtain ⟨hname, hupper⟩ := hall tag htag
    exact ⟨hname, beq_eq_false_iff_ne.1 hlink, hupper,
      fun entry hentry ↦ pageKeys_clean _ (hattrs entry hentry)⟩
  · have hall : ∀ tag ∈ headingTags, isTagName tag = true ∧ tag ≠ ['A'] := by decide
    obtain ⟨hname, hupper⟩ := hall _ (headingTag_mem level)
    exact ⟨hname, beq_eq_false_iff_ne.1 hlink, hupper, Attributes.All.empty⟩

end Typeset

/-! ### Self-links -/

/-- A self-link is written around what the children of its heading stand for, and the start tag of a
link begins in there if and only if one begins in raw markup. -/
def HasWrittenLink (className name : List Char) (before after : Html.Document) (id : NodeId) :
    Prop :=
  ∃ inner below front back, before.Spans (before.children id) inner below ∧
    after.write = front ++ (startTag ['a'] (anchorAttributes className name) ++
      (Markup.writeAll inner ++ endTag ['a']) ++ back) ∧
    hasLinkTag (endTag ['a']) (Markup.writeAll inner) = rawLinkTagAll (endTag ['a']) inner

/-- After identifiers are given and self-links are made, the page of a tree without headings in
headings has the same headings, and nothing but these and new links differs. Each heading has an
identifier that is not empty. If it contains a link element then its children are the same, else its
only child is a link to its identifier, which has its former children; and within that link another
one begins only in raw markup. -/
theorem headings_link_to_themselves (tree : Node) (hflat : tree.HasFlatHeadings)
    (className : List Char) (d : Diagnostics) : ∃ doc,
      runPasses ([.headingIds, .headingAnchors className].map BuiltIn.pass) (page tree) d =
          (.ok doc, d) ∧
        (∀ id, id ∈ headings doc ↔ id ∈ headings (page tree)) ∧
        (∀ id < (page tree).size, id ∉ headings (page tree) → doc.get? id = (page tree).get? id) ∧
        ∀ id ∈ headings (page tree), ∃ name, IsAnchored className name (page tree) doc id ∧
          (¬ HoldsLink (page tree) id → HasWrittenLink className name (page tree) doc id) := by
  obtain ⟨area, hspans, hnodup⟩ := page_spans tree
  have hroot : (page tree).isOfKind isHeadingKind Document.root = false := hspans.isOfKind_eq _
  have hflat' := page_isFlat hflat
  obtain ⟨doc, hrun, htree, hanchored⟩ :=
    exists_areAnchored (page_isTree tree) hroot hflat' className d
  refine ⟨doc, hrun, fun id ↦ hanchored.mem_headings_iff (page_isTree tree) hflat' htree,
    hanchored.kept, fun id hid ↦ ?_⟩
  obtain ⟨name, hname⟩ := hanchored.anchored id hid
  refine ⟨name, hname, fun hlink ↦ ?_⟩
  have hreach := ((mem_headings_iff hspans hnodup).1 hid).1
  obtain ⟨top, -, area', htop, hnodup'⟩ := hspans.exists_standsFor hnodup hreach
  have hlinked := hname.linked hlink
  rw [← anyDescendant_iff_holdsLink htop, htop.anyDescendant_eq hnodup' isLink_eq,
    Bool.not_eq_true] at hlink
  obtain ⟨kind, children, inner, below, heq, -, hcell, hinner⟩ := htop.of_singleton
  obtain rfl : top = .node kind inner := by simpa using heq
  have hchildren : (page tree).children id = children := Document.children_of_get? hcell
  rw [← hchildren] at hinner
  have hall := hspans.all_of_reachable (Markup.All.singleton.2
    ⟨fun _ ↦ trivial, admits_isUnlinked.pageMarkup fun _ _ ↦ trivial⟩) hinner
    fun child hchild ↦ hreach.tail hchild
  have hunlinked : Markup.All (fun lower ↦ lower.kind.IsUnlinked) inner := by
    rw [Markup.hasBelow, List.any_eq_false] at hlink
    exact fun lower hlower ↦ hall lower hlower (Bool.eq_false_iff.2 (hlink lower hlower))
  obtain ⟨front, back, hwrite⟩ := hanchored.exists_write_eq (page_isTree tree) hflat' htree hid
    hlinked hinner
  exact ⟨inner, below, front, back, hinner, hwrite, hasLinkTag_writeAll _ inner hunlinked⟩

/-- A heading of text, and one that is a link already. -/
def textAndLink : Node :=
  .branch .root [.branch (.heading 2) [.text "Setup".toList],
    .branch (.heading 3) [.branch (.link "/x".toList none) [.text "docs".toList]]]

/-- A heading that is a link in raw markup. -/
def rawLink : Node :=
  .branch .root [.branch (.heading 2) [.atom (.html "<a href=\"/x\">".toList),
    .text "docs".toList, .atom (.html "</a>".toList)]]

/-- The heading of text becomes a link to itself, and the one that is a link is left as it is. -/
theorem headings_link_to_themselves_of_text_and_link : ∃ doc,
      runPasses ([.headingIds, .headingAnchors "anchor".toList].map BuiltIn.pass)
          (page textAndLink) {} = (.ok doc, {}) ∧
        (∀ id, id ∈ headings doc ↔ id ∈ headings (page textAndLink)) ∧
        (∀ id < (page textAndLink).size, id ∉ headings (page textAndLink) →
          doc.get? id = (page textAndLink).get? id) ∧
        ∀ id ∈ headings (page textAndLink), ∃ name,
          IsAnchored "anchor".toList name (page textAndLink) doc id ∧
            (¬ HoldsLink (page textAndLink) id →
              HasWrittenLink "anchor".toList name (page textAndLink) doc id) := by
  refine headings_link_to_themselves textAndLink ?_ "anchor".toList {}
  intro level children hmem level' children'
  have hcases : level = 2 ∧ children = [.text "Setup".toList] ∨
      level = 3 ∧ children = [.branch (.link "/x".toList none) [.text "docs".toList]] := by
    simpa [textAndLink, Node.all, Node.allIn] using hmem
  obtain ⟨-, rfl⟩ | ⟨-, rfl⟩ := hcases <;> simp [Node.all, Node.allIn]

/-- A link in raw markup is not seen: a heading that contains one becomes a link around it. -/
theorem raw_link_is_nested :
    rawLink.HasFlatHeadings ∧ ¬ HoldsLink (page rawLink) Document.root ∧
      (runPasses ([.headingIds, .headingAnchors "anchor".toList].map BuiltIn.pass)
          (page rawLink) {}).1.toOption.map Document.write =
        some ("<h2 id=\"docs\"><a href=\"#docs\" class=\"anchor\">" ++
          "<a href=\"/x\">docs</a></a></h2>").toList := by
  refine ⟨?_, ?_, by decide +kernel⟩
  · intro level children hmem level' children'
    obtain ⟨-, rfl⟩ : level = 2 ∧ children = [.atom (.html "<a href=\"/x\">".toList),
        .text "docs".toList, .atom (.html "</a>".toList)] := by
      simpa [rawLink, Node.all, Node.allIn] using hmem
    simp [Node.all, Node.allIn]
  · obtain ⟨area, hspans, -⟩ := page_spans rawLink
    rw [← anyDescendant_iff_holdsLink hspans]
    decide +kernel

end Galley
