import Galley.Proofs.Enrich.Order
import Galley.Proofs.Typeset.Parts

/-!
The order of the passes. On the page of a tree without code in its headings the four passes may be
run in every order in which identifiers are given before headings are made to link to themselves:
the same is written, and the same is reported.
-/

set_option autoImplicit false
set_option relaxedAutoImplicit false

namespace Galley

open Html Typeset Enrich Markdown

/-- No block of code lies below a heading. -/
def Markdown.Node.HasNoCodeInHeadings (tree : Node) : Prop :=
  ∀ level children, .branch (.heading level) children ∈ tree.all →
    ∀ language remark value place, .atom (.code language remark value place) ∉ Node.allIn children

namespace Typeset

/-- Only code is set as the code of a diagram. -/
theorem admits_isDiagramKind :
    Admits (fun node ↦ ∀ language remark value place,
      node ≠ .atom (.code language remark value place)) fun tree ↦
        isDiagramKind tree.kind = false where
  text _ := rfl
  raw _ _ := rfl
  bare tag htag attrs _ := by
    have hnot : ∀ tag ∈ bareTags, (tag == "code".toList) = false := by decide
    rw [Markup.kind, isDiagramKind, hnot tag htag, Bool.false_and]
  content tag htag attrs _ inner _ := by
    have hnot : ∀ tag ∈ contentTags, (tag == "code".toList) = false := by decide
    rw [Markup.kind, isDiagramKind, hnot tag htag, Bool.false_and]
  code atom hatom hfits ds := by
    have hcode {attrs : Attributes} (hattrs : isDiagram attrs = false) (value : List Char) :
        Markup.All (fun tree ↦ isDiagramKind tree.kind = false)
          [.element "code".toList attrs [.leaf value]] := by
      refine Markup.All.singleton.2 ⟨?_, Markup.All.singleton.2 ⟨rfl, .nil⟩⟩
      rw [Markup.kind, isDiagramKind, hattrs, Bool.and_false]
    cases atom with
    | code language remark value place => exact absurd rfl (hfits language remark value place)
    | math remark value => exact Markup.All.singleton.2 ⟨rfl, hcode (by decide) value⟩
    | inlineCode value => exact hcode (by decide) value
    | inlineMath value => exact hcode (by decide) value
    | _ => cases hatom
  heading ds isTight level children calls _ _ := by
    have hnot : ∀ tag ∈ headingTags, (tag == "code".toList) = false := by decide
    rw [Markup.kind, isDiagramKind, hnot _ (headingTag_mem level), Bool.false_and]
  paragraph _ _ _ _ _ := rfl

/-- Neither a heading nor an image is in what code and formulas are set as. -/
theorem all_isOrderly_of_isCode {atom : Atom} (hatom : isCode atom = true) (ds : Definitions) :
    Markup.All IsOrderly (atomMarkup ds atom) := by
  have hleaf (value : List Char) : Markup.All IsOrderly [.leaf value] :=
    Markup.All.singleton.2 ⟨⟨nofun, nofun⟩, .nil⟩
  have hvalue (value : List Char) : Markup.All IsOrderly (valueMarkup value) := by
    unfold valueMarkup
    split_ifs
    · exact .nil
    · exact hleaf value
  have hcode (attrs : Attributes) {inner : List Markup} (hinner : Markup.All IsOrderly inner) :
      Markup.All IsOrderly [.element "code".toList attrs inner] :=
    Markup.All.singleton.2 ⟨isOrderly_element ⟨rfl, rfl⟩ attrs inner, hinner⟩
  have hblock {attrs : Attributes} {inner : List Markup} (hinner : Markup.All IsOrderly inner)
      (htext : inner = [] ∨ ∃ value, inner = [.leaf value]) :
      Markup.All IsOrderly [plain "pre" [.element "code".toList attrs inner]] := by
    refine Markup.All.singleton.2 ⟨⟨nofun, fun _ ↦ Markup.All.singleton.2 ⟨rfl, ?_⟩⟩,
      hcode attrs hinner⟩
    rcases htext with rfl | ⟨value, rfl⟩
    · exact .nil
    · exact Markup.All.singleton.2 ⟨rfl, .nil⟩
  cases atom with
  | code language remark value place =>
    refine hblock (hvalue value) ?_
    unfold valueMarkup
    split_ifs
    · exact .inl rfl
    · exact .inr ⟨value, rfl⟩
  | math remark value => exact hblock (hleaf value) (.inr ⟨value, rfl⟩)
  | inlineCode value => exact hcode .empty (hleaf value)
  | inlineMath value => exact hcode _ (hleaf value)
  | _ => cases hatom

theorem admits_isOrderly :
    Admits (fun node ↦ ∀ level children, node = .branch (.heading level) children →
      ∀ language remark value place,
        .atom (.code language remark value place) ∉ Node.allIn children) IsOrderly where
  text _ := ⟨nofun, nofun⟩
  raw _ _ := ⟨nofun, nofun⟩
  bare tag htag attrs _ := by
    have hall : ∀ tag ∈ bareTags, (headingLevel? tag).isSome = false ∧
        (tag == "pre".toList) = false := by
      decide
    exact isOrderly_element (hall tag htag) attrs []
  content tag htag attrs _ inner _ := by
    have hall : ∀ tag ∈ contentTags, (headingLevel? tag).isSome = false ∧
        (tag == "pre".toList) = false := by
      decide
    exact isOrderly_element (hall tag htag) attrs inner
  code _ hatom _ ds := all_isOrderly_of_isCode hatom ds
  heading ds isTight level children calls hfits _ := by
    have hall : ∀ tag ∈ headingTags, (headingLevel? tag).isSome = true := by decide
    refine isOrderly_heading (hall _ (headingTag_mem level)) _ ?_
    refine admits_isDiagramKind.nodesMarkup ds isTight children calls fun lower hlower ↦ ?_
    rintro language remark value place rfl
    exact hfits level children rfl language remark value place hlower
  paragraph _ _ inner' _ _ := isOrderly_element ⟨rfl, rfl⟩ _ inner'

theorem all_isOrderly_pageMarkup {tree : Node} (h : tree.HasNoCodeInHeadings) :
    Markup.All IsOrderly (pageMarkup tree) := by
  refine admits_isOrderly.pageMarkup ?_
  rintro _ hlower level children rfl
  exact h level children hlower

end Typeset

/-- On the page of a tree without code in its headings the four passes succeed in any two orders in
which identifiers come before self-links. The same is written after them, so that the outlines are
the same, and the same is reported. -/
theorem passes_agree_in_all_orders (tree : Node) (hcode : tree.HasNoCodeInHeadings)
    (className : List Char) (size : ImageSize) (diagnostics : Diagnostics)
    {first second : List BuiltIn} (hfirst : BuiltIn.IsOrder className size first)
    (hsecond : BuiltIn.IsOrder className size second) : ∃ doc doc' diagnostics',
      runPasses (first.map BuiltIn.pass) (page tree) diagnostics = (.ok doc, diagnostics') ∧
        runPasses (second.map BuiltIn.pass) (page tree) diagnostics = (.ok doc', diagnostics') ∧
          doc.write = doc'.write ∧ outline doc.write = outline doc'.write := by
  obtain ⟨area, hspans, hnodup⟩ := page_spans tree
  have horderly := all_isOrderly_pageMarkup hcode
  have hsame : BuiltIn.rewriteAll first diagnostics (pageMarkup tree) =
      BuiltIn.rewriteAll second diagnostics (pageMarkup tree) :=
    (BuiltIn.rewriteAll_eq hfirst diagnostics horderly).trans
      (BuiltIn.rewriteAll_eq hsecond diagnostics horderly).symm
  obtain ⟨doc, new, hrun, hdoc, hnew⟩ := BuiltIn.runPasses_eq first hspans hnodup diagnostics
  obtain ⟨doc', new', hrun', hdoc', hnew'⟩ :=
    BuiltIn.runPasses_eq second hspans hnodup diagnostics
  have hwrite : doc.write = doc'.write := by
    rw [hdoc.write_eq hnew, hdoc'.write_eq hnew', hsame]
  exact ⟨doc, doc', _, hrun, hsame ▸ hrun', hwrite, congrArg outline hwrite⟩

/-- A heading with an image in it, and a diagram in a quote, under the standard order and under one
that begins with diagrams. -/
theorem passes_agree_in_all_orders_of_diagram_and_image :
    ∃ doc doc' diagnostics',
      runPasses ([.headingIds, .headingAnchors "anchor".toList, .images {}, .diagrams].map
          BuiltIn.pass) (page (.branch .root
            [.branch (.heading 2) [.text "Plan".toList, .atom (.image "a.png".toList none [])],
              .branch .blockquote [.atom (.code (some diagramLanguage) none "a".toList none)]]))
            {} = (.ok doc, diagnostics') ∧
        runPasses ([.diagrams, .headingIds, .images {}, .headingAnchors "anchor".toList].map
          BuiltIn.pass) (page (.branch .root
            [.branch (.heading 2) [.text "Plan".toList, .atom (.image "a.png".toList none [])],
              .branch .blockquote [.atom (.code (some diagramLanguage) none "a".toList none)]]))
            {} = (.ok doc', diagnostics') ∧
          doc.write = doc'.write ∧ outline doc.write = outline doc'.write := by
  refine passes_agree_in_all_orders _ ?_ "anchor".toList {} {} ⟨by decide, by decide⟩
    ⟨by decide, by decide⟩
  intro level children hmem language remark value place
  obtain ⟨-, rfl⟩ : level = 2 ∧
      children = [.text "Plan".toList, .atom (.image "a.png".toList none [])] := by
    simpa [Node.all, Node.allIn] using hmem
  simp [Node.all, Node.allIn]

end Galley
