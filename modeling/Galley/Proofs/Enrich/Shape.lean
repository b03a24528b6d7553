import Galley.Proofs.Enrich.Passes
import Galley.Proofs.Html.TreeShape
import Galley.Proofs.Typeset.Page
import Galley.Proofs.Typeset.Parts

/-!
Documents keep the shape of a tree. The document of every source tree has it, and each of the four
passes succeeds on every document that has it and gives one that has it again.
-/

set_option autoImplicit false
set_option relaxedAutoImplicit false

namespace Galley

open Html Typeset Enrich

/-! ### Pages -/

/-- The tags of headings. -/
def headingTags : List (List Char) :=
  ["h1".toList, "h2".toList, "h3".toList, "h4".toList, "h5".toList, "h6".toList]

theorem mem_headingTags {tag : List Char} (h : (headingLevel? tag).isSome = true) :
    tag ∈ headingTags := by
  unfold headingLevel? at h
  split at h
  all_goals first
    | decide
    | simp at h

theorem Typeset.headingTag_mem (level : Nat) : headingTag level ∈ headingTags := by
  have hlevel : min (max level 1) 6 ∈ [1, 2, 3, 4, 5, 6] := by
    simp only [List.mem_cons, List.not_mem_nil, or_false]
    omega
  unfold headingTag
  generalize min (max level 1) 6 = n at hlevel
  fin_cases hlevel <;> decide

theorem isVoid_headingTags : ∀ tag ∈ headingTags, isVoid tag = false := by decide

theorem Typeset.admits_isBare : Admits (fun _ ↦ True) Markup.IsBare where
  text _ _ := rfl
  raw _ _ _ := rfl
  bare _ _ _ _ _ := rfl
  content tag htag attrs _ inner _ := by
    have hnot : isVoid tag = false := by
      revert tag
      decide
    simp [Markup.IsBare, Markup.kind, Kind.isLeaf, hnot]
  code atom hatom _ ds := by
    refine all_of_isCode (fun _ _ ↦ rfl) (fun tag htag attrs _ inner _ ↦ ?_) hatom ds
    have hnot : isVoid tag = false := by
      revert tag
      decide
    simp [Markup.IsBare, Markup.kind, Kind.isLeaf, hnot]
  heading ds isTight level children calls _ := by
    simp [Markup.IsBare, Markup.kind, Kind.isLeaf, isVoid_headingTags _ (headingTag_mem level)]
  paragraph attrs inner inner' _ _ := by
    simp [Markup.IsBare, Markup.kind, Kind.isLeaf, isVoid, voidElements]

/-- The document of a source tree has the shape of a tree. -/
theorem Typeset.page_isTree (tree : Markdown.Node) : (page tree).IsTree := by
  obtain ⟨area, hspans, hnodup⟩ := page_spans tree
  refine .of_spans hspans hnodup (Markup.All.singleton.2 ⟨?_, ?_⟩)
  · simp [Markup.IsBare, Markup.kind, Kind.isLeaf]
  · exact admits_isBare.pageMarkup fun _ _ ↦ trivial

/-! ### Passes -/

namespace Enrich

/-- Where only trees below one are rewritten, what has no content gets none. -/
theorem isBare_descend {σ : Type} {rewrite : Rewrite σ} {state : σ} {kind : Kind}
    {inner : List Markup} (h : Markup.IsBare (.node kind inner)) :
    Markup.IsBare (.node kind (rewrite.trees state inner).2) := by
  intro hleaf
  obtain rfl : inner = [] := h hleaf
  rfl

/-- Only the tag says whether an element may have content. -/
theorem all_isBare_element {tag : List Char} {attrs attrs' : Attributes} {inner : List Markup}
    (h : Markup.All Markup.IsBare [.element tag attrs inner]) :
    Markup.All Markup.IsBare [.element tag attrs' inner] := by
  rw [Markup.All.singleton] at h ⊢
  exact h

theorem assignIdMarkup_keeps_isBare : assignIdMarkup.Keeps Markup.IsBare where
  descend _ _ _ _ h _ := isBare_descend h
  replace state tree result hresult h := by
    obtain ⟨tag, attrs, inner, rfl, -, ⟨c, rest, -, rfl⟩ | ⟨-, rfl⟩⟩ :=
      assignIdMarkup_eq_some hresult
    · exact h
    · exact all_isBare_element h

theorem wrapHeadingMarkup_keeps_isBare (className : List Char) :
    (wrapHeadingMarkup className).Keeps Markup.IsBare where
  descend _ _ _ _ h _ := isBare_descend h
  replace state tree result hresult h := by
    obtain ⟨tag, attrs, inner, rfl, hlevel, rfl | ⟨id, -, rfl⟩⟩ :=
      wrapHeadingMarkup_eq_some hresult
    · exact h
    · have hinner := (Markup.All.singleton.1 h).2
      have hvoid := isVoid_headingTags _ (mem_headingTags hlevel)
      refine Markup.All.singleton.2 ⟨?_, Markup.All.singleton.2 ⟨?_, hinner⟩⟩
      · simp [Markup.IsBare, Markup.kind, Kind.isLeaf, hvoid]
      · simp [Markup.IsBare, Markup.kind, Kind.isLeaf, isVoid, voidElements]

theorem adjustImageMarkup_keeps_isBare (size : ImageSize) :
    (adjustImageMarkup size).Keeps Markup.IsBare where
  descend _ _ _ _ h _ := isBare_descend h
  replace state tree result hresult h := by
    obtain ⟨attrs, inner, rfl, ⟨-, rfl⟩ | ⟨src, -, rfl⟩⟩ := adjustImageMarkup_eq_some hresult
    · exact all_isBare_element h
    · exact all_isBare_element h

theorem replaceDiagramMarkup_keeps_isBare : replaceDiagramMarkup.Keeps Markup.IsBare where
  descend _ _ _ _ h _ := isBare_descend h
  replace state tree result hresult h := by
    obtain ⟨attrs, inner, rfl, rfl | ⟨source, -, rfl⟩⟩ := replaceDiagramMarkup_eq_some hresult
    · exact h
    · simp [placeholderMarkup, Markup.children, Markup.IsBare, Markup.kind, Kind.isLeaf, isVoid,
        voidElements]

theorem BuiltIn.keeps_isBare (builtIn : BuiltIn) : builtIn.Keeps Markup.IsBare := by
  cases builtIn with
  | headingIds => exact assignIdMarkup_keeps_isBare
  | headingAnchors className => exact wrapHeadingMarkup_keeps_isBare className
  | images size => exact adjustImageMarkup_keeps_isBare size
  | diagrams => exact replaceDiagramMarkup_keeps_isBare

/-- A pass succeeds on every document of the shape of a tree, and gives one. -/
theorem BuiltIn.isTree_apply (builtIn : BuiltIn) {doc : Document} (h : doc.IsTree)
    (diagnostics : Diagnostics) : ∃ doc' diagnostics',
      builtIn.pass.apply doc diagnostics = (.ok doc', diagnostics') ∧ doc'.IsTree := by
  obtain ⟨⟨kind, inner⟩, area, hspans, hnodup, hbare⟩ := Document.isTree_iff.1 h
  obtain ⟨doc', new, happly, hspans', hnodup'⟩ := builtIn.apply_eq hspans hnodup diagnostics
  rw [Markup.All.singleton] at hbare
  have hinner := builtIn.keeps_isBare.rewrite diagnostics hbare.2
  refine ⟨doc', _, happly, .of_spans hspans' hnodup' (Markup.All.singleton.2 ⟨?_, hinner⟩)⟩
  intro hleaf
  obtain rfl : inner = [] := hbare.1 hleaf
  rw [rewrite_nil]
  rfl

theorem BuiltIn.isTree_of_apply {builtIn : BuiltIn} {doc doc' : Document}
    {diagnostics diagnostics' : Diagnostics}
    (happly : builtIn.pass.apply doc diagnostics = (.ok doc', diagnostics')) (h : doc.IsTree) :
    doc'.IsTree := by
  obtain ⟨other, _, hother, htree⟩ := builtIn.isTree_apply h diagnostics
  obtain ⟨rfl, -⟩ : other = doc' ∧ _ := by simpa using hother.symm.trans happly
  exact htree

end Enrich

/-- The document of every source tree has the shape of a tree, and so has what any of the passes
makes of a document that has it: none of them fails on one. -/
theorem page_isTree_and_passes_keep_isTree :
    (∀ tree : Markdown.Node, (page tree).IsTree) ∧
      ∀ (builtIn : BuiltIn) (doc : Document) (diagnostics : Diagnostics), doc.IsTree →
        ∃ doc' diagnostics', builtIn.pass.apply doc diagnostics = (.ok doc', diagnostics') ∧
          doc'.IsTree :=
  ⟨page_isTree, fun builtIn _ diagnostics h ↦ builtIn.isTree_apply h diagnostics⟩

/-- A heading with an image in it becomes a document of the shape of a tree, as which self-links
keep it. -/
theorem headingAnchors_keep_isTree_of_image :
    ∃ doc diagnostics, (BuiltIn.headingAnchors "anchor".toList).pass.apply
        (page (.branch .root [.branch (.heading 2)
          [.text "Setup".toList, .atom (.image "a.png".toList none [])]])) {} =
        (.ok doc, diagnostics) ∧ doc.IsTree :=
  page_isTree_and_passes_keep_isTree.2 _ _ _ (page_isTree_and_passes_keep_isTree.1 _)

end Galley
