import Galley.Pipeline
import Galley.Proofs.Embed.Reports
import Galley.Proofs.Enrich.Shape

/-!
How a text is rendered. Enrichment never fails on the document of a tree, so that a text which the
parser accepts is always enriched, whatever the settings and in whatever order the passes are run;
all that can go wrong then is in the names of recordings.
-/

set_option autoImplicit false
set_option relaxedAutoImplicit false

namespace Galley

open Html Enrich

namespace Enrich.BuiltIn

/-- Passes add warnings, but no errors. -/
theorem errors_rewrite (builtIn : BuiltIn) (diagnostics : Diagnostics) (trees : List Markup) :
    (builtIn.rewrite diagnostics trees).1.errors = diagnostics.errors := by
  cases builtIn with
  | headingIds =>
    refine Rewrite.trees_state (fun state : Slugger × Diagnostics ↦
      state.2.errors = diagnostics.errors) ?_ trees _ rfl
    intro state tree result hresult hgood
    obtain ⟨_, _, _, -, -, ⟨_, _, -, rfl⟩ | ⟨-, rfl⟩⟩ := assignIdMarkup_eq_some hresult
    · exact hgood
    · exact hgood
  | headingAnchors className =>
    refine Rewrite.trees_state (fun state : Unit × Diagnostics ↦
      state.2.errors = diagnostics.errors) ?_ trees _ rfl
    intro state tree result hresult hgood
    obtain ⟨_, _, _, -, -, rfl | ⟨_, -, rfl⟩⟩ := wrapHeadingMarkup_eq_some hresult
    · exact hgood
    · exact hgood
  | images size =>
    refine Rewrite.trees_state (fun state : Unit × Diagnostics ↦
      state.2.errors = diagnostics.errors) ?_ trees _ rfl
    intro state tree result hresult hgood
    obtain ⟨_, _, -, ⟨-, rfl⟩ | ⟨_, -, rfl⟩⟩ := adjustImageMarkup_eq_some hresult
    · exact hgood
    · dsimp only
      split_ifs
      · exact hgood
      · exact hgood
  | diagrams =>
    refine Rewrite.trees_state (fun state : Unit × Diagnostics ↦
      state.2.errors = diagnostics.errors) ?_ trees _ rfl
    intro state tree result hresult hgood
    obtain ⟨_, _, -, rfl | ⟨_, -, rfl⟩⟩ := replaceDiagramMarkup_eq_some hresult
    · exact hgood
    · exact hgood

theorem errors_rewriteAll (builtIns : List BuiltIn) (diagnostics : Diagnostics)
    (trees : List Markup) :
    (rewriteAll builtIns diagnostics trees).1.errors = diagnostics.errors := by
  induction builtIns generalizing diagnostics trees with
  | nil => rfl
  | cons builtIn rest ih => exact (ih _ _).trans (builtIn.errors_rewrite diagnostics trees)

end Enrich.BuiltIn

namespace Pipeline

/-- A pipeline that runs the given passes. -/
def withBuiltIns (settings : Settings) (builtIns : List BuiltIn) : Pipeline :=
  ⟨settings, builtIns.map BuiltIn.pass⟩

variable (settings : Settings) (builtIns : List BuiltIn)

/-- The document of a tree is always enriched, with errors in the names of recordings only. -/
theorem documentOf_ok (tree : Markdown.Node) : ∃ doc d,
    (withBuiltIns settings builtIns).documentOf tree {} = (.ok doc, d) ∧ Embed.OnlyEmbeds d := by
  have hnone : Embed.OnlyEmbeds {} := fun problem hmem ↦ by simp at hmem
  obtain ⟨tree', d, htransforms, hd⟩ : ∃ tree' d,
      applyTransforms (withBuiltIns settings builtIns).transforms tree {} = (tree', d) ∧
        Embed.OnlyEmbeds d := by
    unfold transforms
    split_ifs
    · exact ⟨_, _, rfl, Embed.onlyEmbeds_expand hnone tree⟩
    · exact ⟨tree, {}, rfl, hnone⟩
  obtain ⟨area, hspans, hnodup⟩ := Typeset.page_spans tree'
  obtain ⟨doc, -, hrun, -, -⟩ := BuiltIn.runPasses_eq builtIns hspans hnodup d
  refine ⟨doc, (BuiltIn.rewriteAll builtIns d (Typeset.pageMarkup tree')).1, ?_, ?_⟩
  · rw [documentOf, htransforms]
    exact hrun
  · intro problem hmem
    rw [BuiltIn.errors_rewriteAll] at hmem
    exact hd problem hmem

/-- A text that the parser accepts is enriched, with errors in the names of recordings only. -/
theorem markup_of_parse_ok {text : List Char} {tree : Markdown.Node}
    (hparse : Markdown.parse settings.dialect text = .ok tree) : ∃ html d,
      (withBuiltIns settings builtIns).markup text = (html, .enriched, d) ∧
        Embed.OnlyEmbeds d := by
  obtain ⟨doc, d, hdocument, hd⟩ := documentOf_ok settings builtIns tree
  have hparse' : Markdown.parse (withBuiltIns settings builtIns).settings.dialect text = .ok tree :=
    hparse
  exact ⟨doc.write, d, by simp only [markup, document, hparse', hdocument], hd⟩

/-- A text that the parser refuses is rendered without enrichment, or shown in a notice. -/
theorem markup_of_parse_error {text : List Char} {fault : Markdown.Fault}
    (hparse : Markdown.parse settings.dialect text = .error fault) :
    (∃ html, (withBuiltIns settings builtIns).markup text = (html, .basic,
        { errors := [⟨"pipeline".toList, (RenderError.parse fault).message, .error⟩] })) ∨
      ∃ fault', Markdown.toPage settings.dialect text = .error fault' ∧
        (withBuiltIns settings builtIns).markup text = (errorBlock text, .errorBlock,
          { errors := [⟨"pipeline".toList, (RenderError.parse fault).message, .error⟩,
              ⟨"basic".toList, (RenderError.parse fault').message, .error⟩] }) := by
  have hparse' : Markdown.parse (withBuiltIns settings builtIns).settings.dialect text =
    .error fault := hparse
  cases hpage : Markdown.toPage settings.dialect text with
  | ok html =>
    have hpage' : Markdown.toPage (withBuiltIns settings builtIns).settings.dialect text =
      .ok html := hpage
    exact .inl ⟨html, by simp only [markup, document, hparse', fallback, hpage']; rfl⟩
  | error fault' =>
    have hpage' : Markdown.toPage (withBuiltIns settings builtIns).settings.dialect text =
      .error fault' := hpage
    exact .inr ⟨fault', rfl, by simp only [markup, document, hparse', fallback, hpage']; rfl⟩

theorem render_eq {p : Pipeline} {text html : List Char} {mode : RenderMode} {d : Diagnostics}
    (h : p.markup text = (html, mode, d)) : p.render text = ⟨html, outline html, mode, d⟩ := by
  simp only [render, h]

/-- A text is enriched if and only if the parser accepts it, and then all errors are in the names of
recordings. The other ways to render a text are left for texts that the parser refuses, and the
errors that say so are the last ones. -/
theorem render_mode (settings : Settings) (builtIns : List BuiltIn) (text : List Char) :
    let rendering := (withBuiltIns settings builtIns).render text
    (rendering.mode = .enriched ↔ ∃ tree, Markdown.parse settings.dialect text = .ok tree) ∧
      (rendering.mode = .enriched →
        ∀ problem ∈ rendering.diagnostics.errors, problem.stage = Embed.stage) ∧
      (rendering.mode = .basic → ∃ fault, Markdown.parse settings.dialect text = .error fault ∧
        rendering.diagnostics.errors =
          [⟨"pipeline".toList, (RenderError.parse fault).message, .error⟩]) ∧
      (rendering.mode = .errorBlock → ∃ fault fault',
        Markdown.parse settings.dialect text = .error fault ∧
          Markdown.toPage settings.dialect text = .error fault' ∧
            rendering.diagnostics.errors =
              [⟨"pipeline".toList, (RenderError.parse fault).message, .error⟩,
                ⟨"basic".toList, (RenderError.parse fault').message, .error⟩]) := by
  intro rendering
  cases hparse : Markdown.parse settings.dialect text with
  | ok tree =>
    obtain ⟨html, d, hmarkup, hd⟩ := markup_of_parse_ok settings builtIns hparse
    have hrendering : rendering = _ := render_eq hmarkup
    rw [hrendering]
    exact ⟨⟨fun _ ↦ ⟨tree, rfl⟩, fun _ ↦ rfl⟩, fun _ ↦ hd, by simp, by simp⟩
  | error fault =>
    rcases markup_of_parse_error settings builtIns hparse with
      ⟨html, hmarkup⟩ | ⟨fault', hpage, hmarkup⟩
    · have hrendering : rendering = _ := render_eq hmarkup
      rw [hrendering]
      simp
    · have hrendering : rendering = _ := render_eq hmarkup
      rw [hrendering]
      simp [hpage]

/-- A heading is enriched with the passes in any order, and an expression that does not end is shown
in a notice. -/
theorem render_mode_of_heading_and_of_expression :
    (∀ problem ∈ ((withBuiltIns {} [.headingAnchors [], .headingIds, .headingIds]).render
        "## Setup".toList).diagnostics.errors, problem.stage = Embed.stage) ∧
      ∃ fault fault', Markdown.parse { mdx := true } "\x7b".toList = .error fault ∧
        Markdown.toPage { mdx := true } "\x7b".toList = .error fault' ∧
          ((withBuiltIns { dialect := { mdx := true } } [.diagrams]).render
              "\x7b".toList).diagnostics.errors =
            [⟨"pipeline".toList, (RenderError.parse fault).message, .error⟩,
              ⟨"basic".toList, (RenderError.parse fault').message, .error⟩] :=
  ⟨(render_mode {} [.headingAnchors [], .headingIds, .headingIds] "## Setup".toList).2.1
      (by decide +kernel),
    (render_mode { dialect := { mdx := true } } [.diagrams] "\x7b".toList).2.2.2
      (by decide +kernel)⟩

end Pipeline

end Galley
