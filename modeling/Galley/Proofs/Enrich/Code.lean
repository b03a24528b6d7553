import Galley.Proofs.Enrich.Headings
import Galley.Proofs.Html.Blocks
import Galley.Proofs.Html.Gather

/-!
Blocks of code under the passes. `HasCode` says which blocks stand in trees, in order, with nothing
else in the trees that could be taken for one. The passes for headings and images leave blocks as
they are, and the pass for diagrams puts a placeholder in place of each block that is a diagram
(`HasCode.rewrite`). What is written of such trees has the blocks in the same order
(`HasCode.hasBlocks`).
-/

set_option autoImplicit false
set_option relaxedAutoImplicit false

namespace Galley.Enrich

open Html

/-- A block of code: the attributes of its element, and what is in it. -/
structure CodeBlock where
  attrs : Attributes
  content : List Markup
deriving Inhabited

namespace CodeBlock

/-- The text of a block. -/
def text (block : CodeBlock) : List Char := Markup.textAll block.content

/-- A block as it is set. -/
def markup (block : CodeBlock) : Markup :=
  .element "pre".toList .empty [.element "code".toList block.attrs block.content]

/-- A block after diagrams are replaced. -/
def enriched (block : CodeBlock) : Markup :=
  if isDiagram block.attrs then placeholderMarkup block.text else block.markup

/-- The attributes are clean, and at most a text is in the block. -/
structure IsSound (block : CodeBlock) : Prop where
  clean : block.attrs.IsClean
  content : block.content = [] ∨ ∃ value, block.content = [.leaf value]

/-- What a block is written as: a placeholder that has the text in an attribute if it is a diagram,
or else an element with the attributes and the text. -/
def IsWritten (block : CodeBlock) (written : List Char) : Prop :=
  ∃ value, '<' ∉ value ∧ Text.unescape value = block.text ∧
    if isDiagram block.attrs then
      '"' ∉ value ∧ written =
        "<div class=\"mermaid-placeholder\" data-mermaid=\"".toList ++ value ++
        "\"><pre class=\"mermaid-loading\">Loading diagram...</pre></div>".toList
    else
      written = "<pre>".toList ++ startTag "code".toList block.attrs ++ value ++
        "</code></pre>".toList

end CodeBlock

/-- What stands around blocks: texts, raw markup without blocks, and elements that are none. -/
def IsFrame : Kind → List Markup → Prop
  | .root, _ => False
  | .text _, inner => inner = []
  | .raw markup, inner => IsGap markup ∧ inner = []
  | .element tag attrs, inner =>
    isFrameTag tag = true ∧ attrs.IsClean ∧ (isVoid tag = true → inner = [])

/-- The given blocks stand in trees, in order and as they are set, with frames around them. -/
inductive HasCode (set : CodeBlock → Markup) : List CodeBlock → List Markup → Prop
  | nil : HasCode set [] []
  | block {block : CodeBlock} {blocks : List CodeBlock} {rest : List Markup}
      (hsound : block.IsSound) (hrest : HasCode set blocks rest) :
      HasCode set (block :: blocks) (set block :: rest)
  | frame {kind : Kind} {below blocks : List CodeBlock} {inner rest : List Markup}
      (hframe : IsFrame kind inner) (hinner : HasCode set below inner)
      (hrest : HasCode set blocks rest) : HasCode set (below ++ blocks) (.node kind inner :: rest)

namespace HasCode

variable {set set' : CodeBlock → Markup} {blocks below : List CodeBlock} {trees inner : List Markup}

theorem append {blocks' : List CodeBlock} {trees' : List Markup} (h : HasCode set blocks trees)
    (h' : HasCode set blocks' trees') : HasCode set (blocks ++ blocks') (trees ++ trees') := by
  induction h with
  | nil => exact h'
  | block hsound _ ih => exact .block hsound ih
  | frame hframe hinner _ _ ih =>
    rw [List.append_assoc]
    exact .frame hframe hinner ih

theorem singleton {kind : Kind} (hframe : IsFrame kind inner) (hinner : HasCode set below inner) :
    HasCode set below [.node kind inner] := by
  simpa using HasCode.frame hframe hinner .nil

/-! ### Passes -/

theorem isFrame_trees {σ : Type} (rewrite : Rewrite σ) (state : σ) {kind : Kind}
    (h : IsFrame kind inner) : IsFrame kind (rewrite.trees state inner).2 := by
  cases kind with
  | root => exact h
  | text value => exact Rewrite.trees_eq_nil h
  | raw markup => exact ⟨h.1, Rewrite.trees_eq_nil h.2⟩
  | element tag attrs => exact ⟨h.1, h.2.1, fun hvoid ↦ Rewrite.trees_eq_nil (h.2.2 hvoid)⟩

/-- A rewrite that resets each block, and keeps what is below the frames that it replaces, resets
the blocks in trees. -/
theorem rewrite {σ : Type} {rewrite : Rewrite σ}
    (hblock : ∀ state block, block.IsSound → (rewrite.tree state (set block)).2 = set' block)
    (hframe : ∀ state kind inner below result, IsFrame kind inner → HasCode set below inner →
      rewrite state (.node kind inner) = some result → HasCode set' below [result.2])
    (h : HasCode set blocks trees) :
    ∀ state, HasCode set' blocks (rewrite.trees state trees).2 := by
  induction h with
  | nil => exact fun _ ↦ .nil
  | @block block blocks rest hsound _ ih =>
    intro state
    rw [Rewrite.trees]
    dsimp only
    rw [hblock state block hsound]
    exact .block hsound (ih _)
  | @frame kind below blocks inner rest hkind hinner _ ihinner ih =>
    intro state
    rw [Rewrite.trees]
    dsimp only
    have htree : HasCode set' below [(rewrite.tree state (.node kind inner)).2] := by
      rw [Rewrite.tree]
      cases hrewrite : rewrite state (.node kind inner) with
      | some result => exact hframe state kind inner below result hkind hinner hrewrite
      | none => exact .singleton (isFrame_trees rewrite state hkind) (ihinner state)
    exact htree.append (ih _)

/-- A rewrite that does nothing at blocks of code, at their elements and at texts leaves a block as
it is. -/
theorem tree_markup {σ : Type} {rewrite : Rewrite σ} (state : σ) {block : CodeBlock}
    (hsound : block.IsSound)
    (hpre : ∀ attrs inner, rewrite state (.element "pre".toList attrs inner) = none)
    (hcode : ∀ attrs inner, rewrite state (.element "code".toList attrs inner) = none)
    (hleaf : ∀ value, rewrite state (.leaf value) = none) :
    (rewrite.tree state block.markup).2 = block.markup := by
  obtain ⟨attrs, content⟩ := block
  rcases hsound.content with hcontent | ⟨value, hcontent⟩
  · obtain rfl : content = [] := hcontent
    simp only [CodeBlock.markup, Rewrite.tree, Rewrite.trees, hpre, hcode]
  · obtain rfl : content = [.leaf value] := hcontent
    simp only [CodeBlock.markup, Rewrite.tree, Rewrite.trees, hpre, hcode, hleaf]

theorem anchorAttributes_hasKeys (className id : List Char) :
    (anchorAttributes className id).HasKeys [.href, .className] := by
  have hhref : (Attributes.empty.set .href ('#' :: id)).HasKeys [.href, .className] :=
    Attributes.HasKeys.empty.set (by decide) _
  unfold anchorAttributes
  dsimp only
  split_ifs
  · exact hhref
  · exact hhref.set (by decide) _

theorem isFrame_element {tag : List Char} {attrs attrs' : Attributes}
    (h : IsFrame (.element tag attrs) inner) (hattrs : attrs'.IsClean) :
    IsFrame (.element tag attrs') inner :=
  ⟨h.1, hattrs, h.2.2⟩

theorem assignIdMarkup (h : HasCode CodeBlock.markup blocks trees) (state : Slugger × Diagnostics) :
    HasCode CodeBlock.markup blocks (assignIdMarkup.trees state trees).2 := by
  refine h.rewrite (fun state block hsound ↦ ?_) ?_ state
  · exact tree_markup state hsound (fun _ _ ↦ rfl) (fun _ _ ↦ rfl) fun _ ↦ rfl
  · intro state kind inner below result hframe hinner hresult
    obtain ⟨tag, attrs, inner', heq, hlevel, ⟨c, rest, -, rfl⟩ | ⟨-, rfl⟩⟩ :=
      assignIdMarkup_eq_some hresult
    · exact .singleton hframe hinner
    · obtain ⟨rfl, rfl⟩ : kind = .element tag attrs ∧ inner = inner' := by simpa using heq
      have hname : AttributeKey.id.name.all isTagChar = true := by decide
      exact .singleton (isFrame_element hframe (hframe.2.1.set hname)) hinner

theorem wrapHeadingMarkup (className : List Char) (h : HasCode CodeBlock.markup blocks trees)
    (state : Unit × Diagnostics) :
    HasCode CodeBlock.markup blocks ((wrapHeadingMarkup className).trees state trees).2 := by
  refine h.rewrite (fun state block hsound ↦ ?_) ?_ state
  · exact tree_markup state hsound (fun _ _ ↦ rfl) (fun _ _ ↦ rfl) fun _ ↦ rfl
  · intro state kind inner below result hframe hinner hresult
    obtain ⟨tag, attrs, inner', heq, hlevel, rfl | ⟨id, -, rfl⟩⟩ :=
      wrapHeadingMarkup_eq_some hresult
    · exact .singleton hframe hinner
    · obtain ⟨rfl, rfl⟩ : kind = .element tag attrs ∧ inner = inner' := by simpa using heq
      have hnames : ∀ key ∈ [AttributeKey.href, .className], key.name.all isTagChar = true := by
        decide
      have hlink : IsFrame (.element ['a'] (anchorAttributes className id)) inner := by
        refine ⟨by decide, fun entry hentry ↦ hnames _ ?_, fun hvoid ↦ absurd hvoid (by decide)⟩
        exact anchorAttributes_hasKeys className id entry hentry
      have hvoid := isVoid_headingTags _ (mem_headingTags hlevel)
      exact .singleton ⟨hframe.1, hframe.2.1, by simp [hvoid]⟩ (.singleton hlink hinner)

theorem adjustImageMarkup (size : ImageSize) (h : HasCode CodeBlock.markup blocks trees)
    (state : Unit × Diagnostics) :
    HasCode CodeBlock.markup blocks ((adjustImageMarkup size).trees state trees).2 := by
  refine h.rewrite (fun state block hsound ↦ ?_) ?_ state
  · exact tree_markup state hsound (fun _ _ ↦ rfl) (fun _ _ ↦ rfl) fun _ ↦ rfl
  · intro state kind inner below result hframe hinner hresult
    obtain ⟨attrs, inner', heq, hcases⟩ := adjustImageMarkup_eq_some hresult
    obtain ⟨rfl, rfl⟩ : kind = .element "img".toList attrs ∧ inner = inner' := by simpa using heq
    have hplain : IsPlain False (.element "img".toList attrs inner) :=
      isPlain_element (by decide) (fun entry hentry ↦ ⟨hframe.2.1 entry hentry, False.elim⟩)
        hframe.2.2
    have hadjusted := (Markup.All.singleton.1 (adjustImageMarkup_isPlain hresult hplain)).1
    have hattrs {attrs : Attributes}
        (h : result.2 = .element "img".toList attrs inner) : attrs.IsClean := by
      rw [h] at hadjusted
      exact fun entry hentry ↦ (hadjusted.attributes entry hentry).1
    rcases hcases with ⟨-, rfl⟩ | ⟨src, -, rfl⟩
    · exact .singleton (isFrame_element hframe (hattrs rfl)) hinner
    · exact .singleton (isFrame_element hframe (hattrs rfl)) hinner

/-- The pass for diagrams puts placeholders in place of blocks. -/
theorem replaceDiagramMarkup (h : HasCode CodeBlock.markup blocks trees)
    (state : Unit × Diagnostics) :
    HasCode CodeBlock.enriched blocks (replaceDiagramMarkup.trees state trees).2 := by
  refine h.rewrite (fun state block hsound ↦ ?_) ?_ state
  · obtain ⟨attrs, content⟩ := block
    have hsource : diagramSourceMarkup? [.element "code".toList attrs content] =
        if isDiagram attrs then some (Markup.textAll content) else none := by
      rcases hsound.content with hcontent | ⟨value, hcontent⟩
      · obtain rfl : content = [] := hcontent
        simp [diagramSourceMarkup?, diagramTextMarkup?, Markup.textAll]
      · obtain rfl : content = [.leaf value] := hcontent
        simp [diagramSourceMarkup?, diagramTextMarkup?, Markup.textAll, Markup.text]
    cases hdiagram : isDiagram attrs <;>
      simp only [CodeBlock.markup, CodeBlock.enriched, CodeBlock.text, Rewrite.tree,
        Enrich.replaceDiagramMarkup, ↓reduceIte, hsource, hdiagram, Bool.false_eq_true]
  · intro state kind inner below result hframe hinner hresult
    obtain ⟨attrs, inner', heq, -⟩ := replaceDiagramMarkup_eq_some hresult
    obtain ⟨rfl, rfl⟩ : kind = .element "pre".toList attrs ∧ inner = inner' := by simpa using heq
    exact absurd hframe.1 (by decide)

/-! ### Written blocks -/

theorem write_placeholderMarkup (source : List Char) : (placeholderMarkup source).write =
    "<div class=\"mermaid-placeholder\" data-mermaid=\"".toList ++ Text.escapeAttribute source ++
      "\"><pre class=\"mermaid-loading\">Loading diagram...</pre></div>".toList := by
  have hclass : writeAttribute (.className, "mermaid-placeholder".toList) =
      " class=\"mermaid-placeholder\"".toList := by decide
  have hloading : Markup.write (.element "pre".toList loadingAttributes [.leaf loadingText]) =
      "<pre class=\"mermaid-loading\">Loading diagram...</pre>".toList := by decide
  have hentries : (placeholderAttributes source).entries =
      [(.className, "mermaid-placeholder".toList), (.data .mermaid, source)] := rfl
  have hvalue : writeAttribute (.data .mermaid, source) =
      " data-mermaid=\"".toList ++ Text.escapeAttribute source ++ ['"'] := rfl
  have hvoid : isVoid "div".toList = false := by decide
  rw [placeholderMarkup, Markup.write, hvoid, startTag, hentries]
  simp only [Markup.writeAll, hloading, List.flatMap_cons, hclass, hvalue]
  simp [endTag]

theorem write_markup {block : CodeBlock} (hsound : block.IsSound) : block.markup.write =
    "<pre>".toList ++ startTag "code".toList block.attrs ++ Text.escapeText block.text ++
      "</code></pre>".toList := by
  have hvoid : isVoid "pre".toList = false ∧ isVoid "code".toList = false := by decide
  have hcontent : Markup.writeAll block.content = Text.escapeText block.text := by
    rcases hsound.content with hcontent | ⟨value, hcontent⟩
    · simp [CodeBlock.text, hcontent, Markup.writeAll, Markup.textAll, Text.escapeText]
    · simp [CodeBlock.text, hcontent, Markup.writeAll, Markup.textAll, Markup.write, Markup.text]
  have hpre : startTag "pre".toList .empty = "<pre>".toList := by decide
  rw [CodeBlock.markup, Markup.write, hvoid.1, hpre]
  simp only [Markup.writeAll, Markup.write, hvoid.2, hcontent]
  simp [endTag]

theorem isWritten_enriched {block : CodeBlock} (hsound : block.IsSound) :
    block.IsWritten block.enriched.write := by
  unfold CodeBlock.IsWritten CodeBlock.enriched
  cases isDiagram block.attrs with
  | true =>
    have hnot : ∀ c ∈ Text.escapeAttribute block.text, c ≠ '<' ∧ c ≠ '"' :=
      Text.forall_mem_escapeAttribute (by simp [Text.referenceChars])
        fun c _ hlt _ hquote ↦ ⟨hlt, hquote⟩
    exact ⟨Text.escapeAttribute block.text, fun hmem ↦ (hnot _ hmem).1 rfl,
      Text.unescape_escapeAttribute _, fun hmem ↦ (hnot _ hmem).2 rfl, write_placeholderMarkup _⟩
  | false =>
    have hnot : ∀ c ∈ Text.escapeText block.text, c ≠ '<' :=
      Text.forall_mem_escapeText (by simp [Text.referenceChars]) fun c _ hlt _ ↦ hlt
    exact ⟨Text.escapeText block.text, fun hmem ↦ hnot _ hmem rfl, Text.unescape_escapeText _,
      write_markup hsound⟩

/-- What is written of trees has the blocks that stand in them. -/
theorem hasBlocks (h : HasCode CodeBlock.enriched blocks trees) :
    HasBlocks CodeBlock.IsWritten blocks (Markup.writeAll trees) := by
  induction h with
  | nil => exact .gap .nil
  | block hsound _ ih =>
    simpa [Markup.writeAll] using HasBlocks.block .nil (isWritten_enriched hsound) ih
  | @frame kind below blocks inner rest hframe _ _ ihinner ih =>
    refine HasBlocks.append ?_ ih
    cases kind with
    | root => exact hframe.elim
    | text value =>
      obtain rfl : inner = [] := hframe
      simpa [Markup.writeAll, Markup.write] using ihinner.gap_append (isGap_escapeText value)
    | raw markup =>
      obtain ⟨hgap, rfl⟩ := hframe
      simpa [Markup.writeAll, Markup.write] using ihinner.gap_append hgap
    | element tag attrs =>
      obtain ⟨htag, hattrs, hvoid⟩ := hframe
      have hname : isTagName tag = true := by simp_all [isFrameTag]
      have hstart := ihinner.gap_append (isGap_startTag htag hattrs)
      cases htagVoid : isVoid tag with
      | true =>
        obtain rfl : inner = [] := hvoid htagVoid
        simpa [Markup.writeAll, Markup.write, htagVoid] using hstart
      | false =>
        simpa [Markup.write, htagVoid] using hstart.append (.gap (isGap_endTag hname))

end HasCode

/-! ### Reading blocks -/

/-- The block that a tree is. -/
def codeBlock? : Markup → Option CodeBlock
  | .node (.element tag _) [.node (.element inTag attrs) content] =>
    if tag = "pre".toList ∧ inTag = "code".toList then some ⟨attrs, content⟩ else none
  | _ => none

/-- A tree is a block, or stands around blocks. -/
def IsBlockOrFrame (tree : Markup) : Prop :=
  (∃ block : CodeBlock, block.IsSound ∧ tree = block.markup) ∨ IsFrame tree.kind tree.children

theorem codeBlock?_of_ne {tag : List Char} (htag : tag ≠ "pre".toList) (attrs : Attributes)
    (inner : List Markup) : codeBlock? (.element tag attrs inner) = none := by
  unfold codeBlock?
  split
  · next heq =>
    cases heq
    exact if_neg fun h ↦ htag h.1
  · rfl

theorem gather_markup {block : CodeBlock} (hsound : block.IsSound) :
    Markup.gather codeBlock? [block.markup] = [block] := by
  have hcode :
      Markup.gather codeBlock? [.element "code".toList block.attrs block.content] = [] := by
    rw [Markup.gather_singleton_of_none (codeBlock?_of_ne (by decide) _ _)]
    rcases hsound.content with hcontent | ⟨value, hcontent⟩
    · rw [hcontent]
      rfl
    · rw [hcontent]
      rfl
  have hread : codeBlock? block.markup = some block := by
    rw [CodeBlock.markup, codeBlock?]
    exact if_pos ⟨rfl, rfl⟩
  rw [CodeBlock.markup] at hread ⊢
  rw [Markup.gather_singleton_of_some hread, hcode]

theorem codeBlock?_of_isFrame {kind : Kind} {inner : List Markup} (h : IsFrame kind inner) :
    codeBlock? (.node kind inner) = none := by
  cases kind with
  | element tag attrs =>
    refine codeBlock?_of_ne ?_ attrs inner
    rintro rfl
    exact absurd h.1 (by decide)
  | _ => rfl

/-- In trees that are blocks or frames those blocks stand that are read of them. -/
theorem hasCode_of_all : ∀ trees : List Markup, Markup.All IsBlockOrFrame trees →
    HasCode CodeBlock.markup (Markup.gather codeBlock? trees) trees
  | [], _ => .nil
  | .node kind inner :: rest, h => by
    rw [Markup.All.cons] at h
    have hinner := hasCode_of_all inner h.1.2
    have hrest := hasCode_of_all rest h.2
    rw [Markup.gather_cons]
    rcases h.1.1 with ⟨block, hsound, heq⟩ | (hframe : IsFrame kind inner)
    · rw [heq, gather_markup hsound]
      exact .block hsound hrest
    · rw [Markup.gather_singleton_of_none (codeBlock?_of_isFrame hframe)]
      exact .frame hframe hinner hrest

end Galley.Enrich
