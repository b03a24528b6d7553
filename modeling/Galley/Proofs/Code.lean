import Galley.Pipeline
import Galley.Proofs.Embed.Expansion
import Galley.Proofs.Embed.Markers
import Galley.Proofs.Enrich.Code
import Galley.Proofs.Outline
import Galley.Proofs.Text.Words
import Galley.Proofs.Typeset.Tables

/-!
Code survives. A tree without raw markup and definitions of footnotes, with well-formed tables, is
enriched to a text that has a block for each block of code and each formula in the tree, in their
order, and no other; reading the text of a block back gives the value in the tree. A block is the
placeholder of a diagram if its language is that of diagrams. Blocks that name a recording are
replaced before and are left out on both sides.
-/

set_option autoImplicit false
set_option relaxedAutoImplicit false

namespace Galley

open Html Typeset Enrich Markdown

/-! ### Blocks of a source -/

/-- A block of code in a source, or a formula that is set as one. -/
inductive SourceBlock where
  | code (language : Option (List Char)) (value : List Char)
  | formula (value : List Char)
deriving DecidableEq, Repr, Inhabited

/-- The block that a node without children is. -/
def sourceBlock? : Atom → Option SourceBlock
  | .code language _ value _ => some (.code language value)
  | .math _ value => some (.formula value)
  | _ => none

/-- The blocks in nodes, in order. -/
def sourceBlocks (nodes : List Node) : List SourceBlock :=
  (Node.atomsIn nodes).filterMap sourceBlock?

namespace SourceBlock

/-- Whether a block is one that names a recording. -/
def isRecording : SourceBlock → Bool
  | .code language _ => language == some Embed.recordingLanguage
  | .formula _ => false

/-- The class that names the language of code. -/
def classText : Option (List Char) → List Char
  | none | some [] => []
  | some language => " class=\"language-".toList ++ Text.escapeAttribute language ++ ['"']

/-- What a block is written as. The placeholder of a diagram has the value in an attribute, and all
other blocks have it as their text. -/
def IsWritten : SourceBlock → List Char → Prop
  | .code language value, written => ∃ inner, '<' ∉ inner ∧ Text.unescape inner = value ∧
    if isDiagram (codeAttributes language) then
      '"' ∉ inner ∧ written =
        "<div class=\"mermaid-placeholder\" data-mermaid=\"".toList ++ inner ++
        "\"><pre class=\"mermaid-loading\">Loading diagram...</pre></div>".toList
    else
      written = "<pre><code".toList ++ classText language ++ ">".toList ++ inner ++
        "</code></pre>".toList
  | .formula value, written => ∃ inner, '<' ∉ inner ∧ Text.unescape inner = value ∧
    written = "<pre><code class=\"language-math math-display\">".toList ++ inner ++
      "</code></pre>".toList

/-- A block as it is set. -/
def set : SourceBlock → CodeBlock
  | .code language value => ⟨codeAttributes language, valueMarkup value⟩
  | .formula value => ⟨mathAttributes "math-display", [.leaf value]⟩

theorem startTag_codeAttributes (language : Option (List Char)) :
    startTag "code".toList (codeAttributes language) =
      "<code".toList ++ classText language ++ ">".toList := by
  cases language with
  | none => decide
  | some language =>
    cases language with
    | nil => decide
    | cons c rest =>
      have hprefix : Text.escapeAttribute "language-".toList = "language-".toList := by decide
      have hescape : Text.escapeAttribute ("language-".toList ++ c :: rest) =
          "language-".toList ++ Text.escapeAttribute (c :: rest) := by
        rw [Text.escapeAttribute, List.flatMap_append, ← Text.escapeAttribute, hprefix,
          ← Text.escapeAttribute]
      have hentries : (codeAttributes (some (c :: rest))).entries =
          [(.className, "language-".toList ++ c :: rest)] := rfl
      have hname : AttributeKey.className.isBoolean = false ∧
          AttributeKey.className.name = "class".toList := ⟨rfl, rfl⟩
      have hclass : classText (some (c :: rest)) =
          " class=\"language-".toList ++ Text.escapeAttribute (c :: rest) ++ ['"'] := rfl
      rw [startTag, hentries, List.flatMap_singleton, writeAttribute, hname.1, hname.2, hescape,
        hclass]
      generalize Text.escapeAttribute (c :: rest) = value
      simp

theorem text_set_code (language : Option (List Char)) (value : List Char) :
    (set (.code language value)).text = value := by
  cases value <;> simp [set, CodeBlock.text, valueMarkup, Markup.textAll, Markup.text]

theorem text_set_formula (value : List Char) : (set (.formula value)).text = value := by
  simp [set, CodeBlock.text, Markup.textAll, Markup.text]

theorem isWritten_of_set (block : SourceBlock) (written : List Char)
    (h : block.set.IsWritten written) : block.IsWritten written := by
  obtain ⟨inner, hinner, hvalue, hwritten⟩ := h
  cases block with
  | code language value =>
    rw [text_set_code] at hvalue
    refine ⟨inner, hinner, hvalue, ?_⟩
    simp only [set, startTag_codeAttributes] at hwritten
    split_ifs at hwritten ⊢ with hdiagram
    · exact hwritten
    · rw [hwritten]
      simp
  | formula value =>
    rw [text_set_formula] at hvalue
    refine ⟨inner, hinner, hvalue, ?_⟩
    have hdiagram : isDiagram (mathAttributes "math-display") = false := by decide
    have htag : startTag "code".toList (mathAttributes "math-display") =
        "<code class=\"language-math math-display\">".toList := by decide
    simp only [set, hdiagram, htag, Bool.false_eq_true, ↓reduceIte] at hwritten
    rw [hwritten]
    simp

theorem isSound_set (block : SourceBlock) : block.set.IsSound := by
  cases block with
  | code language value =>
    have hkeys : (codeAttributes language).HasKeys pageKeys :=
      (codeAttributes_hasKeys language).mono (by decide)
    refine ⟨fun entry hentry ↦ pageKeys_clean _ (hkeys entry hentry), ?_⟩
    cases value with
    | nil => exact .inl rfl
    | cons c rest => exact .inr ⟨c :: rest, rfl⟩
  | formula value =>
    have hkeys : (mathAttributes "math-display").HasKeys pageKeys :=
      (mathAttributes_hasKeys _).mono (by decide)
    exact ⟨fun entry hentry ↦ pageKeys_clean _ (hkeys entry hentry), .inr ⟨value, rfl⟩⟩

end SourceBlock

/-! ### Blocks of a page -/

theorem Typeset.isContent_codeBlock? : IsContent codeBlock? where
  text _ := rfl
  box _ := codeBlock?_of_ne (by decide) _ _
  wrapper tag htag attrs _ inner := by
    have hnot : ∀ tag ∈ wrapperTags, tag ≠ "pre".toList := by decide
    exact codeBlock?_of_ne (hnot tag htag) attrs inner

theorem isFrame_element {tag : List Char} {attrs : Attributes} {inner : List Markup}
    (htag : isFrameTag tag = true) (hattrs : attrs.HasKeys pageKeys)
    (hvoid : isVoid tag = true → inner = []) : IsBlockOrFrame (.element tag attrs inner) :=
  .inr ⟨htag, fun entry hentry ↦ pageKeys_clean _ (hattrs entry hentry), hvoid⟩

/-- What is neither a block nor stands around blocks is read as such. -/
noncomputable def strayMarkup? (tree : Markup) : Option Unit :=
  open Classical in if IsBlockOrFrame tree then none else some ()

theorem strayMarkup?_eq_none {tree : Markup} :
    strayMarkup? tree = none ↔ IsBlockOrFrame tree := by
  simp [strayMarkup?]

theorem Typeset.isContent_strayMarkup? : IsContent strayMarkup? where
  text _ := strayMarkup?_eq_none.2 (.inr rfl)
  box isChecked := strayMarkup?_eq_none.2 <|
    isFrame_element (by decide) ((boxAttributes_hasKeys isChecked).mono (by decide)) fun _ ↦ rfl
  wrapper tag htag attrs hattrs inner := by
    have hall : ∀ tag ∈ wrapperTags, isFrameTag tag = true ∧ isVoid tag = false := by decide
    exact strayMarkup?_eq_none.2 <|
      isFrame_element (hall tag htag).1 (hattrs.mono (by decide)) (by simp [(hall tag htag).2])

theorem all_isBlockOrFrame_set (block : SourceBlock) :
    Markup.All IsBlockOrFrame [block.set.markup] := by
  have hsound := block.isSound_set
  have hcode : IsBlockOrFrame (.element "code".toList block.set.attrs block.set.content) :=
    .inr ⟨by decide, hsound.clean, fun hvoid ↦ absurd hvoid (by decide)⟩
  refine Markup.All.singleton.2 ⟨.inl ⟨_, hsound, rfl⟩, Markup.All.singleton.2 ⟨hcode, ?_⟩⟩
  rcases hsound.content with hcontent | ⟨value, hcontent⟩
  · rw [Markup.children, hcontent]
    exact .nil
  · rw [Markup.children, hcontent]
    exact Markup.All.singleton.2 ⟨.inr rfl, .nil⟩

theorem Typeset.all_isBlockOrFrame_atomMarkup (ds : Definitions) {atom : Atom}
    (hraw : ∀ value, atom = .html value → IsGap value) :
    Markup.All IsBlockOrFrame (atomMarkup ds atom) := by
  have hleaf (value : List Char) : Markup.All IsBlockOrFrame [.leaf value] :=
    Markup.All.singleton.2 ⟨.inr rfl, .nil⟩
  have hbare {tag : List Char} (htag : isFrameTag tag = true) {attrs : Attributes}
      (hattrs : attrs.HasKeys pageKeys) : Markup.All IsBlockOrFrame [.element tag attrs []] :=
    Markup.All.singleton.2 ⟨isFrame_element htag hattrs fun _ ↦ rfl, .nil⟩
  have hcode {attrs : Attributes} (hattrs : attrs.HasKeys pageKeys) (value : List Char) :
      Markup.All IsBlockOrFrame [.element "code".toList attrs [.leaf value]] :=
    Markup.All.singleton.2 ⟨isFrame_element (by decide) hattrs fun hvoid ↦
      absurd hvoid (by decide), hleaf value⟩
  cases atom with
  | text value => exact hleaf value
  | html value => exact Markup.All.singleton.2 ⟨.inr ⟨hraw value rfl, rfl⟩, .nil⟩
  | code language remark value place => exact all_isBlockOrFrame_set (.code language value)
  | math remark value => exact all_isBlockOrFrame_set (.formula value)
  | inlineCode value => exact hcode .empty value
  | inlineMath value => exact hcode ((mathAttributes_hasKeys _).mono (by decide)) value
  | hardBreak => exact Markup.All.append.2 ⟨hbare (by decide) .empty, hleaf ['\n']⟩
  | thematicBreak => exact hbare (by decide) .empty
  | image url title alt =>
    exact hbare (by decide) ((imageAttributes_hasKeys url alt title).mono (by decide))
  | imageReference style reference alt =>
    cases hlink : ds.link? reference.identifier with
    | none =>
      simp only [Typeset.atomMarkup, hlink]
      exact hleaf _
    | some target =>
      simp only [Typeset.atomMarkup, hlink]
      exact hbare (by decide)
        ((imageAttributes_hasKeys target.url alt target.title).mono (by decide))
  | footnoteReference reference => exact hleaf _
  | _ => exact .nil

theorem Typeset.gather_codeBlock?_atomMarkup (ds : Definitions) (atom : Atom) :
    Markup.gather codeBlock? (atomMarkup ds atom) =
      ((sourceBlock? atom).map SourceBlock.set).toList := by
  cases atom with
  | code language remark value place =>
    exact gather_markup (SourceBlock.isSound_set (.code language value))
  | math remark value => exact gather_markup (SourceBlock.isSound_set (.formula value))
  | imageReference style reference alt =>
    cases hlink : ds.link? reference.identifier with
    | none =>
      simp only [Typeset.atomMarkup, hlink]
      rfl
    | some target =>
      simp only [Typeset.atomMarkup, hlink]
      rfl
  | _ => rfl

/-- On a page without definitions of footnotes, whose raw markup holds no block, the blocks stand
that its tree shows, in order. -/
theorem Typeset.hasCode_pageMarkup {tree : Node} (hnotes : (Definitions.ofNode tree).footnotes = [])
    (hraw : ∀ value, .html value ∈ shownAll (topNodes tree) → IsGap value) :
    HasCode CodeBlock.markup
      (((shownAll (topNodes tree)).filterMap sourceBlock?).map SourceBlock.set)
      (pageMarkup tree) := by
  have hall : Markup.All IsBlockOrFrame (pageMarkup tree) := by
    have hstray : Markup.gather strayMarkup? (pageMarkup tree) = [] := by
      rw [isContent_strayMarkup?.gather_pageMarkup_of_no_notes hnotes, List.flatMap_eq_nil_iff]
      intro atom hatom
      have hgap : ∀ value, atom = .html value → IsGap value := fun value heq ↦
        hraw value (heq ▸ hatom)
      have hframes := all_isBlockOrFrame_atomMarkup (.ofNode tree) hgap
      exact Markup.gather_eq_nil_iff.2 fun lower hlower ↦
        strayMarkup?_eq_none.2 (hframes lower hlower)
    exact fun lower hlower ↦ strayMarkup?_eq_none.1 (Markup.gather_eq_nil_iff.1 hstray lower hlower)
  have hgather : Markup.gather codeBlock? (pageMarkup tree) =
      ((shownAll (topNodes tree)).filterMap sourceBlock?).map SourceBlock.set := by
    rw [isContent_codeBlock?.gather_pageMarkup_of_no_notes hnotes, List.map_filterMap,
      List.filterMap_eq_flatMap_toList]
    exact List.flatMap_congr fun atom _ ↦ gather_codeBlock?_atomMarkup _ atom
  exact hgather ▸ hasCode_of_all _ hall

/-! ### Recordings -/

/-- The first attribute of an element. -/
def Html.Attributes.StartsWith (attrs : Attributes) (entry : AttributeKey × List Char) : Prop :=
  ∃ rest, attrs.entries = entry :: rest

namespace Html.Attributes.StartsWith

variable {attrs : Attributes} {entry : AttributeKey × List Char}

theorem set (h : attrs.StartsWith entry) {key : AttributeKey} (hkey : entry.1 ≠ key)
    (value : List Char) : (attrs.set key value).StartsWith entry := by
  obtain ⟨rest, hrest⟩ := h
  exact ⟨setEntry key value rest, by simp [Attributes.set, setEntry, hrest, hkey]⟩

theorem setIf (h : attrs.StartsWith entry) {key : AttributeKey} (hkey : entry.1 ≠ key)
    (value : Option (List Char)) : (attrs.setIf key value).StartsWith entry := by
  cases value with
  | none => exact h
  | some value => exact h.set hkey value

end Html.Attributes.StartsWith

namespace Embed

theorem Recording.attributes_startsWith (r : Recording) :
    r.attributes.StartsWith (.className, "asciinema-embed".toList) := by
  have hclass : (Attributes.empty.set .className "asciinema-embed".toList).StartsWith
      (.className, "asciinema-embed".toList) := ⟨[], rfl⟩
  unfold Recording.attributes
  exact (((((((hclass.set (by decide) _).setIf (by decide) _).setIf (by decide) _).setIf
    (by decide) _).setIf (by decide) _).setIf (by decide) _).setIf (by decide) _)

/-- No block of code is in a marker. -/
theorem Recording.isGap_marker (r : Recording) : IsGap r.marker := by
  have hnames : ∀ key ∈ markerKeys, key.name.all isTagChar = true := by decide
  have hdiv : isTagName "div".toList = true := by decide
  have hclean : r.attributes.IsClean := fun entry hentry ↦
    hnames _ (r.attributes_hasKeys entry hentry)
  have hopen := openTag_isClean (isBracketFree_of_isTagName hdiv) hclean.isBracketFree
  refine IsGap.append (.tag hopen fun start hstart hprefix ↦ ?_) (isGap_endTag hdiv)
  obtain ⟨rest, hrest⟩ := r.attributes_startsWith
  have hapart : ∀ start ∈ blockStarts,
      ¬ start <+: "div".toList ++ writeAttribute (.className, "asciinema-embed".toList) ∧
        ¬ "div".toList ++ writeAttribute (.className, "asciinema-embed".toList) <+: start := by
    decide
  rw [hrest, List.flatMap_cons, List.append_eq, ← List.append_assoc, List.append_assoc] at hprefix
  rcases List.prefix_or_prefix_of_prefix hprefix (List.prefix_append _ _) with hshort | hlong
  · exact (hapart start hstart).1 hshort
  · exact (hapart start hstart).2 hlong

theorem isGap_missingNotice : IsGap missingNotice := by decide +kernel

theorem IsMarkup.isGap {markup : List Char} (h : IsMarkup markup) : IsGap markup := by
  rcases h with hnotice | ⟨recording, hmarker⟩
  · rw [hnotice]
    exact isGap_missingNotice
  · rw [hmarker]
    exact recording.isGap_marker

end Embed

/-! ### The trees of expanded sources -/

/-- Whether a node is raw markup that holds a block. -/
def HoldsBlock (atom : Atom) : Prop := ∃ value, atom = .html value ∧ ¬ IsGap value

theorem Embed.ignores_holdsBlock :
    Ignores fun atom ↦ open Classical in if HoldsBlock atom then [atom] else [] where
  text value := if_neg fun ⟨_, hatom, _⟩ ↦ by cases hatom
  markup markup hmarkup := by
    refine if_neg ?_
    rintro ⟨value, hatom, hgap⟩
    obtain rfl : markup = value := by simpa using hatom
    exact hgap hmarkup.isGap
  recording remark value place := if_neg fun ⟨_, hatom, _⟩ ↦ by cases hatom

/-- A source without raw markup shows, after it is expanded, only raw markup that holds no block. -/
theorem Embed.Expands.isGap_of_mem_shownAll {nodes nodes' : List Node} (h : Expands nodes nodes')
    {nodes'' : List Node} (h' : Expands nodes' nodes'')
    (hraw : ∀ value, .html value ∉ shownAll nodes) :
    ∀ value, .html value ∈ shownAll nodes'' → IsGap value := by
  have hnone : ∀ atom ∈ shownAll nodes, ¬ HoldsBlock atom := by
    rintro atom hatom ⟨value, rfl, -⟩
    exact hraw value hatom
  have hnone'' : ∀ atom ∈ shownAll nodes'', ¬ HoldsBlock atom := by
    have hread := ((h'.flatMap_shown ignores_holdsBlock).1.trans
      (h.flatMap_shown ignores_holdsBlock).1).trans <|
        List.flatMap_eq_nil_iff.2 fun atom hatom ↦ if_neg (hnone atom hatom)
    intro atom hatom hholds
    have hempty := List.flatMap_eq_nil_iff.1 hread atom hatom
    rw [if_pos hholds] at hempty
    exact List.cons_ne_nil _ _ hempty
  intro value hvalue
  by_contra hgap
  exact hnone'' _ hvalue ⟨value, rfl, hgap⟩

/-- Apart from blocks that name a recording, the same blocks are shown after nodes are expanded. -/
theorem Embed.Expands.filter_sourceBlocks {nodes nodes' : List Node} (h : Expands nodes nodes') :
    ((shownAll nodes').filterMap sourceBlock?).filter (!·.isRecording) =
      ((shownAll nodes).filterMap sourceBlock?).filter (!·.isRecording) := by
  let read (atom : Atom) : List SourceBlock := (sourceBlock? atom).toList.filter (!·.isRecording)
  have hread : Ignores read := ⟨fun _ ↦ rfl, fun _ _ ↦ rfl, fun _ _ _ ↦ rfl⟩
  have hfilter (atoms : List Atom) :
      (atoms.filterMap sourceBlock?).filter (!·.isRecording) = atoms.flatMap read := by
    rw [List.filterMap_eq_flatMap_toList, List.filter_flatMap]
  rw [hfilter, hfilter, (h.flatMap_shown hread).1]

/-! ### Diagrams -/

/-- Code in a language without blanks in its name is a diagram if and only if the language is that
of diagrams. -/
theorem Enrich.isDiagram_codeAttributes_iff {language : Option (List Char)}
    (hblank : ∀ name, language = some name → ∀ c ∈ name, Text.isAsciiBlank c = false) :
    isDiagram (codeAttributes language) = true ↔ language = some diagramLanguage := by
  have hnone : isDiagram .empty = false := by decide
  match language with
  | none => simp [codeAttributes, hnone]
  | some [] =>
    have hname : diagramLanguage ≠ [] := by decide
    simp [codeAttributes, hnone, hname.symm]
  | some (c :: rest) =>
    have hstart : "language-".toList.all (!Text.isAsciiBlank ·) = true := by decide
    have hname : ∀ d ∈ "language-".toList ++ c :: rest, Text.isAsciiBlank d = false := by
      intro d hd
      rcases List.mem_append.1 hd with hd | hd
      · exact Bool.not_eq_true' _ ▸ List.all_eq_true.1 hstart d hd
      · exact hblank _ rfl d hd
    have hclasses : (codeAttributes (some (c :: rest))).classes =
        ["language-".toList ++ c :: rest] := by
      rw [codeAttributes, Attributes.classes, Attributes.get?_set_self, Option.getD_some,
        Text.wordsBy_of_forall_not hname (by simp)]
      simp
    have hheads : diagramLanguage.head? = some 'm' ∧ "language-".toList.head? = some 'l' := by
      decide
    have hbare : (diagramLanguage == "language-".toList ++ c :: rest) = false := by
      refine beq_eq_false_iff_ne.2 fun heq ↦ ?_
      have hhead := congrArg List.head? heq
      rw [List.head?_append, hheads.1, hheads.2, Option.some_or] at hhead
      exact absurd hhead (by decide)
    rw [isDiagram, Attributes.hasClass, Attributes.hasClass, hclasses]
    simp only [List.contains_cons, List.contains_nil, Bool.or_false, hbare, beq_iff_eq,
      List.append_cancel_left_eq, Option.some.injEq]
    exact eq_comm

/-! ### Enriched pages -/

/-- The passes that are run unless they are switched off. -/
def Enrich.BuiltIn.standard : List BuiltIn :=
  [.headingIds, .headingAnchors "anchor".toList, .images {}, .diagrams]

/-- The standard passes keep the blocks of trees, and set those that are diagrams as
placeholders. -/
theorem Enrich.HasCode.standard {blocks : List CodeBlock} {trees : List Markup}
    (h : HasCode CodeBlock.markup blocks trees) (d : Diagnostics) :
    HasCode CodeBlock.enriched blocks (BuiltIn.rewriteAll BuiltIn.standard d trees).2 :=
  (((h.assignIdMarkup _).wrapHeadingMarkup _ _).adjustImageMarkup _ _).replaceDiagramMarkup _

/-- Where no footnote is defined and no raw markup shown, the blocks that are shown are written, in
order; those that name a recording may have been replaced. -/
theorem shown_blocks_are_written {children : List Node}
    (hnotes : (Definitions.ofNodes children).footnotes = [])
    (hraw : ∀ value, .html value ∉ shownAll children) :
    ∃ doc d blocks, ({} : Pipeline).documentOf (.branch .root children) {} = (.ok doc, d) ∧
      HasBlocks SourceBlock.IsWritten blocks doc.write ∧ blocks.filter (!·.isRecording) =
        ((shownAll children).filterMap sourceBlock?).filter (!·.isRecording) := by
  obtain ⟨children', children'', d, hexpand, hfirst, hsecond⟩ : ∃ children' children'' d,
      Embed.expand (.branch .root children) {} = (.branch .root children'', d) ∧
        Embed.Expands children children' ∧ Embed.Expands children' children'' :=
    ⟨_, _, _, rfl, Embed.expands_expandAllBlocks _ _, Embed.expands_expandAllShortcodes _ _⟩
  have hnotes'' : (Definitions.ofNode (.branch .root children'')).footnotes = [] := by
    have hsame := hsecond.footnotes_eq.trans hfirst.footnotes_eq
    simpa [hnotes, Definitions.ofNode] using hsame
  have hcode := (hasCode_pageMarkup hnotes'' (hfirst.isGap_of_mem_shownAll hsecond hraw)).standard d
  obtain ⟨area, hspans, hnodup⟩ := page_spans (.branch .root children'')
  obtain ⟨doc, area', hrun, hspans', hnodup'⟩ :=
    BuiltIn.runPasses_eq BuiltIn.standard hspans hnodup d
  have hdocument : ({} : Pipeline).documentOf (.branch .root children) {} =
      runPasses (BuiltIn.standard.map BuiltIn.pass) (page (.branch .root children'')) d := by
    have htransforms : applyTransforms ({} : Pipeline).transforms (.branch .root children) {} =
      (.branch .root children'', d) := hexpand
    rw [Pipeline.documentOf, htransforms]
    rfl
  refine ⟨doc, _, (shownAll children'').filterMap sourceBlock?, hdocument.trans hrun, ?_, ?_⟩
  · rw [hspans'.write_eq hnodup', Markup.write]
    exact hcode.hasBlocks.of_map SourceBlock.set SourceBlock.isWritten_of_set
  · rw [hsecond.filter_sourceBlocks, hfirst.filter_sourceBlocks]

/-- A tree without raw markup and definitions of footnotes, with well-formed tables, is enriched to
a text with a block for each block of code and each formula in it, in order; those that name a
recording may have been replaced. Code in a language without blanks in its name is written as the
placeholder of a diagram if and only if the language is that of diagrams. -/
theorem code_is_written_in_order (children : List Node)
    (htables : (Node.branch .root children).HasWellFormedTables)
    (hplain : ∀ node ∈ (Node.branch .root children).all,
      node.isFootnoteDefinition = false ∧ node.isRaw = false) :
    (∃ doc d blocks, ({} : Pipeline).documentOf (.branch .root children) {} = (.ok doc, d) ∧
      HasBlocks SourceBlock.IsWritten blocks doc.write ∧
        blocks.filter (!·.isRecording) =
          (sourceBlocks [.branch .root children]).filter (!·.isRecording)) ∧
      ∀ language : Option (List Char),
        (∀ name, language = some name → ∀ c ∈ name, Text.isAsciiBlank c = false) →
          (isDiagram (codeAttributes language) = true ↔ language = some diagramLanguage) := by
  refine ⟨?_, fun language hblank ↦ isDiagram_codeAttributes_iff hblank⟩
  have hbelow : ∀ lower ∈ Node.allIn children, lower ∈ (Node.branch .root children).all :=
    fun lower hlower ↦ by simp [Node.all, hlower]
  have hshown : shownAll children = Node.atomsIn children :=
    shownAll_eq children (htables _ (Node.mem_all_self _)) fun lower hlower ↦
      ⟨(hplain lower (hbelow lower hlower)).1, htables lower (hbelow lower hlower)⟩
  have hnotes : (Definitions.ofNodes children).footnotes = [] := by
    rw [Definitions.footnotes_ofNodes, List.filterMap_eq_nil_iff]
    intro lower hlower
    simpa [Node.isFootnoteDefinition] using (hplain lower (hbelow lower hlower)).1
  have hraw : ∀ value, .html value ∉ shownAll children := by
    intro value hvalue
    rw [hshown, Node.atomsIn, List.mem_filterMap] at hvalue
    obtain ⟨node, hnode, hatom⟩ := hvalue
    have hnever := (hplain node (hbelow node hnode)).2
    simp [Node.isRaw, hatom] at hnever
  have hblocks : (shownAll children).filterMap sourceBlock? =
      sourceBlocks [.branch .root children] := by
    rw [hshown, sourceBlocks, Node.atomsIn_branch]
    simp [Node.atomsIn, Node.allIn]
  rw [← hblocks]
  exact shown_blocks_are_written hnotes hraw

/-- Code in a task of a list and a diagram in the cell of a table are written, and a recording gives
way to its marker. -/
theorem code_is_written_in_order_of_list_and_table :
    let children : List Node :=
      [.branch (.list false none false) [.branch (.item (some true) false)
          [.atom (.code (some "rust".toList) none "  a < b\n".toList none)]],
        .atom (.code (some Embed.recordingLanguage) none "cast-id: x".toList none),
        .branch (.table [none]) [.branch .row [.branch .cell
          [.atom (.code (some diagramLanguage) none "a --> \"b\"".toList none)]]]]
    ∃ doc d blocks, ({} : Pipeline).documentOf (.branch .root children) {} = (.ok doc, d) ∧
      HasBlocks SourceBlock.IsWritten blocks doc.write ∧
        blocks.filter (!·.isRecording) = [.code (some "rust".toList) "  a < b\n".toList,
          .code (some diagramLanguage) "a --> \"b\"".toList] := by
  intro children
  exact (code_is_written_in_order children (by decide) (by decide)).1

end Galley
