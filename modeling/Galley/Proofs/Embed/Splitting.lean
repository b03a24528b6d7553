import Galley.Proofs.Embed.Markers

/-!
Texts that are split at their shortcodes. The shortcodes that are read of a text from left to right
are determined by the text (`readsAs_iff`), and splitting loses nothing of it: those with a good
name give way to their markers, and every other character is in the text before, between or behind
them (`splitShortcodes_splitsInto`). A shortcode with a good name is one of those that are read
unless another one was begun in the text before it and not ended there, which then takes it in
(`pieces_around`).
-/

set_option autoImplicit false
set_option relaxedAutoImplicit false

namespace Galley.Embed

open Html Markdown

/-! ### Reading from left to right -/

/-- Pieces that are read of a text from left to right. -/
structure ReadsAs (s : List Char) (ps : List Piece) : Prop where
  /-- One behind the other, the pieces are the text. -/
  sources_eq : sources ps = s
  isParams : ∀ params, .shortcode params ∈ ps → IsParams params
  /-- A character is a piece of its own only if no shortcode starts there. -/
  leftmost : ∀ front c back, ps = front ++ .plain c :: back →
    ∀ params, IsParams params → ¬ shortcodeText params <+: c :: sources back

theorem shortcode?_eq_none_iff {s : List Char} :
    shortcode? s = none ↔ ∀ params, IsParams params → ¬ shortcodeText params <+: s := by
  constructor
  · rintro hnone params hparams ⟨rest, heq⟩
    rw [shortcode?_eq_some_iff.2 ⟨hparams, rest, heq.symm⟩] at hnone
    cases hnone
  · intro h
    by_contra hsome
    obtain ⟨params, hsome⟩ := Option.ne_none_iff_exists'.1 hsome
    obtain ⟨hparams, rest, heq⟩ := shortcode?_eq_some_iff.1 hsome
    exact h params hparams ⟨rest, heq.symm⟩

theorem ReadsAs.isCut {s : List Char} {ps : List Piece} (h : ReadsAs s ps) : IsCut ps := by
  induction ps generalizing s with
  | nil => exact isCut_nil
  | cons piece ps ih =>
    have hrest : IsCut ps := ih
      { sources_eq := rfl
        isParams := fun params hmem ↦ h.isParams params (List.mem_cons_of_mem _ hmem)
        leftmost := fun front c back heq ↦ h.leftmost (piece :: front) c back (by rw [heq]; rfl) }
    cases piece with
    | plain c =>
      exact isCut_plain_cons.2 ⟨shortcode?_eq_none_iff.2 (h.leftmost [] c ps rfl), hrest⟩
    | shortcode params => exact isCut_shortcode_cons.2 ⟨h.isParams params (by simp), hrest⟩

/-- What is read of a text are its pieces, and nothing else can be. -/
theorem readsAs_iff {s : List Char} {ps : List Piece} : ReadsAs s ps ↔ ps = pieces s := by
  constructor
  · intro h
    rw [← h.sources_eq, h.isCut]
  · rintro rfl
    constructor
    · exact sources_pieces s
    · exact fun params ↦ isParams_of_mem_pieces
    · intro front c back heq
      have hcut := isCut_pieces s
      rw [heq] at hcut
      exact shortcode?_eq_none_iff.1 (isCut_plain_cons.1 hcut.of_append.2).1

/-! ### Good names and bad ones -/

/-- The shortcodes among pieces. -/
def matched (ps : List Piece) : List (List Char) := ps.filterMap Piece.params?

/-- The shortcodes among pieces that have a good name. -/
def wellNamed (ps : List Piece) : List (List Char) :=
  (matched ps).filter fun params => IsCastId (shortcodeName params)

/-- The shortcodes among pieces that have a name, but not a good one. -/
def misnamed (ps : List Piece) : List (List Char) :=
  (matched ps).filter fun params =>
    shortcodeName params ≠ [] ∧ ¬ IsCastId (shortcodeName params)

/-- The error that reports a shortcode. -/
def refusal (params : List Char) : Problem where
  stage := stage
  message := (Recording.ofShortcode params).fault

theorem wellNamed_append (ps qs : List Piece) :
    wellNamed (ps ++ qs) = wellNamed ps ++ wellNamed qs := by
  simp [wellNamed, matched]

theorem wellNamed_eq_nil {ps : List Piece} (h : ∀ piece ∈ ps, piece.markup? = none) :
    wellNamed ps = [] := by
  rw [wellNamed, List.filter_eq_nil_iff]
  intro params hmem
  rw [decide_eq_true_iff]
  intro hname
  obtain ⟨piece, hpiece, hparams⟩ := List.mem_filterMap.1 hmem
  have hnone := h piece hpiece
  rw [Piece.markup?, hparams, Option.bind_some,
    shortcodeMarkup?_eq_some_iff.2 ⟨hname, rfl⟩] at hnone
  cases hnone

theorem wellNamed_shortcode {params : List Char} (h : IsCastId (shortcodeName params)) :
    wellNamed [.shortcode params] = [params] := by
  simp [wellNamed, matched, Piece.params?, h]

theorem Recording.problem?_ofShortcode (params : List Char) :
    (Recording.ofShortcode params).problem? =
      if shortcodeName params ≠ [] ∧ ¬ IsCastId (shortcodeName params) then some (refusal params)
      else none := by
  have hgood := Recording.isCastId_iff (r := Recording.ofShortcode params)
  rw [Recording.castId_ofShortcode] at hgood
  by_cases hname : shortcodeName params = []
  · simp [Recording.problem?, hname]
  · by_cases hvalid : (Recording.ofShortcode params).isValid = true
    · simp [Recording.problem?, hgood, hvalid, hname]
    · simp [Recording.problem?, hgood, hvalid, hname, refusal]

/-- What is reported of pieces are the shortcodes that are named badly. -/
theorem filterMap_problem? (ps : List Piece) :
    ps.filterMap Piece.problem? = (misnamed ps).map refusal := by
  have hmatched : ps.filterMap Piece.problem? =
      (matched ps).filterMap fun params ↦ (Recording.ofShortcode params).problem? := by
    rw [matched, List.filterMap_filterMap]
    rfl
  rw [hmatched, misnamed]
  induction matched ps with
  | nil => rfl
  | cons params codes ih =>
    have hproblem := Recording.problem?_ofShortcode params
    by_cases hbad : shortcodeName params ≠ [] ∧ ¬ IsCastId (shortcodeName params)
    · rw [if_pos hbad] at hproblem
      rw [List.filter_cons_of_pos (by rwa [decide_eq_true_iff]), List.map_cons, ← ih]
      simp only [List.filterMap_cons, hproblem]
    · rw [if_neg hbad] at hproblem
      rw [List.filter_cons_of_neg (by rwa [decide_eq_true_iff]), ← ih]
      simp only [List.filterMap_cons, hproblem]

/-! ### Parts and what they stand for -/

/-- A part of a text that was split, and the pieces that it stands for: the marker of a shortcode
with a good name, or a text, which is not empty and has no such shortcode among its pieces. -/
inductive IsPartOf : List Piece → Node → Prop
  | marker {params : List Char} (hname : IsCastId (shortcodeName params)) :
      IsPartOf [.shortcode params] (html (Recording.ofShortcode params).marker)
  | gap {ps : List Piece} (hne : ps ≠ []) (hgap : wellNamed ps = []) :
      IsPartOf ps (.text (sources ps))

/-- A text among parts. -/
def IsText (part : Node) : Prop := ∃ value, part = .text value

/-- Two parts side by side that are not both texts. -/
def IsApart (part next : Node) : Prop := ¬ (IsText part ∧ IsText next)

/-- The raw markup of a node. -/
def markupOf? : Node → Option (List Char)
  | .atom (.html markup) => some markup
  | _ => none

/-- Parts as one text, with shortcodes in place of the raw markup. -/
def putBack : List Node → List (List Char) → List Char
  | .atom (.text value) :: parts, codes => value ++ putBack parts codes
  | .atom (.html _) :: parts, params :: codes => shortcodeText params ++ putBack parts codes
  | _, _ => []

/-- How a text is split into parts, each of which stands for a stretch of its pieces, and which
errors are reported. -/
structure SplitsInto (value : List Char) (stretches : List (List Piece)) (parts : List Node)
    (errors : List Problem) : Prop where
  /-- The stretches make up what is read of the text. -/
  reads : ReadsAs value stretches.flatten
  stand : List.Forall₂ IsPartOf stretches parts
  /-- A text goes on until the next marker. -/
  apart : parts.IsChain IsApart
  full : Node.text [] ∉ parts
  /-- The markers are those of the shortcodes with a good name, in order. -/
  markers : parts.filterMap markupOf? =
    (wellNamed stretches.flatten).map fun params ↦ (Recording.ofShortcode params).marker
  /-- With these shortcodes in place of their markers, the parts are the text. -/
  restores : putBack parts (wellNamed stretches.flatten) = value
  /-- The errors report the shortcodes that are named badly, in order. -/
  reports : errors = (misnamed stretches.flatten).map refusal

theorem sources_eq_nil_iff {ps : List Piece} : sources ps = [] ↔ ps = [] := by
  cases ps with
  | nil => simp [sources]
  | cons piece ps => cases piece <;> simp [sources, Piece.source, shortcodeText]

/-- A text is a part of its own, unless it is empty. -/
def textPart (value : List Char) : List Node := if value = [] then [] else [.text value]

theorem gapNode_eq (gap : List Char) : gapNode gap = textPart gap.reverse := by
  simp [gapNode, textPart]

theorem isChain_textPart_append {value markup : List Char} {parts : List Node}
    (h : parts.IsChain IsApart) : (textPart value ++ html markup :: parts).IsChain IsApart := by
  have hmarker : ¬ IsText (html markup) := by
    rintro ⟨text, heq⟩
    cases heq
  have hbehind : (html markup :: parts).IsChain IsApart :=
    List.isChain_cons.2 ⟨fun next _ hboth ↦ hmarker hboth.1, h⟩
  unfold textPart
  split_ifs
  · exact hbehind
  · exact List.isChain_cons_cons.2 ⟨fun hboth ↦ hmarker hboth.2, hbehind⟩

theorem exists_forall₂_textPart {ps : List Piece} (h : ∀ piece ∈ ps, piece.markup? = none) :
    ∃ stretches : List (List Piece), stretches.flatten = ps ∧
      List.Forall₂ IsPartOf stretches (textPart (sources ps)) := by
  by_cases hps : ps = []
  · subst hps
    exact ⟨[], rfl, .nil⟩
  · rw [textPart, if_neg (mt sources_eq_nil_iff.1 hps)]
    exact ⟨[ps], List.append_nil ps, .cons (.gap hps (wellNamed_eq_nil h)) .nil⟩

/-- The parts that pieces become stand for stretches of them, and no two texts stand side by
side. -/
theorem Cut.exists_forall₂ {ps : List Piece} {parts : List Node} (h : Cut ps parts) :
    ∃ stretches : List (List Piece), stretches.flatten = ps ∧
      List.Forall₂ IsPartOf stretches parts ∧ parts.IsChain IsApart := by
  induction h with
  | gap hgap =>
    rw [gapNode_eq, List.reverse_reverse]
    obtain ⟨stretches, hflatten, hparts⟩ := exists_forall₂_textPart hgap
    refine ⟨stretches, hflatten, hparts, ?_⟩
    unfold textPart
    split_ifs
    · exact .nil
    · exact .singleton _
  | @marker before rest piece markup parts hgap hmarkup hrest ih =>
    rw [gapNode_eq, List.reverse_reverse]
    obtain ⟨stretches, hflatten, hparts, hchain⟩ := ih
    obtain ⟨front, hfront, hbefore⟩ := exists_forall₂_textPart hgap
    cases piece with
    | plain c => cases hmarkup
    | shortcode params =>
      obtain ⟨hname, rfl⟩ := shortcodeMarkup?_eq_some_iff.1 hmarkup
      refine ⟨front ++ [.shortcode params] :: stretches, ?_, ?_, isChain_textPart_append hchain⟩
      · simp [hflatten, hfront]
      · exact List.rel_append hbefore (.cons (.marker hname) hparts)

theorem text_nil_notMem_of_forall₂ {stretches : List (List Piece)} {parts : List Node}
    (h : List.Forall₂ IsPartOf stretches parts) : Node.text [] ∉ parts := by
  induction h with
  | nil => simp
  | cons hpart hrest ih =>
    rw [List.mem_cons, not_or]
    refine ⟨fun heq ↦ ?_, ih⟩
    cases hpart with
    | marker hname => cases heq
    | gap hne hgap => exact hne (sources_eq_nil_iff.1 (by simpa using heq.symm))

theorem filterMap_markupOf?_of_forall₂ {stretches : List (List Piece)} {parts : List Node}
    (h : List.Forall₂ IsPartOf stretches parts) :
    parts.filterMap markupOf? =
      (wellNamed stretches.flatten).map fun params ↦ (Recording.ofShortcode params).marker := by
  induction h with
  | nil => rfl
  | cons hpart hrest ih =>
    rw [List.flatten_cons, wellNamed_append, List.map_append, ← ih]
    cases hpart with
    | marker hname =>
      rw [wellNamed_shortcode hname]
      rfl
    | gap hne hgap =>
      rw [hgap]
      rfl

theorem putBack_of_forall₂ {stretches : List (List Piece)} {parts : List Node}
    (h : List.Forall₂ IsPartOf stretches parts) :
    putBack parts (wellNamed stretches.flatten) = sources stretches.flatten := by
  induction h with
  | nil => rfl
  | cons hpart hrest ih =>
    rw [List.flatten_cons, wellNamed_append, sources, List.flatMap_append, ← sources, ← sources,
      ← ih]
    cases hpart with
    | marker hname =>
      rw [wellNamed_shortcode hname]
      simp [putBack, sources, Piece.source]
    | gap hne hgap =>
      rw [hgap, List.nil_append, putBack]

/-- Splitting a text loses nothing of it. Each shortcode with a good name becomes its marker, what
stands before, between and behind these stays as it is, and of the other shortcodes those that have
a name are reported. -/
theorem splitShortcodes_splitsInto (d : Diagnostics) (value : List Char) :
    ∃ stretches errors, SplitsInto value stretches (splitShortcodes d value).1 errors ∧
      (splitShortcodes d value).2 = d.extend { errors := errors } := by
  have hcut : Cut (pieces value) (cutFrom [] (pieces value)) :=
    cut_cutFrom (List.forall_mem_nil _) (pieces value)
  obtain ⟨stretches, hflatten, hparts, hchain⟩ := hcut.exists_forall₂
  refine ⟨stretches, (misnamed stretches.flatten).map refusal, ?_, ?_⟩
  · rw [splitShortcodes, splitFrom_eq]
    constructor
    · exact readsAs_iff.2 hflatten
    · exact hparts
    · exact hchain
    · exact text_nil_notMem_of_forall₂ hparts
    · exact filterMap_markupOf?_of_forall₂ hparts
    · rw [putBack_of_forall₂ hparts, hflatten, sources_pieces]
    · rfl
  · rw [splitShortcodes, splitFrom_eq, hflatten, filterMap_problem?]

/-! ### A shortcode and the text around it -/

/-- A text in which a shortcode is begun and not ended. -/
def IsOpen (s : List Char) : Prop := ∃ back ∈ s.tails, shortcodeStart <+: back ∧ ']' ∉ back

instance (s : List Char) : Decidable (IsOpen s) :=
  inferInstanceAs (Decidable (∃ back ∈ s.tails, _))

theorem isOpen_cons {c : Char} {s : List Char} :
    IsOpen (c :: s) ↔ (shortcodeStart <+: c :: s ∧ ']' ∉ c :: s) ∨ IsOpen s := by
  simp only [IsOpen, List.tails_cons, List.mem_cons, exists_eq_or_imp]

theorem IsCastId.isParams {name : List Char} (h : IsCastId name) : IsParams name := by
  refine ⟨h.1, fun hmem ↦ ?_⟩
  have hchar := h.2 _ hmem
  simp [Recording.isNameChar, Text.isAlnum, Text.isLetter, Text.isDigit] at hchar

theorem IsCastId.shortcodeName_eq {name : List Char} (h : IsCastId name) :
    shortcodeName name = name := by
  refine List.takeWhile_eq_self_iff.2 fun c hc ↦ ?_
  rw [bne_iff_ne]
  rintro rfl
  have hchar := h.2 _ hc
  simp [Recording.isNameChar, Text.isAlnum, Text.isLetter, Text.isDigit] at hchar

theorem hasShortcode_cons_eq_false_iff {c : Char} {s : List Char} :
    hasShortcode (c :: s) = false ↔ shortcode? (c :: s) = none ∧ hasShortcode s = false := by
  rw [hasShortcode, Bool.or_eq_false_iff, Option.isSome_eq_false_iff, Option.isNone_iff_eq_none]

/-- A shortcode cannot be begun inside the start of another one. -/
theorem prefix_of_prefix_append {s rest : List Char} (hs : s ≠ [])
    (h : shortcodeStart <+: s ++ (shortcodeStart ++ rest)) : shortcodeStart <+: s := by
  rcases List.prefix_or_prefix_of_prefix h (List.prefix_append s _) with hlong | ⟨back, hback⟩
  · exact hlong
  · obtain ⟨after, hafter⟩ := h
    have hstart : shortcodeStart = '[' :: shortcodeStart.tail := by decide
    have hcancel : back ++ after = shortcodeStart ++ rest := by
      rwa [← hback, List.append_assoc, List.append_cancel_left_eq, hback] at hafter
    cases back with
    | nil => rw [← hback, List.append_nil]
    | cons c back =>
      rw [hstart] at hcancel
      obtain rfl : c = '[' := (List.cons.inj hcancel).1
      obtain ⟨d, s, rfl⟩ := List.exists_cons_of_ne_nil hs
      have hmem : '[' ∈ shortcodeStart.tail := by simp [← hback]
      exact absurd hmem (by decide)

/-- A shortcode that is read where none was read before another one was put behind is begun and not
ended before it. -/
theorem isBegun_of_shortcode?_append {s name after params : List Char} (hs : s ≠ [])
    (hnone : shortcode? s = none)
    (hread : shortcode? (s ++ (shortcodeText name ++ after)) = some params) :
    shortcodeStart <+: s ∧ ']' ∉ s := by
  obtain ⟨hparams, rest, heq⟩ := shortcode?_eq_some_iff.1 hread
  have hwhole : shortcodeStart <+: s ++ (shortcodeStart ++ (name ++ ']' :: after)) :=
    ⟨params ++ ']' :: rest, by simpa [shortcodeText] using heq.symm⟩
  have hstart := prefix_of_prefix_append hs hwhole
  refine ⟨hstart, fun hmem ↦ ?_⟩
  obtain ⟨back, rfl⟩ := hstart
  have hback : ']' ∈ back := (List.mem_append.1 hmem).resolve_left (by decide)
  obtain ⟨inner, tail, rfl, hinner⟩ := List.eq_append_cons_of_mem hback
  -- What is read ends at the first bracket, and that one stands before the other shortcode.
  have hinside : inner ++ ']' :: (tail ++ (shortcodeText name ++ after)) =
      params ++ ']' :: rest := by
    simpa [shortcodeText] using heq
  obtain rfl : inner = params := by
    rw [← takeWhile_append_bracket hinner, hinside, takeWhile_append_bracket hparams.isOpen]
  rw [shortcode?_eq_some_iff.2 ⟨hparams, tail, by simp [shortcodeText]⟩] at hnone
  cases hnone

theorem IsParams.append {back name : List Char} (hback : ']' ∉ back) (hname : IsParams name) :
    IsParams (back ++ shortcodeStart ++ name) := by
  have hstart : ']' ∉ shortcodeStart := by decide
  constructor
  · simp [hname.ne_nil]
  · simp [hback, hstart, hname.isOpen]

/-- The pieces of a text with a shortcode in it, if none is read in the text before it. It is read
itself, unless another one is begun before it and not ended, which then takes it in. -/
theorem pieces_around {before name : List Char} (hbefore : hasShortcode before = false)
    (hname : IsParams name) (after : List Char) :
    (¬ IsOpen before ∧ pieces (before ++ (shortcodeText name ++ after)) =
      before.map .plain ++ .shortcode name :: pieces after) ∨
    IsOpen before ∧ ∃ front back, before = front ++ (shortcodeStart ++ back) ∧
      pieces (before ++ (shortcodeText name ++ after)) =
        front.map .plain ++ .shortcode (back ++ shortcodeStart ++ name) :: pieces after := by
  induction before with
  | nil => exact .inl ⟨by decide, pieces_shortcode hname after⟩
  | cons c rest ih =>
    rw [hasShortcode_cons_eq_false_iff] at hbefore
    by_cases hbegun : shortcodeStart <+: c :: rest ∧ ']' ∉ c :: rest
    · have hopen : IsOpen (c :: rest) := isOpen_cons.2 (.inl hbegun)
      obtain ⟨⟨back, hback⟩, hclosed⟩ := hbegun
      have hparams : IsParams (back ++ shortcodeStart ++ name) :=
        .append (fun hmem ↦ hclosed (hback ▸ List.mem_append_right _ hmem)) hname
      refine .inr ⟨hopen, [], back, hback.symm, ?_⟩
      rw [List.map_nil, List.nil_append, ← pieces_shortcode hparams after, ← hback]
      simp [shortcodeText]
    · have hread : shortcode? (c :: (rest ++ (shortcodeText name ++ after))) = none := by
        by_contra hsome
        obtain ⟨params, hsome⟩ := Option.ne_none_iff_exists'.1 hsome
        exact hbegun (isBegun_of_shortcode?_append (List.cons_ne_nil c rest) hbefore.1 hsome)
      rw [List.cons_append, pieces_plain hread, isOpen_cons]
      rcases ih hbefore.2 with ⟨hclosed, hpieces⟩ | ⟨hopen, front, back, rfl, hpieces⟩
      · refine .inl ⟨not_or.2 ⟨hbegun, hclosed⟩, ?_⟩
        rw [hpieces]
        rfl
      · refine .inr ⟨.inr hopen, c :: front, back, rfl, ?_⟩
        rw [hpieces]
        rfl

theorem pieces_of_hasShortcode_eq_false {s : List Char} (h : hasShortcode s = false) :
    pieces s = s.map .plain := by
  induction s with
  | nil => rw [pieces, List.map_nil]
  | cons c rest ih =>
    rw [hasShortcode_cons_eq_false_iff] at h
    rw [pieces_plain h.1, ih h.2, List.map_cons]

theorem cutFrom_map_plain (s gap : List Char) (ps : List Piece) :
    cutFrom gap (s.map .plain ++ ps) = cutFrom (s.reverse ++ gap) ps := by
  induction s generalizing gap with
  | nil => rfl
  | cons c rest ih =>
    rw [List.map_cons, List.cons_append, cutFrom_cons_of_none rfl, ih]
    simp [Piece.source]

theorem cutFrom_plain (s gap : List Char) :
    cutFrom gap (s.map .plain) = gapNode (s.reverse ++ gap) := by
  rw [← List.append_nil (s.map Piece.plain), cutFrom_map_plain, cutFrom]

/-- What is cut off around a shortcode, which is a text that is not cut if the shortcode has no
marker. -/
theorem cutFrom_around (front params : List Char) {after : List Char}
    (hafter : hasShortcode after = false) :
    cutFrom [] (front.map .plain ++ .shortcode params :: pieces after) =
      match (Piece.shortcode params).markup? with
      | some markup => textPart front ++ html markup :: textPart after
      | none => textPart (front ++ (shortcodeText params ++ after)) := by
  rw [cutFrom_map_plain, List.append_nil, pieces_of_hasShortcode_eq_false hafter]
  cases hmarkup : (Piece.shortcode params).markup? with
  | some markup =>
    rw [cutFrom_cons_of_some hmarkup, cutFrom_plain, gapNode_eq, gapNode_eq]
    simp
  | none =>
    rw [cutFrom_cons_of_none hmarkup, cutFrom_plain, gapNode_eq]
    simp [Piece.source]

theorem textPart_append_inj {front back markup markup' : List Char} {parts parts' : List Node}
    (h : textPart front ++ html markup :: parts = textPart back ++ html markup' :: parts') :
    front = back := by
  by_cases hfront : front = []
  · by_cases hback : back = []
    · rw [hfront, hback]
    · simp [textPart, hfront, hback] at h
  · by_cases hback : back = []
    · simp [textPart, hfront, hback] at h
    · simp only [textPart, hfront, hback, if_false, List.singleton_append, List.cons.injEq] at h
      simpa using h.1

/-- The first marker is not where it would be behind another text. -/
theorem cutFrom_around_ne {front before : List Char} (h : front ≠ before) (params : List Char)
    {after : List Char} (hafter : hasShortcode after = false) {markup : List Char}
    {parts : List Node} :
    cutFrom [] (front.map .plain ++ .shortcode params :: pieces after) ≠
      textPart before ++ html markup :: parts := by
  rw [cutFrom_around front params hafter]
  split
  · exact fun heq ↦ h (textPart_append_inj heq)
  · intro heq
    have hmem : html markup ∈ textPart (front ++ (shortcodeText params ++ after)) :=
      heq ▸ List.mem_append_right _ List.mem_cons_self
    unfold textPart at hmem
    split_ifs at hmem
    · cases hmem
    · cases List.mem_singleton.1 hmem

/-- Of a text with a shortcode in it that has a good name, with none in the text before it or behind
it, what is left is the text before it, its marker and the text behind it, and nothing is reported,
if and only if no other shortcode is begun before it and not ended there. -/
theorem splitShortcodes_around_iff {before name after : List Char} (hname : IsCastId name)
    (hbefore : hasShortcode before = false) (hafter : hasShortcode after = false)
    (d : Diagnostics) :
    (Recording.ofShortcode name).attributes.get? (.data .castId) = some name ∧
      (splitShortcodes d (before ++ shortcodeText name ++ after) =
          (textPart before ++ html (Recording.ofShortcode name).marker :: textPart after, d) ↔
        ¬ IsOpen before) := by
  have hmarkup : (Piece.shortcode name).markup? = some (Recording.ofShortcode name).marker :=
    shortcodeMarkup?_eq_some_iff.2 ⟨by rwa [hname.shortcodeName_eq], rfl⟩
  constructor
  · rw [Recording.get?_castId, Recording.castId_ofShortcode, hname.shortcodeName_eq]
  · rw [List.append_assoc, splitShortcodes, splitFrom_eq]
    rcases pieces_around hbefore hname.isParams after with
      ⟨hclosed, hpieces⟩ | ⟨hopen, front, back, rfl, hpieces⟩
    · have hplain (s : List Char) : (s.map Piece.plain).filterMap Piece.problem? = [] := by
        rw [List.filterMap_eq_nil_iff]
        simp [Piece.problem?, Piece.params?]
      have hproblems : (before.map Piece.plain ++ .shortcode name :: pieces after).filterMap
          Piece.problem? = [] := by
        rw [List.filterMap_append, hplain, List.filterMap_cons_none
          (Piece.problem?_of_markup? hmarkup), pieces_of_hasShortcode_eq_false hafter, hplain,
          List.append_nil]
      refine iff_of_true ?_ hclosed
      rw [hpieces, hproblems, cutFrom_around before name hafter, hmarkup, Diagnostics.extend_empty]
    · rw [hpieces]
      refine iff_of_false (fun heq ↦ ?_) (not_not.2 hopen)
      have hstart : shortcodeStart ≠ [] := by decide
      have hfront : front ≠ front ++ (shortcodeStart ++ back) := by simp [hstart]
      exact cutFrom_around_ne hfront _ hafter (Prod.mk.inj heq).1

/-- Brackets and a shortcode without anything behind its colon do no harm. -/
theorem splitShortcodes_around_of_brackets :
    IsCastId "x".toList ∧ hasShortcode "[asciinema:] [".toList = false ∧
      hasShortcode "]".toList = false ∧
      splitShortcodes {} ("[asciinema:] [".toList ++ shortcodeText "x".toList ++ "]".toList) =
        (textPart "[asciinema:] [".toList ++
          html (Recording.ofShortcode "x".toList).marker :: textPart "]".toList, {}) := by
  have hname : IsCastId "x".toList := by decide
  have hbefore : hasShortcode "[asciinema:] [".toList = false := by decide
  have hafter : hasShortcode "]".toList = false := by decide
  have hclosed : ¬ IsOpen "[asciinema:] [".toList := by decide
  exact ⟨hname, hbefore, hafter,
    (splitShortcodes_around_iff hname hbefore hafter {}).2.2 hclosed⟩

/-- A shortcode that is only begun takes in the next one, whose name is good, and stays as it is
with it. -/
theorem begun_shortcode_takes_in_the_next :
    IsCastId "x".toList ∧ hasShortcode shortcodeStart = false ∧ hasShortcode [] = false ∧
      splitShortcodes {} (shortcodeStart ++ shortcodeText "x".toList ++ []) =
        ([.text "[asciinema:[asciinema:x]".toList],
          { errors := [⟨stage, "invalid cast id \"[asciinema\"".toList, .error⟩] }) ∧
      splitShortcodes {} (shortcodeStart ++ shortcodeText "x".toList ++ []) ≠
        (textPart shortcodeStart ++ html (Recording.ofShortcode "x".toList).marker :: textPart [],
          {}) := by
  have hsplit : splitShortcodes {} (shortcodeStart ++ shortcodeText "x".toList ++ []) =
      ([.text "[asciinema:[asciinema:x]".toList],
        { errors := [⟨stage, "invalid cast id \"[asciinema\"".toList, .error⟩] }) := by
    rfl
  refine ⟨by decide, by decide, by decide, hsplit, fun hclaim ↦ ?_⟩
  rw [hsplit] at hclaim
  exact absurd (congrArg (·.2.errors.length) hclaim) (by decide)

end Galley.Embed
