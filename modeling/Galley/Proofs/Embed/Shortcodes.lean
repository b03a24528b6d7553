import Mathlib
import Galley.Embed.Expansion

/-!
Shortcodes in a text. From left to right a text is made of pieces, shortcodes and characters that no
shortcode starts at (`pieces`), and these are read again wherever the text is cut between them
(`IsCut.of_append`). Cutting a text at its shortcodes gives what its pieces give (`splitFrom_eq`):
those that name a recording become markers, and what stands between these stays as it is (`Cut`).
So a part of a text that was cut holds no shortcode that would be cut again
(`Cut.markup?_eq_none`).
-/

set_option autoImplicit false
set_option relaxedAutoImplicit false

namespace Galley

namespace Diagnostics

theorem extend_empty (d : Diagnostics) : d.extend {} = d := by
  simp [extend]

theorem extend_extend (d e f : Diagnostics) : (d.extend e).extend f = d.extend (e.extend f) := by
  simp [extend]

theorem fail_eq_extend (d : Diagnostics) (stage message : List Char) :
    d.fail stage message = d.extend { errors := [{ stage, message }] } := by
  simp [fail, add, extend]

end Diagnostics

namespace Embed

open Markdown

/-! ### Pieces of a text -/

/-- What a shortcode may hold after its colon. -/
structure IsParams (params : List Char) : Prop where
  ne_nil : params ≠ []
  isOpen : ']' ∉ params

/-- A shortcode as it is written. -/
def shortcodeText (params : List Char) : List Char := shortcodeStart ++ params ++ [']']

/-- A text without a closing bracket is what stands before the first one. -/
theorem takeWhile_append_bracket {s : List Char} (h : ']' ∉ s) (rest : List Char) :
    (s ++ ']' :: rest).takeWhile (· != ']') = s := by
  have hall : ∀ c ∈ s, (c != ']') = true := by
    intro c hc
    rw [bne_iff_ne]
    rintro rfl
    exact h hc
  rw [List.takeWhile_append_of_pos hall, List.takeWhile_cons_of_neg (by simp), List.append_nil]

theorem shortcode?_eq_some_iff {s params : List Char} :
    shortcode? s = some params ↔ IsParams params ∧ ∃ rest, s = shortcodeText params ++ rest := by
  unfold shortcode?
  constructor
  · intro h
    dsimp only at h
    split_ifs at h with hstart hend
    obtain ⟨inside, rfl⟩ := List.isPrefixOf_iff_prefix.1 hstart
    rw [List.drop_left] at h hend
    have hinside := List.takeWhile_append_dropWhile (p := (· != ']')) (l := inside)
    have hparams := Option.some.inj h
    have hopen : ']' ∉ params := by
      intro hmem
      have := List.mem_takeWhile_imp (hparams ▸ hmem)
      simp at this
    rw [hparams] at hinside hend
    cases hback : inside.dropWhile (· != ']') with
    | nil =>
      rw [hback, List.append_nil] at hinside
      simp [hinside] at hend
    | cons c back =>
      have hc : c = ']' := by
        simpa [hback] using List.head_dropWhile_not (· != ']') (l := inside) (by simp [hback])
      refine ⟨⟨fun hnil ↦ by simp [hnil] at hend, hopen⟩, back, ?_⟩
      rw [← hinside, hback, hc]
      simp [shortcodeText]
  · rintro ⟨hparams, rest, rfl⟩
    have hinside : (shortcodeText params ++ rest).drop shortcodeStart.length =
        params ++ ']' :: rest := by
      simp only [shortcodeText, List.append_assoc, List.drop_left, List.singleton_append]
    have hstart : shortcodeStart.isPrefixOf (shortcodeText params ++ rest) = true := by
      rw [List.isPrefixOf_iff_prefix, shortcodeText, List.append_assoc, List.append_assoc]
      exact List.prefix_append _ _
    simp [hstart, hinside, takeWhile_append_bracket hparams.isOpen, hparams.ne_nil]

/-- A shortcode is read whatever stands behind it. -/
theorem shortcode?_append {s params : List Char} (h : shortcode? s = some params)
    (back : List Char) : shortcode? (s ++ back) = some params := by
  obtain ⟨hparams, rest, rfl⟩ := shortcode?_eq_some_iff.1 h
  exact shortcode?_eq_some_iff.2 ⟨hparams, rest ++ back, by rw [List.append_assoc]⟩

/-- A piece of a text: a shortcode, by what it holds after its colon, or another character. -/
inductive Piece where
  | plain (c : Char)
  | shortcode (params : List Char)
deriving DecidableEq, Repr, Inhabited

/-- A piece as it is written. -/
def Piece.source : Piece → List Char
  | .plain c => [c]
  | .shortcode params => shortcodeText params

/-- Pieces as they are written. -/
def sources (ps : List Piece) : List Char := ps.flatMap Piece.source

/-- The pieces of a text: the leftmost shortcodes that do not overlap, and the characters between
them. -/
def pieces : List Char → List Piece
  | [] => []
  | c :: rest =>
    match shortcode? (c :: rest) with
    | some params => .shortcode params :: pieces ((c :: rest).drop (shortcodeWidth params))
    | none => .plain c :: pieces rest
termination_by s => s.length
decreasing_by
  · simp [shortcodeWidth]
  · simp

theorem pieces_plain {c : Char} {rest : List Char} (h : shortcode? (c :: rest) = none) :
    pieces (c :: rest) = .plain c :: pieces rest := by
  rw [pieces, h]

theorem pieces_shortcode {params : List Char} (h : IsParams params) (rest : List Char) :
    pieces (shortcodeText params ++ rest) = .shortcode params :: pieces rest := by
  have hread : shortcode? (shortcodeText params ++ rest) = some params :=
    shortcode?_eq_some_iff.2 ⟨h, rest, rfl⟩
  have hdrop : (shortcodeText params ++ rest).drop (shortcodeWidth params) = rest := by
    rw [List.drop_left' (by simp [shortcodeText, shortcodeWidth, Nat.add_assoc])]
  have hcons : shortcodeText params ++ rest ≠ [] := by simp [shortcodeText]
  cases htext : shortcodeText params ++ rest with
  | nil => exact absurd htext hcons
  | cons c back =>
    rw [pieces, ← htext, hread]
    simp only [hdrop]

/-- Induction on the pieces of a text. -/
@[elab_as_elim]
theorem text_induction {motive : List Char → Prop} (nil : motive [])
    (plain : ∀ c rest, shortcode? (c :: rest) = none → motive rest → motive (c :: rest))
    (shortcode : ∀ params rest, IsParams params → motive rest →
      motive (shortcodeText params ++ rest)) (s : List Char) : motive s := by
  induction hlength : s.length using Nat.strong_induction_on generalizing s with
  | _ length ih =>
    cases s with
    | nil => exact nil
    | cons c rest =>
      cases hread : shortcode? (c :: rest) with
      | none => exact plain c rest hread (ih rest.length (by simp [← hlength]) rest rfl)
      | some params =>
        obtain ⟨hparams, back, hback⟩ := shortcode?_eq_some_iff.1 hread
        rw [hback] at hlength ⊢
        refine shortcode params back hparams (ih back.length ?_ back rfl)
        simp only [← hlength, shortcodeText, List.length_append, List.length_singleton]
        omega

theorem sources_pieces (s : List Char) : sources (pieces s) = s := by
  induction s using text_induction with
  | nil => rw [pieces]; rfl
  | plain c rest hread ih =>
    rw [pieces_plain hread, sources, List.flatMap_cons, ← sources, ih]
    rfl
  | shortcode params rest hparams ih =>
    rw [pieces_shortcode hparams, sources, List.flatMap_cons, ← sources, ih]
    rfl

theorem isParams_of_mem_pieces {s params : List Char} (h : .shortcode params ∈ pieces s) :
    IsParams params := by
  induction s using text_induction with
  | nil => simp [pieces] at h
  | plain c rest hread ih => exact ih (by simpa [pieces_plain hread] using h)
  | shortcode others rest hothers ih =>
    rw [pieces_shortcode hothers, List.mem_cons] at h
    rcases h with heq | h
    · exact Piece.shortcode.inj heq ▸ hothers
    · exact ih h

/-- Pieces that are read from what they are written as. -/
def IsCut (ps : List Piece) : Prop := pieces (sources ps) = ps

theorem isCut_pieces (s : List Char) : IsCut (pieces s) := by
  rw [IsCut, sources_pieces]

theorem isCut_nil : IsCut [] := by
  rw [IsCut, sources, List.flatMap_nil, pieces]

theorem isCut_plain_cons {c : Char} {ps : List Piece} :
    IsCut (.plain c :: ps) ↔ shortcode? (c :: sources ps) = none ∧ IsCut ps := by
  have hsources : sources (.plain c :: ps) = c :: sources ps := rfl
  rw [IsCut, hsources]
  cases hread : shortcode? (c :: sources ps) with
  | none => simp [pieces_plain hread, IsCut]
  | some params => simp [pieces, hread]

theorem isCut_shortcode_cons {params : List Char} {ps : List Piece} :
    IsCut (.shortcode params :: ps) ↔ IsParams params ∧ IsCut ps := by
  have hsources : sources (.shortcode params :: ps) = shortcodeText params ++ sources ps := rfl
  constructor
  · intro h
    have hmem : .shortcode params ∈ pieces (sources (.shortcode params :: ps)) := by
      rw [h]
      exact List.mem_cons_self
    have hparams := isParams_of_mem_pieces hmem
    rw [IsCut, hsources, pieces_shortcode hparams, List.cons.injEq] at h
    exact ⟨hparams, h.2⟩
  · rintro ⟨hparams, h⟩
    rw [IsCut, hsources, pieces_shortcode hparams, h]

/-- The pieces of a text are read again on either side of a cut between them. -/
theorem IsCut.of_append {ps qs : List Piece} (h : IsCut (ps ++ qs)) : IsCut ps ∧ IsCut qs := by
  induction ps with
  | nil => exact ⟨isCut_nil, h⟩
  | cons piece ps ih =>
    rw [List.cons_append] at h
    cases piece with
    | plain c =>
      obtain ⟨hread, h⟩ := isCut_plain_cons.1 h
      refine ⟨isCut_plain_cons.2 ⟨?_, (ih h).1⟩, (ih h).2⟩
      -- A shortcode that starts here would also be read with the rest behind it.
      by_contra hsome
      obtain ⟨params, hsome⟩ := Option.ne_none_iff_exists'.1 hsome
      have hlong := shortcode?_append hsome (sources qs)
      rw [List.cons_append, sources, sources, ← List.flatMap_append, ← sources, hread] at hlong
      cases hlong
    | shortcode params =>
      obtain ⟨hparams, h⟩ := isCut_shortcode_cons.1 h
      exact ⟨isCut_shortcode_cons.2 ⟨hparams, (ih h).1⟩, (ih h).2⟩

theorem IsCut.tail {piece : Piece} {ps : List Piece} (h : IsCut (piece :: ps)) : IsCut ps := by
  rw [← List.singleton_append] at h
  exact h.of_append.2

/-! ### What becomes of a piece -/

/-- What is wrong with the name of a recording, if it has one. -/
def Recording.problem? (r : Recording) : Option Problem :=
  if r.castId.isEmpty || r.isValid then none else some { stage, message := r.fault }

/-- The marker that stands in place of a shortcode, if it names a recording. -/
def shortcodeMarkup? (params : List Char) : Option (List Char) :=
  let r := Recording.ofShortcode params
  if !r.castId.isEmpty && r.isValid then some r.marker else none

namespace Piece

/-- What a shortcode holds after its colon. -/
def params? : Piece → Option (List Char)
  | .plain _ => none
  | .shortcode params => some params

/-- The marker that stands in place of a piece. -/
def markup? (piece : Piece) : Option (List Char) := piece.params?.bind shortcodeMarkup?

/-- What is wrong with a piece. -/
def problem? (piece : Piece) : Option Problem :=
  piece.params?.bind fun params => (Recording.ofShortcode params).problem?

theorem markup?_shortcode (params : List Char) :
    (shortcode params).markup? = shortcodeMarkup? params := rfl

theorem problem?_shortcode (params : List Char) :
    (shortcode params).problem? = (Recording.ofShortcode params).problem? := rfl

end Piece

/-- Cuts pieces at those that have a marker. `gap` holds what is written since the last of them, in
reverse. -/
def cutFrom (gap : List Char) : List Piece → List Node
  | [] => gapNode gap
  | piece :: rest =>
    match piece.markup? with
    | some markup => gapNode gap ++ html markup :: cutFrom [] rest
    | none => cutFrom (piece.source.reverse ++ gap) rest

theorem cutFrom_cons_of_none {piece : Piece} (h : piece.markup? = none) (gap : List Char)
    (rest : List Piece) :
    cutFrom gap (piece :: rest) = cutFrom (piece.source.reverse ++ gap) rest := by
  rw [cutFrom, h]

theorem cutFrom_cons_of_some {piece : Piece} {markup : List Char} (h : piece.markup? = some markup)
    (gap : List Char) (rest : List Piece) :
    cutFrom gap (piece :: rest) = gapNode gap ++ html markup :: cutFrom [] rest := by
  rw [cutFrom, h]

theorem splitFrom_zero (keeps : Bool) (gap : List Char) (d : Diagnostics) (s : List Char) :
    splitFrom keeps gap d 0 s = splitFrom false gap d 0 s := by
  induction s generalizing gap with
  | nil => rfl
  | cons c rest ih =>
    rw [splitFrom, splitFrom]
    cases shortcode? (c :: rest) with
    | none => exact ih _
    | some params => rfl

/-- The characters of a shortcode that was read are passed over, or belong to the gap. -/
theorem splitFrom_skip (keeps : Bool) (gap : List Char) (d : Diagnostics) (front back : List Char) :
    splitFrom keeps gap d front.length (front ++ back) =
      splitFrom false (if keeps then front.reverse ++ gap else gap) d 0 back := by
  induction front generalizing gap with
  | nil => simp [splitFrom_zero keeps]
  | cons c front ih =>
    rw [List.length_cons, List.cons_append, splitFrom, ih]
    cases keeps <;> simp

theorem splitFrom_shortcode {params : List Char} (h : IsParams params) (gap : List Char)
    (d : Diagnostics) (rest : List Char) :
    splitFrom false gap d 0 (shortcodeText params ++ rest) =
      match shortcodeMarkup? params with
      | some markup =>
        (gapNode gap ++ html markup :: (splitFrom false [] d 0 rest).1,
          (splitFrom false [] d 0 rest).2)
      | none =>
        splitFrom false ((shortcodeText params).reverse ++ gap)
          (d.extend { errors := (Recording.ofShortcode params).problem?.toList }) 0 rest := by
  have hread : shortcode? (shortcodeText params ++ rest) = some params :=
    shortcode?_eq_some_iff.2 ⟨h, rest, rfl⟩
  have hwidth : (shortcodeText params).length = shortcodeWidth params := by
    simp [shortcodeText, shortcodeWidth, Nat.add_assoc]
  cases htext : shortcodeText params with
  | nil => simp [shortcodeText] at htext
  | cons c front =>
    have hskip : shortcodeWidth params - 1 = front.length := by
      rw [← hwidth, htext, List.length_cons, Nat.add_sub_cancel]
    have hgap : front.reverse ++ c :: gap = (c :: front).reverse ++ gap := by simp
    rw [htext, List.cons_append] at hread
    rw [List.cons_append, splitFrom, hread]
    simp only [hskip, splitFrom_skip, ↓reduceIte, Bool.false_eq_true, hgap, shortcodeMarkup?,
      Recording.problem?]
    -- A shortcode has no name, or a good one, or a bad one.
    by_cases hname : (Recording.ofShortcode params).castId.isEmpty = true
    · simp [hname, Diagnostics.extend]
    · by_cases hvalid : (Recording.ofShortcode params).isValid = true
      · simp [hname, hvalid]
      · simp [hname, hvalid, Diagnostics.fail_eq_extend]

/-- Nothing is wrong with a shortcode that has a marker. -/
theorem Piece.problem?_of_markup? {piece : Piece} {markup : List Char}
    (h : piece.markup? = some markup) : piece.problem? = none := by
  cases piece with
  | plain c => rfl
  | shortcode params =>
    rw [markup?_shortcode, shortcodeMarkup?] at h
    split_ifs at h with hnamed
    rw [Bool.and_eq_true] at hnamed
    simp [problem?_shortcode, Recording.problem?, hnamed.2]

/-- Cutting a text gives what its pieces give, and reports what is wrong with them. -/
theorem splitFrom_eq (gap : List Char) (d : Diagnostics) (s : List Char) :
    splitFrom false gap d 0 s =
      (cutFrom gap (pieces s), d.extend { errors := (pieces s).filterMap Piece.problem? }) := by
  induction s using text_induction generalizing gap d with
  | nil => simp [splitFrom, pieces, cutFrom, Diagnostics.extend]
  | plain c rest hread ih =>
    rw [splitFrom, hread, pieces_plain hread, cutFrom_cons_of_none rfl,
      List.filterMap_cons_none rfl]
    exact ih (c :: gap) d
  | shortcode params rest hparams ih =>
    rw [splitFrom_shortcode hparams, pieces_shortcode hparams, ← Piece.markup?_shortcode]
    cases hmarkup : (Piece.shortcode params).markup? with
    | some markup =>
      rw [cutFrom_cons_of_some hmarkup,
        List.filterMap_cons_none (Piece.problem?_of_markup? hmarkup), ih]
    | none =>
      have hproblems : (Piece.shortcode params :: pieces rest).filterMap Piece.problem? =
          (Recording.ofShortcode params).problem?.toList ++
            (pieces rest).filterMap Piece.problem? := by
        rw [List.filterMap_cons, Piece.problem?_shortcode]
        cases (Recording.ofShortcode params).problem? <;> rfl
      dsimp only
      rw [cutFrom_cons_of_none hmarkup, ih, hproblems, Diagnostics.extend_extend]
      rfl

/-! ### Texts that are cut -/

/-- What is wrong with the shortcodes of a text, in order. -/
def problemsIn (value : List Char) : List Problem := (pieces value).filterMap Piece.problem?

/-- The parts of a text. A text without shortcodes is its only part. -/
def cutText (value : List Char) : List Node :=
  if value.isEmpty then [.text value] else cutFrom [] (pieces value)

theorem cutFrom_of_forall_none {ps : List Piece} (h : ∀ piece ∈ ps, piece.markup? = none)
    (gap : List Char) : cutFrom gap ps = gapNode ((sources ps).reverse ++ gap) := by
  induction ps generalizing gap with
  | nil => rfl
  | cons piece ps ih =>
    rw [cutFrom_cons_of_none (h piece (by simp)), ih fun other hother ↦ h other (by simp [hother])]
    simp [sources]

/-- A text in which no shortcode names a recording is not cut. -/
theorem cutText_of_forall_none {value : List Char}
    (h : ∀ piece ∈ pieces value, piece.markup? = none) : cutText value = [.text value] := by
  unfold cutText
  split_ifs with hempty
  · rfl
  · rw [cutFrom_of_forall_none h, sources_pieces, gapNode]
    simpa using hempty

theorem hasShortcode_eq_false_iff {value : List Char} :
    hasShortcode value = false ↔ ∀ piece ∈ pieces value, piece.params? = none := by
  induction value using text_induction with
  | nil => simp [hasShortcode, pieces]
  | plain c rest hread ih => simp [hasShortcode, hread, pieces_plain hread, ih, Piece.params?]
  | shortcode params rest hparams ih =>
    have hread : shortcode? (shortcodeText params ++ rest) = some params :=
      shortcode?_eq_some_iff.2 ⟨hparams, rest, rfl⟩
    rw [pieces_shortcode hparams]
    cases htext : shortcodeText params ++ rest with
    | nil => simp [shortcodeText] at htext
    | cons c back =>
      rw [hasShortcode, ← htext, hread]
      simp [Piece.params?]

theorem expandShortcodes_text (d : Diagnostics) (value : List Char) :
    expandShortcodes d (.text value) =
      (cutText value, d.extend { errors := problemsIn value }) := by
  rw [expandShortcodes]
  split_ifs with hshortcode
  · have hempty : value.isEmpty = false := by
      cases value with
      | nil => simp [hasShortcode] at hshortcode
      | cons c rest => rfl
    rw [splitShortcodes, splitFrom_eq, cutText, hempty]
    rfl
  · rw [Bool.not_eq_true, hasShortcode_eq_false_iff] at hshortcode
    have hmarkup : ∀ piece ∈ pieces value, piece.markup? = none := by
      intro piece hpiece
      rw [Piece.markup?, hshortcode piece hpiece, Option.bind_none]
    have hproblems : problemsIn value = [] := by
      rw [problemsIn, List.filterMap_eq_nil_iff]
      intro piece hpiece
      rw [Piece.problem?, hshortcode piece hpiece, Option.bind_none]
    rw [cutText_of_forall_none hmarkup, hproblems, Diagnostics.extend_empty]

/-- Pieces become parts: those that have a marker give way to it, and what is written before,
between and behind them are texts, unless it is empty. -/
inductive Cut : List Piece → List Node → Prop
  | gap {ps : List Piece} (hgap : ∀ piece ∈ ps, piece.markup? = none) :
      Cut ps (gapNode (sources ps).reverse)
  | marker {ps rest : List Piece} {piece : Piece} {markup : List Char} {parts : List Node}
      (hgap : ∀ piece ∈ ps, piece.markup? = none) (hmarkup : piece.markup? = some markup)
      (hrest : Cut rest parts) :
      Cut (ps ++ piece :: rest) (gapNode (sources ps).reverse ++ html markup :: parts)

theorem cut_cutFrom {before : List Piece} (hbefore : ∀ piece ∈ before, piece.markup? = none)
    (ps : List Piece) : Cut (before ++ ps) (cutFrom (sources before).reverse ps) := by
  induction ps generalizing before with
  | nil =>
    rw [List.append_nil]
    exact .gap hbefore
  | cons piece ps ih =>
    cases hmarkup : piece.markup? with
    | some markup =>
      rw [cutFrom_cons_of_some hmarkup]
      exact .marker hbefore hmarkup (ih (List.forall_mem_nil _))
    | none =>
      have hmore : ∀ other ∈ before ++ [piece], other.markup? = none := by
        intro other hother
        rcases List.mem_append.1 hother with hother | hother
        · exact hbefore other hother
        · rw [List.mem_singleton.1 hother, hmarkup]
      have hsources : (sources (before ++ [piece])).reverse =
          piece.source.reverse ++ (sources before).reverse := by
        simp [sources]
      have hcut := ih hmore
      rw [hsources, List.append_assoc, List.singleton_append] at hcut
      rwa [cutFrom_cons_of_none hmarkup]

theorem cut_cutText {value : List Char} (h : value ≠ []) : Cut (pieces value) (cutText value) := by
  rw [cutText, if_neg (by simpa using h)]
  exact cut_cutFrom (List.forall_mem_nil _) (pieces value)

theorem mem_gapNode_iff {part : Node} {text : List Char} :
    part ∈ gapNode text.reverse ↔ text ≠ [] ∧ part = .text text := by
  unfold gapNode
  split_ifs with hempty
  · simp_all
  · simp_all

theorem Cut.eq_text_or_html {ps : List Piece} {parts : List Node} (h : Cut ps parts) :
    ∀ part ∈ parts, (∃ value, part = .text value) ∨ ∃ markup, part = html markup := by
  induction h with
  | gap hgap => exact fun part hpart ↦ .inl ⟨_, (mem_gapNode_iff.1 hpart).2⟩
  | marker hgap hmarkup hrest ih =>
    intro part hpart
    rw [List.mem_append, List.mem_cons] at hpart
    rcases hpart with hpart | rfl | hpart
    · exact .inl ⟨_, (mem_gapNode_iff.1 hpart).2⟩
    · exact .inr ⟨_, rfl⟩
    · exact ih part hpart

/-- In a part of a text that was cut no shortcode names a recording. -/
theorem Cut.markup?_eq_none {ps : List Piece} {parts : List Node} (h : Cut ps parts)
    (hcut : IsCut ps) {value : List Char} (hvalue : .text value ∈ parts) :
    ∀ piece ∈ pieces value, piece.markup? = none := by
  have hread {qs : List Piece} (hqs : IsCut qs) (hgap : ∀ piece ∈ qs, piece.markup? = none)
      (hpart : .text value ∈ gapNode (sources qs).reverse) :
      ∀ piece ∈ pieces value, piece.markup? = none := by
    obtain ⟨-, heq⟩ := mem_gapNode_iff.1 hpart
    obtain rfl : value = sources qs := by simpa using heq
    rwa [hqs]
  induction h with
  | gap hgap => exact hread hcut hgap hvalue
  | marker hgap hmarkup hrest ih =>
    obtain ⟨hbefore, hafter⟩ := hcut.of_append
    rw [List.mem_append, List.mem_cons] at hvalue
    rcases hvalue with hvalue | hvalue | hvalue
    · exact hread hbefore hgap hvalue
    · cases hvalue
    · exact ih hafter.tail hvalue

end Embed

end Galley
