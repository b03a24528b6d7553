import Mathlib
import Galley.Proofs.ReadingTime.Stripping

/-!
How markers are counted. The words of a paragraph are counted and its marker is not. A rule counts
as a word where emphasis, whose marks are taken away before, leaves one or two marks of it that
are not taken for a bullet either (`Line.CountsAsWord`); all other rules count for nothing.
-/

set_option autoImplicit false
set_option relaxedAutoImplicit false

namespace Galley.ReadingTime

/-! ### What is counted of a line -/

/-- The number of marks of a rule that emphasis leaves: all dashes, and one star or underscore of an
odd number of them. -/
def marksLeft (marks : List Char) : Nat :=
  marks.count '-' + marks.count '*' % 2 + marks.count '_' % 2

namespace Line

/-- The number of words that a line is written with. -/
def letterWords : Line → Nat
  | paragraph _ _ others => others.length + 1
  | marks .. => 0

/-- A rule of which one or two marks are left counts as a word, unless the one is taken for a bullet
with a line end behind it. -/
def CountsAsWord (ended : Bool) : Line → Prop
  | paragraph .. => False
  | marks left _ => marksLeft left = 2 ∨
    marksLeft left = 1 ∧ (ended = false ∨ left.count '_' % 2 = 1)

instance (ended : Bool) (line : Line) : Decidable (line.CountsAsWord ended) :=
  match line with
  | paragraph .. => inferInstanceAs (Decidable False)
  | marks .. => inferInstanceAs (Decidable (_ ∨ _))

end Line

section

variable {first : Word} {others : List Word} {left : List Char}

theorem countWords_letters (word : Word) : countWords word.letters = 1 := by
  have hcut : ∀ c ∈ word.letters, Text.isBlank c = false := fun c hc ↦
    Text.isBlank_of_isAlnum (by simp [Text.isAlnum, word.isLetter c hc])
  rw [countWords, Text.wordsBy_of_forall_not hcut word.ne_nil, List.length_singleton]

theorem countWords_wordsText (first : Word) (others : List Word) :
    countWords (wordsText first others) = others.length + 1 := by
  induction others generalizing first with
  | nil => rw [wordsText, List.flatMap_nil, List.append_nil, countWords_letters]; rfl
  | cons second others ih =>
    have hsplit : wordsText first (second :: others) =
        first.letters ++ ' ' :: wordsText second others := by simp [wordsText]
    rw [hsplit, countWords, Text.wordsBy_append_cons rfl, List.length_append, ← countWords,
      ← countWords, countWords_letters, ih, List.length_cons]
    omega

theorem words_marks (h : ∀ c ∈ left, isRuleMark c = true) :
    (Line.marks left h).words = if left = [] then 0 else 1 := by
  split_ifs with hleft
  · subst hleft
    rfl
  · have hcut : ∀ c ∈ left, Text.isBlank c = false := fun c hc ↦ isBlank_of_isRuleMark (h c hc)
    rw [Line.words, Line.text, countWords, Text.wordsBy_of_forall_not hcut hleft]
    rfl

/-- A paragraph is stripped of its marker, whichever it is. -/
theorem stripped_paragraph (ended : Bool) (marker : Option Marker) (first : Word)
    (others : List Word) :
    (Line.paragraph marker first others).stripped ended = .paragraph none first others := by
  cases marker with
  | none => rfl
  | some marker =>
    cases marker with
    | heading level h => rfl
    | quote => rfl
    | bullet sign h => obtain rfl | rfl | rfl := h <;> rfl
    | number digit digits h =>
      have hdigit := h digit List.mem_cons_self
      have hbullet : isBulletSign digit = false :=
        isBulletSign_of_isAlnum (by simp [Text.isAlnum, hdigit])
      simp [Line.stripped, Line.withoutEmphasis, Line.unwrapped, Line.withoutRule,
        Line.withoutBullet, Line.without, Marker.sign, beq_of_apply (d := '#') hdigit (by decide),
        beq_of_apply (d := '>') hdigit (by decide), hbullet, Text.isAnyDigit_of_isDigit hdigit]

theorem length_eq_count_add (h : ∀ c ∈ left, isRuleMark c = true) :
    left.length = left.count '-' + left.count '*' + left.count '_' := by
  induction left with
  | nil => rfl
  | cons c left ih =>
    rw [List.length_cons, ih fun d hd ↦ h d (List.mem_cons_of_mem c hd)]
    obtain rfl | rfl | rfl := isRuleMark_iff.1 (h c List.mem_cons_self)
    · simp
      omega
    · simp
      omega
    · simp
      omega

/-- Emphasis leaves all dashes of a rule, and of its stars and underscores one or none each. -/
theorem exists_withoutEmphasis_marks (h : ∀ c ∈ left, isRuleMark c = true) :
    ∃ kept hkept, (Line.marks left h).withoutEmphasis = .marks kept hkept ∧
      kept.count '-' = left.count '-' ∧ kept.count '*' = left.count '*' % 2 ∧
      kept.count '_' = left.count '_' % 2 := by
  let kept₁ := replaceAll (emphasis ['*', '*']) left
  let kept₂ := replaceAll (emphasis ['_', '_']) kept₁
  let kept₃ := replaceAll (emphasis ['*']) kept₂
  let kept₄ := replaceAll (emphasis ['_']) kept₃
  have hstars : Unwrapped ['*', '*'] left kept₁ := unwrapped_replaceFrom (by simp) true left
  have hunderscores : Unwrapped ['_', '_'] kept₁ kept₂ := unwrapped_replaceFrom (by simp) true kept₁
  have hstar : Unwrapped ['*'] kept₂ kept₃ := unwrapped_replaceFrom (by simp) true kept₂
  have hunderscore : Unwrapped ['_'] kept₃ kept₄ := unwrapped_replaceFrom (by simp) true kept₃
  have hline : '\n' ∉ left := fun hmem ↦ absurd (h _ hmem) (by decide)
  have hline₁ := fun hmem ↦ hline (hstars.sublist.subset hmem)
  have hline₂ := fun hmem ↦ hline₁ (hunderscores.sublist.subset hmem)
  have hline₃ := fun hmem ↦ hline₂ (hstar.sublist.subset hmem)
  refine ⟨kept₄, _, rfl, ?_, ?_, ?_⟩
  · exact (((hunderscore.count_eq (by decide)).trans (hstar.count_eq (by decide))).trans
      (hunderscores.count_eq (by decide))).trans (hstars.count_eq (by decide))
  · have hparity : kept₃.count '*' % 2 = left.count '*' % 2 := by
      rw [hstar.count_mod_two, hunderscores.count_eq (by decide), hstars.count_mod_two]
    have hle := hstar.count_le_one hline₂
    rw [hunderscore.count_eq (by decide)]
    omega
  · have hparity : kept₄.count '_' % 2 = left.count '_' % 2 := by
      rw [hunderscore.count_mod_two, hstar.count_eq (by decide), hunderscores.count_mod_two,
        hstars.count_eq (by decide)]
    have hle := hunderscore.count_le_one hline₃
    omega

theorem lone_iff (h : ∀ c ∈ left, isRuleMark c = true) :
    left = ['-'] ∨ left = ['*'] ↔ left.length = 1 ∧ left.count '_' = 0 := by
  constructor
  · rintro (rfl | rfl)
    · exact ⟨rfl, rfl⟩
    · exact ⟨rfl, rfl⟩
  · rintro ⟨hlength, hcount⟩
    obtain ⟨c, rfl⟩ := List.length_eq_one_iff.1 hlength
    obtain rfl | rfl | rfl := isRuleMark_iff.1 (h c (by simp))
    · exact .inl rfl
    · exact .inr rfl
    · simp at hcount

/-- Of marks that are removed neither as a rule nor as a bullet, there are one or two. -/
theorem words_withoutRule_withoutBullet (ended : Bool) (h : ∀ c ∈ left, isRuleMark c = true) :
    (((Line.marks left h).withoutRule.withoutBullet ended).without Text.isAnyDigit).words =
      if left.length = 2 ∨ left.length = 1 ∧ (ended = false ∨ left.count '_' = 1) then 1 else 0 := by
  rw [Line.withoutRule]
  by_cases hrule : 3 ≤ left.length
  · rw [if_pos hrule, if_neg (by omega), Line.withoutBullet, if_neg (by simp)]
    rfl
  rw [if_neg hrule, Line.withoutBullet]
  by_cases hbullet : ended = true ∧ (left = ['-'] ∨ left = ['*'])
  · have hlone := (lone_iff h).1 hbullet.2
    rw [if_pos hbullet, if_neg (by simp [hbullet.1, hlone])]
    rfl
  rw [if_neg hbullet]
  change (Line.marks left h).words = _
  rw [words_marks h]
  by_cases hnone : left = []
  · rw [if_pos hnone, if_neg (by simp [hnone])]
  · have hpos := List.length_pos_of_ne_nil hnone
    have hle : left.count '_' ≤ left.length := List.count_le_length
    rw [lone_iff h] at hbullet
    rw [if_neg hnone, if_pos]
    cases ended with
    | false =>
      simp only [true_or, and_true]
      omega
    | true =>
      simp only [true_and, not_and] at hbullet
      simp only [reduceCtorEq, false_or]
      omega

theorem words_stripped_marks (ended : Bool) (h : ∀ c ∈ left, isRuleMark c = true) :
    ((Line.marks left h).stripped ended).words =
      if (Line.marks left h).CountsAsWord ended then 1 else 0 := by
  obtain ⟨kept, hkept, hemphasis, hdashes, hstars, hunderscores⟩ := exists_withoutEmphasis_marks h
  have hlength : kept.length = marksLeft left := by
    rw [length_eq_count_add hkept, hdashes, hstars, hunderscores, marksLeft]
  have hcounts : (Line.marks left h).CountsAsWord ended ↔
      kept.length = 2 ∨ kept.length = 1 ∧ (ended = false ∨ kept.count '_' = 1) := by
    rw [hlength, hunderscores]
    rfl
  have hstripped : (Line.marks left h).stripped ended =
      ((Line.marks kept hkept).withoutRule.withoutBullet ended).without Text.isAnyDigit := by
    rw [← hemphasis]
    rfl
  rw [hstripped, words_withoutRule_withoutBullet]
  exact if_congr hcounts.symm rfl rfl

end

/-! ### What is counted of a text -/

/-- Lines written one after the other, each with a number of line ends behind it, and but for the
last with the two more that set it off by a blank line. -/
def linesText : List (Line × Nat) → List Char
  | [] => []
  | [(line, ends)] => line.text ++ List.replicate ends '\n'
  | (line, ends) :: rest => line.text ++ (List.replicate (ends + 2) '\n' ++ linesText rest)

/-- The lines, each with whether there is a line end behind it. -/
def linesWithEnds : List (Line × Nat) → List (Line × Bool)
  | [] => []
  | [(line, ends)] => [(line, 0 < ends)]
  | (line, _) :: rest => (line, true) :: linesWithEnds rest

theorem Laid.lineEnds {lines : List Line} {last : Line} {text : List Char}
    (h : Laid lines last text) (n : Nat) : Laid lines last (List.replicate n '\n' ++ text) := by
  induction n with
  | zero => exact h
  | succ n ih => exact .blank ih

theorem map_fst_linesWithEnds (lines : List (Line × Nat)) :
    (linesWithEnds lines).map (·.1) = lines.map (·.1) := by
  induction lines with
  | nil => rfl
  | cons first rest ih =>
    cases rest with
    | nil => rfl
    | cons second rest => exact congrArg (first.1 :: ·) ih

/-- Where nothing is counted of an empty line, what is counted of a text is counted of its lines. -/
theorem exists_laid_linesText (count : Line → Bool → Nat)
    (hnone : ∀ h, count (.marks [] h) false = 0) (lines : List (Line × Nat)) :
    ∃ front last, Laid front last (linesText lines) ∧
      (front.map (count · true)).sum + count last false =
        ((linesWithEnds lines).map fun p ↦ count p.1 p.2).sum := by
  have hempty : ∀ c ∈ ([] : List Char), isRuleMark c = true := by simp
  induction lines with
  | nil => exact ⟨[], .marks [] hempty, .last _, by simp [linesWithEnds, hnone]⟩
  | cons first rest ih =>
    obtain ⟨line, ends⟩ := first
    cases rest with
    | nil =>
      cases ends with
      | zero =>
        exact ⟨[], line, .last_of_eq (List.append_nil _).symm, by simp [linesWithEnds]⟩
      | succ n =>
        have hlast : Laid [] (.marks [] hempty) [] := .last_of_eq rfl
        refine ⟨[line], .marks [] hempty, ?_, by simp [linesWithEnds, hnone]⟩
        have hlaid := (hlast.lineEnds n).cons line
        rwa [List.append_nil] at hlaid
    | cons second rest =>
      obtain ⟨front, last, hlaid, hsum⟩ := ih
      refine ⟨line :: front, last, (hlaid.lineEnds (ends + 1)).cons line, ?_⟩
      rw [List.map_cons, List.sum_cons, Nat.add_assoc, hsum]
      rfl

theorem words_stripped (ended : Bool) (line : Line) : (line.stripped ended).words =
    line.letterWords + if line.CountsAsWord ended then 1 else 0 := by
  cases line with
  | paragraph marker first others =>
    rw [stripped_paragraph, if_neg (show ¬Line.CountsAsWord ended (.paragraph marker _ _) from id)]
    exact countWords_wordsText first others
  | marks left h => rw [words_stripped_marks, Line.letterWords, Nat.zero_add]

theorem sum_words_stripped (lines : List (Line × Bool)) :
    (lines.map fun p ↦ (p.1.stripped p.2).words).sum =
      (lines.map (·.1.letterWords)).sum + lines.countP fun p ↦ p.1.CountsAsWord p.2 := by
  induction lines with
  | nil => rfl
  | cons first rest ih =>
    rw [List.map_cons, List.sum_cons, ih, words_stripped, List.map_cons, List.sum_cons,
      List.countP_cons]
    simp only [decide_eq_true_eq]
    omega

theorem countWords_stripMarkup_linesText (lines : List (Line × Nat)) :
    countWords (stripMarkup (linesText lines)) = (lines.map (·.1.letterWords)).sum +
      (linesWithEnds lines).countP fun p ↦ p.1.CountsAsWord p.2 := by
  obtain ⟨front, last, hlaid, hsum⟩ := exists_laid_linesText
    (fun line ended ↦ (line.stripped ended).words) (fun _ ↦ rfl) lines
  have hletters := congrArg (fun lines ↦ (lines.map Line.letterWords).sum)
    (map_fst_linesWithEnds lines)
  simp only [List.map_map] at hletters
  calc countWords (stripMarkup (linesText lines))
      = (front.map fun line ↦ (line.stripped true).words).sum + (last.stripped false).words := by
        rw [hlaid.stripMarkup.countWords_eq, List.map_map]
        rfl
    _ = ((linesWithEnds lines).map fun p ↦ (p.1.stripped p.2).words).sum := hsum
    _ = ((linesWithEnds lines).map (·.1.letterWords)).sum + _ := sum_words_stripped _
    _ = _ := congrArg (· + _) hletters

/-- A run of three or more equal marks counts if there is a mark too many for pairs: an underscore,
or a star without a line end behind it. -/
theorem countsAsWord_replicate {n : Nat} {mark : Char} (ended : Bool)
    (h : ∀ c ∈ List.replicate n mark, isRuleMark c = true) (hn : 3 ≤ n) :
    (Line.marks (List.replicate n mark) h).CountsAsWord ended ↔
      n % 2 = 1 ∧ (mark = '_' ∨ mark = '*' ∧ ended = false) := by
  have hmark := isRuleMark_iff.1 (h mark (List.mem_replicate.2 ⟨by omega, rfl⟩))
  have hcount : ∀ c, (List.replicate n mark).count c = if mark = c then n else 0 := fun c ↦ by
    simp [List.count_replicate]
  simp only [Line.CountsAsWord, marksLeft, hcount]
  obtain rfl | rfl | rfl := hmark
  · simp only [↓reduceIte, Char.reduceEq, false_and, or_self, and_false, iff_false]
    rintro (htwo | ⟨hone, -⟩)
    · omega
    · omega
  · simp only [↓reduceIte, Char.reduceEq, Nat.zero_mod, Nat.zero_add, Nat.add_zero, zero_ne_one,
      or_false, true_and, false_or, or_iff_right_iff_imp]
    omega
  · simp only [↓reduceIte, Char.reduceEq, Nat.zero_mod, Nat.zero_add, false_and, or_false, and_true]
    omega

/-- For paragraphs and rules that are set apart by blank lines, whichever markers there are, the
words of letters are counted, and besides them those rules of which emphasis leaves a mark or two.
So the words of letters are all that is counted exactly if there is no such rule; of runs of one
mark those are the odd ones of underscores, and of stars at the end of the text. -/
theorem markers_are_no_words (lines : List (Line × Nat)) :
    estimate (linesText lines) = ofWords ((lines.map (·.1.letterWords)).sum +
        (linesWithEnds lines).countP fun p ↦ p.1.CountsAsWord p.2) ∧
      ((estimate (linesText lines)).words = (lines.map (·.1.letterWords)).sum ↔
        ∀ p ∈ linesWithEnds lines, ¬p.1.CountsAsWord p.2) ∧
      ∀ n mark ended h, 3 ≤ n → ((Line.marks (List.replicate n mark) h).CountsAsWord ended ↔
        n % 2 = 1 ∧ (mark = '_' ∨ mark = '*' ∧ ended = false)) := by
  have hestimate : estimate (linesText lines) = ofWords ((lines.map (·.1.letterWords)).sum +
      (linesWithEnds lines).countP fun p ↦ p.1.CountsAsWord p.2) := by
    rw [estimate, countWords_stripMarkup_linesText]
  refine ⟨hestimate, ?_, fun n mark ended h hn ↦ countsAsWord_replicate ended h hn⟩
  have hnone : (linesWithEnds lines).countP (fun p ↦ decide (p.1.CountsAsWord p.2)) = 0 ↔
      ∀ p ∈ linesWithEnds lines, ¬p.1.CountsAsWord p.2 := by
    simp [List.countP_eq_zero]
  rw [hestimate, ← hnone]
  exact Nat.add_eq_left

/-- Of three underscores emphasis leaves one, which is no rule any more. -/
theorem underscore_rule_counts_as_word : ∃ lines : List (Line × Nat),
    linesText lines = "a\n\n___\n\nb".toList ∧ (lines.map (·.1.letterWords)).sum = 2 ∧
      (estimate (linesText lines)).words = 3 := by
  let a : Word := ⟨['a'], by simp, by simp [Text.isLetter]⟩
  let b : Word := ⟨['b'], by simp, by simp [Text.isLetter]⟩
  exact ⟨[(.paragraph none a [], 0), (.marks ['_', '_', '_'] (by simp [isRuleMark]), 0),
    (.paragraph none b [], 0)], rfl, rfl, by decide +kernel⟩

end Galley.ReadingTime
