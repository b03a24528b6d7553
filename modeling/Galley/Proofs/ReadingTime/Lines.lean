import Mathlib
import Galley.Proofs.ReadingTime.Replace
import Galley.Proofs.Text.Ascii
import Galley.Proofs.Text.Words

/-!
Texts of paragraphs and rules, line by line. A line is a paragraph of words, which may have a marker
in front, or holds the marks that are left of a rule (`Line`); lines are set apart by line ends, one
or more (`Laid`). A replacement that takes each line for itself turns such a text into one of the
lines that are left (`Laid.replaceAll_of_treats`), and the words of a text are those of its lines.
-/

set_option autoImplicit false
set_option relaxedAutoImplicit false

namespace Galley.ReadingTime

/-! ### Lines -/

/-- A word of ASCII letters. -/
structure Word where
  letters : List Char
  ne_nil : letters ≠ []
  isLetter : ∀ c ∈ letters, Text.isLetter c = true

/-- What marks a paragraph as a heading, a quote or an item of a list. -/
inductive Marker where
  | heading (level : Nat) (h : 1 ≤ level ∧ level ≤ 6)
  | quote
  | bullet (sign : Char) (h : sign = '-' ∨ sign = '*' ∨ sign = '+')
  | number (first : Char) (others : List Char) (h : ∀ c ∈ first :: others, Text.isDigit c = true)

namespace Marker

/-- The characters of a marker. -/
def text : Marker → List Char
  | heading level _ => List.replicate level '#'
  | quote => ['>']
  | bullet sign _ => [sign]
  | number first others _ => first :: others ++ ['.']

/-- The first character of a marker. -/
def sign : Marker → Char
  | heading .. => '#'
  | quote => '>'
  | bullet sign _ => sign
  | number first .. => first

end Marker

/-- The characters that rules are made of. -/
def isRuleMark (c : Char) : Bool := c == '-' || c == '*' || c == '_'

theorem isRuleMark_iff {c : Char} : isRuleMark c = true ↔ c = '-' ∨ c = '*' ∨ c = '_' := by
  simp [isRuleMark, or_assoc]

/-- A line of a text: a paragraph, or what is left of a rule. -/
inductive Line where
  | paragraph (marker : Option Marker) (first : Word) (others : List Word)
  | marks (left : List Char) (h : ∀ c ∈ left, isRuleMark c = true)

/-- Words with single blanks between them. -/
def wordsText (first : Word) (others : List Word) : List Char :=
  first.letters ++ others.flatMap fun word ↦ ' ' :: word.letters

namespace Line

/-- The characters of a line. -/
def text : Line → List Char
  | paragraph none first others => wordsText first others
  | paragraph (some marker) first others => marker.text ++ ' ' :: wordsText first others
  | marks left _ => left

/-- The number of words in a line. -/
def words (line : Line) : Nat := countWords line.text

end Line

/-- Characters that a test sets apart are different ones. -/
theorem beq_of_apply {test : Char → Bool} {c d : Char} (hc : test c = true) (hd : test d = false) :
    (c == d) = false := by
  rw [beq_eq_false_iff_ne]
  rintro rfl
  rw [hc] at hd
  cases hd

/-- The characters that lines are made of. -/
def isLineChar (c : Char) : Bool :=
  Text.isAlnum c || [' ', '#', '>', '-', '*', '+', '.', '_'].contains c

section

variable {c : Char} {marker : Marker} {first : Word} {others : List Word} {line : Line}

theorem mem_wordsText (h : c ∈ wordsText first others) : c = ' ' ∨ Text.isLetter c = true := by
  obtain hfirst | hothers := List.mem_append.1 h
  · exact .inr (first.isLetter c hfirst)
  · obtain ⟨word, -, hword⟩ := List.mem_flatMap.1 hothers
    obtain rfl | hletter := List.mem_cons.1 hword
    · exact .inl rfl
    · exact .inr (word.isLetter c hletter)

theorem exists_wordsText_eq_cons (first : Word) (others : List Word) :
    ∃ c rest, wordsText first others = c :: rest ∧ Text.isLetter c = true := by
  obtain ⟨c, rest, hletters⟩ := List.exists_cons_of_ne_nil first.ne_nil
  refine ⟨c, rest ++ others.flatMap fun word ↦ ' ' :: word.letters, ?_,
    first.isLetter c (by simp [hletters])⟩
  rw [wordsText, hletters, List.cons_append]

theorem Marker.exists_text_eq_cons (marker : Marker) :
    ∃ rest, marker.text = marker.sign :: rest := by
  cases marker with
  | heading level h =>
    obtain ⟨n, rfl⟩ := Nat.exists_eq_add_of_le' h.1
    exact ⟨List.replicate n '#', rfl⟩
  | quote => exact ⟨[], rfl⟩
  | bullet sign h => exact ⟨[], rfl⟩
  | number first others h => exact ⟨others ++ ['.'], rfl⟩

theorem Marker.mem_text (h : c ∈ marker.text) :
    Text.isDigit c = true ∨ c ∈ ['#', '>', '-', '*', '+', '.'] := by
  cases marker with
  | heading level _ => simp [(List.mem_replicate.1 h).2]
  | quote => simp [List.mem_singleton.1 h]
  | bullet sign hsign =>
    obtain rfl := List.mem_singleton.1 h
    obtain rfl | rfl | rfl := hsign <;> simp
  | number first others hdigit =>
    obtain hnumber | hdot := List.mem_append.1 h
    · exact .inl (hdigit c hnumber)
    · simp [List.mem_singleton.1 hdot]

theorem Line.isLineChar_of_mem (h : c ∈ line.text) : isLineChar c = true := by
  have hwords : ∀ {first others}, c ∈ wordsText first others → isLineChar c = true := by
    intro first others h
    obtain rfl | hletter := mem_wordsText h
    · decide
    · simp [isLineChar, Text.isAlnum, hletter]
  cases line with
  | paragraph marker first others =>
    cases marker with
    | none => exact hwords h
    | some marker =>
      obtain hmarker | hrest := List.mem_append.1 h
      · obtain hdigit | hmem := Marker.mem_text hmarker
        · simp [isLineChar, Text.isAlnum, hdigit]
        · fin_cases hmem <;> decide
      · obtain rfl | hrest := List.mem_cons.1 hrest
        · decide
        · exact hwords hrest
  | marks left hleft =>
    obtain rfl | rfl | rfl := isRuleMark_iff.1 (hleft c h)
    · decide
    · decide
    · decide

theorem Line.notMem_text (hc : isLineChar c = false) : c ∉ line.text := fun h ↦ by
  rw [isLineChar_of_mem h] at hc
  cases hc

theorem isBlank_of_isLineChar (h : isLineChar c = true) (hc : c ≠ ' ') :
    Text.isBlank c = false := by
  rw [isLineChar, Bool.or_eq_true] at h
  obtain halnum | hmem := h
  · exact Text.isBlank_of_isAlnum halnum
  · rw [List.contains_iff_mem] at hmem
    fin_cases hmem
    · exact absurd rfl hc
    all_goals decide

/-- No line starts with a blank. -/
theorem Line.isBlank_of_text_eq_cons {rest : List Char} (h : line.text = c :: rest) :
    Text.isBlank c = false := by
  refine isBlank_of_isLineChar (isLineChar_of_mem (h ▸ List.mem_cons_self)) ?_
  rintro rfl
  have hwords : ∀ first others, wordsText first others ≠ ' ' :: rest := by
    intro first others hwords
    obtain ⟨c, rest, hcons, hletter⟩ := exists_wordsText_eq_cons first others
    rw [hcons, List.cons.injEq] at hwords
    rw [hwords.1] at hletter
    exact absurd hletter (by decide)
  cases line with
  | paragraph marker first others =>
    cases marker with
    | none => exact hwords first others h
    | some marker =>
      obtain ⟨rest', hmarker⟩ := marker.exists_text_eq_cons
      have hsign : marker.sign = ' ' := by
        simpa [Line.text, hmarker] using congrArg List.head? h
      have hmem : ' ' ∈ marker.text := by simp [hmarker, hsign]
      exact absurd (Marker.mem_text hmem) (by decide)
  | marks left hleft =>
    obtain rfl : left = ' ' :: rest := h
    exact absurd (hleft ' ' List.mem_cons_self) (by decide)

/-- A line starts with neither a blank nor a line end. -/
theorem Line.exists_text_eq_cons (hne : line.text ≠ []) :
    ∃ c rest, line.text = c :: rest ∧ Text.isBlank c = false ∧ c ≠ '\n' := by
  obtain ⟨c, rest, htext⟩ := List.exists_cons_of_ne_nil hne
  have hblank := Line.isBlank_of_text_eq_cons htext
  refine ⟨c, rest, htext, hblank, ?_⟩
  rintro rfl
  exact absurd hblank (by decide)

theorem Line.dropWhile_lineEnds (hne : line.text ≠ []) (tail : List Char) :
    (line.text ++ tail).dropWhile (· == '\n') = line.text ++ tail := by
  obtain ⟨c, rest, htext, -, hend⟩ := line.exists_text_eq_cons hne
  simp [htext, hend]

theorem Marker.count_text_le_one (marker : Marker) (hdigit : Text.isDigit c = false)
    (hc : c ≠ '#' ∧ c ≠ '.') : marker.text.count c ≤ 1 := by
  cases marker with
  | heading level h => simp [Marker.text, List.count_replicate, hc.1.symm]
  | quote => exact List.count_le_length
  | bullet sign h => exact List.count_le_length
  | number first others h =>
    have hmem : c ∉ (Marker.number first others h).text := by
      intro hmem
      obtain hnumber | hdot := List.mem_append.1 hmem
      · simp [h c hnumber] at hdigit
      · exact hc.2 (List.mem_singleton.1 hdot)
    rw [List.count_eq_zero.2 hmem]
    exact Nat.zero_le 1

/-- Characters that stand in no word, as those of emphasis, stand in a paragraph once at most. -/
theorem Line.count_paragraph_le_one (marker : Option Marker) (first : Word) (others : List Word)
    (hletter : Text.isAlnum c = false) (hc : c ≠ ' ' ∧ c ≠ '#' ∧ c ≠ '.') :
    (Line.paragraph marker first others).text.count c ≤ 1 := by
  rw [Text.isAlnum, Bool.or_eq_false_iff] at hletter
  have hwords : (wordsText first others).count c = 0 := by
    rw [List.count_eq_zero]
    intro hmem
    obtain hblank | hword := mem_wordsText hmem
    · exact hc.1 hblank
    · simp [hword] at hletter
  cases marker with
  | none =>
    rw [Line.text, hwords]
    exact Nat.zero_le 1
  | some marker =>
    rw [Line.text, List.count_append, List.count_cons_of_ne hc.1.symm, hwords, Nat.add_zero]
    exact marker.count_text_le_one hletter.2 hc.2

end

/-! ### Texts of lines -/

/-- A text of lines, all but the last with a line end behind them; there may be further line ends
between them. Lines of which nothing is left need no place in the text. -/
inductive Laid : List Line → Line → List Char → Prop
  | last (line : Line) : Laid [] line line.text
  | gone {line last : Line} {lines : List Line} {text : List Char} (h : line.text = [])
      (hrest : Laid lines last text) : Laid (line :: lines) last text
  | blank {last : Line} {lines : List Line} {text : List Char} (hrest : Laid lines last text) :
      Laid lines last ('\n' :: text)
  | line {line last : Line} {lines : List Line} {text : List Char} (h : line.text ≠ [])
      (hrest : Laid lines last text) : Laid (line :: lines) last (line.text ++ '\n' :: text)

namespace Laid

variable {last : Line} {lines : List Line} {text : List Char}

theorem cons (line : Line) (h : Laid lines last text) :
    Laid (line :: lines) last (line.text ++ '\n' :: text) := by
  by_cases hline : line.text = []
  · rw [hline]
    exact .gone hline (.blank h)
  · exact .line hline h

/-- A line by its characters. -/
theorem last_of_eq {line : Line} (h : line.text = text) : Laid [] line text := h ▸ .last line

theorem isLineChar_of_mem (h : Laid lines last text) {c : Char} (hc : c ∈ text) :
    c = '\n' ∨ isLineChar c = true := by
  induction h with
  | last line => exact .inr (Line.isLineChar_of_mem hc)
  | gone _ _ ih => exact ih hc
  | blank _ ih =>
    obtain rfl | hc := List.mem_cons.1 hc
    · exact .inl rfl
    · exact ih hc
  | line _ _ ih =>
    obtain hc | hc := List.mem_append.1 hc
    · exact .inr (Line.isLineChar_of_mem hc)
    · obtain rfl | hc := List.mem_cons.1 hc
      · exact .inl rfl
      · exact ih hc

/-- The blanks in front of a text of lines are line ends. -/
theorem takeWhile_isBlank (h : Laid lines last text) :
    text.takeWhile Text.isBlank = text.takeWhile (· == '\n') := by
  have hline : ∀ {line : Line} (tail : List Char), line.text ≠ [] →
      (line.text ++ tail).takeWhile Text.isBlank = (line.text ++ tail).takeWhile (· == '\n') := by
    intro line tail hne
    obtain ⟨c, rest, htext, hblank, hend⟩ := line.exists_text_eq_cons hne
    simp [htext, hblank, hend]
  induction h with
  | last line =>
    by_cases hne : line.text = []
    · rw [hne]
      rfl
    · simpa using hline [] hne
  | gone _ _ ih => exact ih
  | blank _ ih =>
    rw [List.takeWhile_cons_of_pos rfl, List.takeWhile_cons_of_pos rfl, ih]
  | line hne _ _ => exact hline _ hne

theorem countWords_eq (h : Laid lines last text) :
    countWords text = (lines.map Line.words).sum + last.words := by
  have hsplit : ∀ front back : List Char,
      countWords (front ++ '\n' :: back) = countWords front + countWords back := by
    intro front back
    rw [countWords, Text.wordsBy_append_cons rfl, List.length_append, ← countWords, ← countWords]
  induction h with
  | last line => exact (Nat.zero_add _).symm
  | @gone line _ _ _ hline _ ih =>
    have hwords : line.words = 0 := by rw [Line.words, hline]; rfl
    rw [List.map_cons, List.sum_cons, hwords, Nat.zero_add, ih]
  | blank _ ih => exact (hsplit [] _).trans ((Nat.zero_add _).trans ih)
  | line _ _ ih =>
    rw [hsplit, ih, List.map_cons, List.sum_cons, ← Line.words, Nat.add_assoc]

end Laid

/-! ### Replacements at the start of a line -/

/-- What is behind a line: nothing, or a line end and further lines. -/
inductive Follows : Bool → List Char → Prop
  | last : Follows false []
  | line {text : List Char}
      (h : text.takeWhile Text.isBlank = text.takeWhile (· == '\n')) : Follows true ('\n' :: text)

theorem Follows.exists_lineEnds {tail : List Char} (h : Follows true tail) : ∃ n,
    tail = List.replicate (n + 1) '\n' ++ tail.dropWhile (· == '\n') ∧
      tail.takeWhile Text.isBlank = List.replicate (n + 1) '\n' := by
  cases h with
  | @line text h =>
    have hends : text.takeWhile (· == '\n') =
        List.replicate (text.takeWhile (· == '\n')).length '\n' :=
      List.eq_replicate_of_mem fun c hc ↦ by simpa using List.mem_takeWhile_imp hc
    refine ⟨(text.takeWhile (· == '\n')).length, ?_, ?_⟩
    · rw [List.replicate_succ, ← hends, List.dropWhile_cons_of_pos rfl, List.cons_append,
        List.takeWhile_append_dropWhile]
    · rw [List.replicate_succ, ← hends, List.takeWhile_cons_of_pos rfl, h]

/-- What a replacement makes of a line, with the given text behind it. -/
inductive Treats (find : Bool → List Char → Finding) (tail : List Char) :
    List Char → List Char → Prop
  | stays {line : List Char} (h : find true (line ++ tail) = none) : Treats find tail line line
  | cut {found kept : List Char} (hfound : found ≠ []) (hkept : kept ≠ [])
      (h : find true (found ++ (kept ++ tail)) = some ([], found.length)) :
      Treats find tail (found ++ kept) kept
  /-- The line goes, with the line ends behind it or all but one of them. -/
  | gone {line : List Char}
      (h : replaceFrom find 0 true (line ++ tail) =
          replaceFrom find 0 true (tail.dropWhile (· == '\n')) ∨
        replaceFrom find 0 true (line ++ tail) =
          '\n' :: replaceFrom find 0 true (tail.dropWhile (· == '\n'))) : Treats find tail line []

section

variable {find : Bool → List Char → Finding} {last : Line}
  {lines : List Line} {text tail : List Char}

theorem Treats.replaceFrom_eq {before after : List Char} (h : Treats find tail before after)
    (hfind : ∀ text, find false text = none) (hbefore : '\n' ∉ before) (hne : after ≠ []) :
    replaceFrom find 0 true (before ++ tail) = after ++ replaceFrom find 0 false tail := by
  cases h with
  | stays h =>
    obtain ⟨c, rest, rfl⟩ := List.exists_cons_of_ne_nil hne
    have hc : (c == '\n') = false :=
      beq_eq_false_iff_ne.2 (List.ne_of_not_mem_cons hbefore).symm
    rw [List.cons_append] at h
    rw [List.cons_append, replaceFrom_of_eq_none h, hc,
      replaceFrom_false_append hfind (List.not_mem_of_not_mem_cons hbefore), List.cons_append]
  | @cut found kept hfound hkept h =>
    rw [List.mem_append, not_or] at hbefore
    rw [List.append_assoc, replaceFrom_of_eq_some hfound h,
      startsLine_of_notMem hbefore.1 hfound, List.nil_append,
      replaceFrom_false_append hfind hbefore.2]
  | gone h => exact absurd rfl hne

theorem Treats.replaceFrom_nil {before : List Char} (h : Treats find tail before [])
    (hne : before ≠ []) :
    replaceFrom find 0 true (before ++ tail) =
        replaceFrom find 0 true (tail.dropWhile (· == '\n')) ∨
      replaceFrom find 0 true (before ++ tail) =
        '\n' :: replaceFrom find 0 true (tail.dropWhile (· == '\n')) := by
  cases h with
  | stays => exact absurd rfl hne
  | cut _ hkept => exact absurd rfl hkept
  | gone h => exact h

theorem Treats.laid_last {line after : Line} (h : Treats find [] line.text after.text)
    (hfind : ∀ text, find false text = none) (hne : line.text ≠ []) :
    Laid [] after (replaceFrom find 0 true line.text) := by
  rw [← List.append_nil line.text]
  by_cases hkept : after.text = []
  · rw [hkept] at h
    obtain heq | heq := h.replaceFrom_nil hne
    · exact heq ▸ .last_of_eq hkept
    · exact heq ▸ .blank (.last_of_eq hkept)
  · rw [h.replaceFrom_eq hfind (Line.notMem_text (by decide)) hkept]
    exact .last_of_eq (List.append_nil _).symm

/-- What a line becomes stands in front of what the lines behind it become. -/
theorem Treats.laid_line {line after : Line} (h : Treats find ('\n' :: text) line.text after.text)
    (hfind : ∀ text, find false text = none) (hne : line.text ≠ [])
    (hrest : Laid lines last (replaceFrom find 0 true text))
    (hlines : Laid lines last (replaceFrom find 0 true (text.dropWhile (· == '\n')))) :
    Laid (after :: lines) last (replaceFrom find 0 true (line.text ++ '\n' :: text)) := by
  by_cases hkept : after.text = []
  · rw [hkept] at h
    obtain heq | heq := h.replaceFrom_nil hne
    · exact heq ▸ .gone hkept hlines
    · exact heq ▸ .gone hkept (.blank hlines)
  · rw [h.replaceFrom_eq hfind (Line.notMem_text (by decide)) hkept,
      replaceFrom_of_eq_none (hfind _)]
    exact .line hkept hrest

/-- A replacement that finds something at the start of a line only, and that deals with each line
for itself, turns a text of lines into one of what it makes of them. -/
theorem Laid.replaceAll_of_treats (h : Laid lines last text) (cut : Bool → Line → Line)
    (hfind : ∀ text, find false text = none)
    (hblank : ∀ text, replaceFrom find 0 true ('\n' :: text) = replaceFrom find 0 true text ∨
      replaceFrom find 0 true ('\n' :: text) = '\n' :: replaceFrom find 0 true text)
    (hempty : ∀ ended line, line.text = [] → (cut ended line).text = [])
    (hcut : ∀ ended line tail, Follows ended tail → line.text ≠ [] →
      Treats find tail line.text (cut ended line).text) :
    Laid (lines.map (cut true)) (cut false last) (replaceAll find text) := by
  -- what stays behind a line that goes starts with the next line, so this is shown along with it
  suffices hboth : Laid (lines.map (cut true)) (cut false last) (replaceFrom find 0 true text) ∧
      Laid (lines.map (cut true)) (cut false last)
        (replaceFrom find 0 true (text.dropWhile (· == '\n'))) from hboth.1
  induction h with
  | last line =>
    by_cases hne : line.text = []
    · rw [hne, List.dropWhile_nil, and_self]
      exact .last_of_eq (hempty false line hne)
    · have hself := line.dropWhile_lineEnds hne []
      rw [List.append_nil] at hself
      rw [hself, and_self]
      exact (hcut false line [] .last hne).laid_last hfind hne
  | gone hline _ ih =>
    exact ⟨.gone (hempty true _ hline) ih.1, .gone (hempty true _ hline) ih.2⟩
  | @blank _ _ text _ ih =>
    refine ⟨?_, ih.2⟩
    obtain heq | heq := hblank text
    · exact heq ▸ ih.1
    · exact heq ▸ .blank ih.1
  | @line line _ _ text hne hrest ih =>
    rw [line.dropWhile_lineEnds hne, and_self]
    exact (hcut true line _ (.line hrest.takeWhile_isBlank) hne).laid_line hfind hne ih.1 ih.2

end

end Galley.ReadingTime
