import Mathlib
import Galley.Proofs.ReadingTime.Lines

/-!
The replacements on a text of lines, one after the other. Those of emphasis take marks from rules in
pairs and leave paragraphs alone; each kind of marker is taken off by a replacement of its own
(`Detects`); of what is left of a rule, three marks or more are removed as a rule and a lone dash or
star as an item without a text, if a line end is behind it. `Line.stripped` is what is left in the
end.
-/

set_option autoImplicit false
set_option relaxedAutoImplicit false

namespace Galley.ReadingTime

variable {lines : List Line} {last : Line} {text : List Char}

/-! ### Replacements that find nothing -/

theorem Laid.replaceAll_eq {find : Bool → List Char → Finding} {c : Char}
    (h : Laid lines last text) (hc : c ≠ '\n' ∧ isLineChar c = false)
    (hfind : ∀ atLineStart text, c ∉ text → find atLineStart text = none) :
    replaceAll find text = text := by
  refine replaceFrom_of_notMem hfind fun hmem ↦ ?_
  obtain hend | hchar := h.isLineChar_of_mem hmem
  · exact hc.1 hend
  · simp [hc.2] at hchar

/-! ### Emphasis -/

namespace Line

/-- Takes the given marks from a rule in pairs. -/
def unwrapped (mark : List Char) (hne : mark ≠ []) : Line → Line
  | paragraph marker first others => paragraph marker first others
  | marks left h => marks (replaceAll (emphasis mark) left) fun c hc ↦
    h c ((unwrapped_replaceFrom hne true left).sublist.subset hc)

end Line

/-- No paragraph has enough of some character for two of the marks. -/
def IsEmphasis (mark : List Char) : Prop :=
  ∃ c, 1 < 2 * mark.count c ∧ Text.isAlnum c = false ∧ c ≠ ' ' ∧ c ≠ '#' ∧ c ≠ '.'

theorem Line.unwrapped_text {mark : List Char} (hmark : IsEmphasis mark) (hne : mark ≠ [])
    (line : Line) :
    replaceAll (emphasis mark) line.text = (line.unwrapped mark hne).text := by
  cases line with
  | paragraph marker first others =>
    obtain ⟨c, hcount, hc⟩ := hmark
    have hle := Line.count_paragraph_le_one marker first others hc.1 hc.2
    exact (unwrapped_replaceFrom hne true _).eq_of_count_lt (lt_of_le_of_lt hle hcount)
  | marks left h => rfl

theorem Laid.emphasis {mark : List Char} (h : Laid lines last text) (hmark : IsEmphasis mark)
    (hne : mark ≠ []) (hline : '\n' ∉ mark) :
    Laid (lines.map (Line.unwrapped mark hne)) (last.unwrapped mark hne)
      (replaceAll (emphasis mark) text) := by
  have hunwrapped : ∀ line : Line, Unwrapped mark line.text (line.unwrapped mark hne).text := by
    intro line
    rw [← Line.unwrapped_text hmark]
    exact unwrapped_replaceFrom hne true line.text
  induction h with
  | last line => exact .last_of_eq (Line.unwrapped_text hmark hne line).symm
  | @gone line _ _ _ hgone _ ih =>
    refine .gone ?_ ih
    have hsub := (hunwrapped line).sublist
    rwa [hgone, List.sublist_nil] at hsub
  | blank _ ih =>
    have heq := Unwrapped.nil.replaceFrom_line hne hline List.not_mem_nil true
    exact (congrArg (Laid _ _) (heq _)).mpr (.blank ih)
  | @line line _ _ text _ _ ih =>
    have hnotMem : '\n' ∉ line.text := Line.notMem_text (by decide)
    rw [replaceAll, (hunwrapped line).replaceFrom_line hne hline hnotMem true]
    exact .cons _ ih

/-! ### Marks at the start of a line -/

/-- A mark that is found behind line ends as well, and that is a marker with the given first
character. -/
structure Detects (mark : List Char → Nat) (starts : Char → Bool) : Prop where
  lineEnd : ∀ rest, mark ('\n' :: rest) = 0 ∨ 0 < mark rest ∧ mark ('\n' :: rest) = mark rest + 1
  other : ∀ c rest, Text.isBlank c = false → starts c = false → mark (c :: rest) = 0
  marker : ∀ m : Marker, starts m.sign = true → ∀ rest,
    mark (m.text ++ ' ' :: rest) = m.text.length
  letter : ∀ c, Text.isLetter c = true → starts c = false

/-- The signs of bullets. -/
def isBulletSign (c : Char) : Bool := c == '-' || c == '*' || c == '+'

theorem isBulletSign_iff {c : Char} : isBulletSign c = true ↔ c = '-' ∨ c = '*' ∨ c = '+' := by
  simp [isBulletSign, or_assoc]

theorem blanks_cons_of_isBlank {c : Char} {rest : List Char} (h : Text.isBlank c = true) :
    blanks (c :: rest) = blanks rest + 1 := by
  rw [blanks, List.takeWhile_cons_of_pos h, List.length_cons, blanks]

theorem blanks_cons_of_not_isBlank {c : Char} {rest : List Char} (h : Text.isBlank c = false) :
    blanks (c :: rest) = 0 := by
  rw [blanks, List.takeWhile_cons_of_neg (by simp [h]), List.length_nil]

theorem detects_headingMark : Detects headingMark (· == '#') where
  lineEnd _ := .inl rfl
  other c rest _ hc := by
    rw [headingMark, List.takeWhile_cons_of_neg (by simpa using hc)]
    rfl
  marker m hm rest := by
    rw [beq_iff_eq] at hm
    cases m with
    | heading level h =>
      have hwidth : ((List.replicate level '#' ++ ' ' :: rest).takeWhile (· == '#')).length =
          level := by
        rw [List.takeWhile_append_of_pos (by simp [List.mem_replicate])]
        simp
      simp only [Marker.text, headingMark, hwidth, List.length_replicate, if_pos h.2]
    | quote => cases hm
    | bullet sign h =>
      obtain rfl : sign = '#' := hm
      exact absurd h (by decide)
    | number first others h =>
      obtain rfl : first = '#' := hm
      exact absurd (h '#' List.mem_cons_self) (by decide)
  letter _ hc := beq_of_apply hc (by decide)

theorem detects_quoteMark : Detects quoteMark (· == '>') where
  lineEnd _ := .inl rfl
  other c rest _ hc := by simpa [quoteMark] using hc
  marker m hm rest := by
    rw [beq_iff_eq] at hm
    cases m with
    | heading level h => cases hm
    | quote => rfl
    | bullet sign h =>
      obtain rfl : sign = '>' := hm
      exact absurd h (by decide)
    | number first others h =>
      obtain rfl : first = '>' := hm
      exact absurd (h '>' List.mem_cons_self) (by decide)
  letter _ hc := beq_of_apply hc (by decide)

/-- Indented or not, a bullet is a single sign. -/
theorem bulletMark_cons_of_not_isBlank {c : Char} {rest : List Char}
    (h : Text.isBlank c = false) :
    bulletMark (c :: rest) = if isBulletSign c then 1 else 0 := by
  simp only [bulletMark, blanks_cons_of_not_isBlank h, List.drop_zero, Nat.zero_add]
  rfl

theorem isBlank_of_isBulletSign {c : Char} (h : isBulletSign c = true) :
    Text.isBlank c = false := by
  obtain rfl | rfl | rfl := isBulletSign_iff.1 h
  · decide
  · decide
  · decide

theorem isBulletSign_of_isAlnum {c : Char} (h : Text.isAlnum c = true) :
    isBulletSign c = false := by
  rw [isBulletSign, beq_of_apply h (by decide), beq_of_apply h (by decide),
    beq_of_apply h (by decide)]
  rfl

theorem detects_bulletMark : Detects bulletMark isBulletSign where
  lineEnd rest := by
    have hblanks : blanks ('\n' :: rest) = blanks rest + 1 := blanks_cons_of_isBlank rfl
    simp only [bulletMark, hblanks, List.drop_succ_cons]
    cases rest.drop (blanks rest) with
    | nil => exact .inl rfl
    | cons c after =>
      dsimp only
      split_ifs
      · exact .inr ⟨Nat.succ_pos _, rfl⟩
      · exact .inl rfl
  other c rest hblank hc := by rw [bulletMark_cons_of_not_isBlank hblank, hc]; rfl
  marker m hm rest := by
    cases m with
    | heading level h => exact absurd hm (by simp [Marker.sign, isBulletSign])
    | quote => exact absurd hm (by decide)
    | bullet sign h =>
      have hm : isBulletSign sign = true := hm
      rw [Marker.text, List.singleton_append,
        bulletMark_cons_of_not_isBlank (isBlank_of_isBulletSign hm), if_pos hm]
      rfl
    | number first others h =>
      have hfirst : isBulletSign first = false :=
        isBulletSign_of_isAlnum (by simp [Text.isAlnum, h first])
      exact absurd hm (by simp [Marker.sign, hfirst])
  letter c hc := isBulletSign_of_isAlnum (by simp [Text.isAlnum, hc])

theorem detects_numberMark : Detects numberMark Text.isAnyDigit where
  lineEnd rest := by
    have hblanks : blanks ('\n' :: rest) = blanks rest + 1 := blanks_cons_of_isBlank rfl
    simp only [numberMark, hblanks, List.drop_succ_cons, Nat.add_right_comm _ 1,
      List.getElem?_cons_succ]
    split_ifs
    · exact .inr ⟨Nat.succ_pos _, rfl⟩
    · exact .inl rfl
  other c rest hblank hc := by
    simp only [numberMark, blanks_cons_of_not_isBlank hblank, List.drop_zero,
      List.takeWhile_cons_of_neg (by simp [hc] : ¬Text.isAnyDigit c = true)]
    rfl
  marker m hm rest := by
    cases m with
    | heading level h => exact absurd hm (by simp only [Marker.sign]; decide)
    | quote => exact absurd hm (by decide)
    | bullet sign h =>
      obtain rfl | rfl | rfl := h
      · exact absurd hm (by decide)
      · exact absurd hm (by decide)
      · exact absurd hm (by decide)
    | number first others h =>
      have hblank : Text.isBlank first = false :=
        Text.isBlank_of_isAlnum (by simp [Text.isAlnum, h first])
      have hdigits : ((first :: others ++ ['.'] ++ ' ' :: rest).takeWhile Text.isAnyDigit) =
          first :: others := by
        rw [List.append_assoc, List.takeWhile_append_of_pos
          fun c hc ↦ Text.isAnyDigit_of_isDigit (h c hc)]
        have hdot : Text.isAnyDigit '.' = false := by decide
        simp [hdot]
      have hblanks : blanks (first :: others ++ ['.'] ++ ' ' :: rest) = 0 :=
        blanks_cons_of_not_isBlank hblank
      simp only [Marker.text, numberMark, hblanks, List.drop_zero, hdigits, Nat.zero_add]
      simp
  letter c hc := Text.isAnyDigit_of_isLetter hc

theorem isBlank_of_isRuleMark {c : Char} (h : isRuleMark c = true) : Text.isBlank c = false := by
  obtain rfl | rfl | rfl := isRuleMark_iff.1 h
  · decide
  · decide
  · decide

/-! ### Markers -/

namespace Line

/-- Takes off a marker with the given first character. -/
def without (starts : Char → Bool) : Line → Line
  | paragraph (some marker) first others =>
    if starts marker.sign then paragraph none first others else paragraph (some marker) first others
  | line => line

/-- Takes off a bullet. A lone dash or star with a line end behind it is one as well. -/
def withoutBullet (ended : Bool) : Line → Line
  | marks left h =>
    if ended ∧ (left = ['-'] ∨ left = ['*']) then marks [] (by simp) else marks left h
  | line => line.without isBulletSign

end Line

section

variable {mark : List Char → Nat} {starts : Char → Bool} {tail rest : List Char} {c : Char}

theorem lineMark_false (mark : List Char → Nat) (s : List Char) : lineMark mark false s = none := by
  simp [lineMark]

theorem lineMark_true (mark : List Char → Nat) (s : List Char) : lineMark mark true s =
    if 0 < mark s ∧ 0 < blanks (s.drop (mark s)) then
      some ([], mark s + blanks (s.drop (mark s))) else none := by
  simp [lineMark]

theorem lineMark_eq_none (h : mark text = 0) : lineMark mark true text = none := by
  rw [lineMark_true, if_neg (by simp [h])]

/-- A mark that is found behind a line end goes with it. -/
theorem Detects.replaceFrom_lineEnd (h : Detects mark starts) (text : List Char) :
    replaceFrom (lineMark mark) 0 true ('\n' :: text) = replaceFrom (lineMark mark) 0 true text ∨
      replaceFrom (lineMark mark) 0 true ('\n' :: text) =
        '\n' :: replaceFrom (lineMark mark) 0 true text := by
  obtain hzero | ⟨hpos, hsucc⟩ := h.lineEnd text
  · exact .inr (replaceFrom_of_eq_none (lineMark_eq_none hzero))
  have hbehind : lineMark mark true ('\n' :: text) =
      (lineMark mark true text).map fun finding ↦ ([], finding.2 + 1) := by
    rw [lineMark_true, lineMark_true, hsucc, List.drop_succ_cons]
    by_cases hblank : 0 < blanks (text.drop (mark text))
    · simp [hpos, hblank, Nat.add_right_comm]
    · simp [hblank]
  cases hfind : lineMark mark true text with
  | none => exact .inr (replaceFrom_of_eq_none (by rw [hbehind, hfind]; rfl))
  | some finding =>
    left
    obtain ⟨kept, width⟩ := finding
    have hfound := hfind
    rw [lineMark_true] at hfound
    split_ifs at hfound with hpos
    obtain ⟨rfl, hwidth⟩ := Prod.mk.inj (Option.some.inj hfound)
    obtain ⟨n, rfl⟩ : ∃ n, width = n + 1 := ⟨width - 1, by omega⟩
    cases text with
    | nil => simp [blanks] at hpos
    | cons c rest =>
      have hskip : replaceFrom (lineMark mark) 0 true (c :: rest) =
          replaceFrom (lineMark mark) n (c == '\n') rest := by
        rw [replaceFrom, hfind]
        rfl
      rw [hskip, replaceFrom, hbehind, hfind]
      rfl

theorem Detects.treats_paragraph (h : Detects mark starts) (tail : List Char)
    (marker : Option Marker) (first : Word) (others : List Word) :
    Treats (lineMark mark) tail (Line.paragraph marker first others).text
      ((Line.paragraph marker first others).without starts).text := by
  obtain ⟨c, rest, hwords, hletter⟩ := exists_wordsText_eq_cons first others
  have hblank : Text.isBlank c = false := Text.isBlank_of_isAlnum (by simp [Text.isAlnum, hletter])
  cases marker with
  | none =>
    refine .stays (lineMark_eq_none ?_)
    rw [Line.text, hwords]
    exact h.other c _ hblank (h.letter c hletter)
  | some marker =>
    by_cases hsign : starts marker.sign = true
    · rw [Line.without, if_pos hsign]
      have hmark := h.marker marker hsign (wordsText first others ++ tail)
      have hfind : lineMark mark true (marker.text ++ ' ' :: (wordsText first others ++ tail)) =
          some ([], (marker.text ++ [' ']).length) := by
        have hspace : blanks (' ' :: (wordsText first others ++ tail)) = 1 := by
          rw [blanks_cons_of_isBlank rfl, hwords, List.cons_append,
            blanks_cons_of_not_isBlank hblank]
        have hpos : 0 < marker.text.length := by
          obtain ⟨rest, hmarker⟩ := marker.exists_text_eq_cons
          simp [hmarker]
        rw [lineMark_true, hmark, List.drop_left, hspace, if_pos ⟨hpos, Nat.one_pos⟩]
        simp
      have htreats : Treats (lineMark mark) tail ((marker.text ++ [' ']) ++ wordsText first others)
          (wordsText first others) :=
        .cut (by simp) (by simp [hwords]) (by simpa using hfind)
      simpa [Line.text] using htreats
    · rw [Line.without, if_neg hsign]
      obtain ⟨rest, hmarker⟩ := marker.exists_text_eq_cons
      have htext : (Line.paragraph (some marker) first others).text =
          marker.sign :: (rest ++ ' ' :: wordsText first others) := by rw [Line.text, hmarker]; rfl
      have hnone := h.other marker.sign (rest ++ ' ' :: (wordsText first others ++ tail))
        (Line.isBlank_of_text_eq_cons htext) (by simpa using hsign)
      exact .stays (lineMark_eq_none (by simpa [Line.text, hmarker] using hnone))

theorem Line.text_eq_nil_iff {line : Line} : line.text = [] ↔ ∃ h, line = .marks [] h := by
  constructor
  · intro hempty
    cases line with
    | paragraph marker first others =>
      obtain ⟨c, rest, hwords, -⟩ := exists_wordsText_eq_cons first others
      cases marker <;> simp [Line.text, hwords] at hempty
    | marks left h =>
      obtain rfl : left = [] := hempty
      exact ⟨h, rfl⟩
  · rintro ⟨h, rfl⟩
    rfl

theorem treats_of_detects (h : Detects mark starts)
    (hmarks : ∀ c, isRuleMark c = true → starts c = false) (tail : List Char) (line : Line)
    (hne : line.text ≠ []) :
    Treats (lineMark mark) tail line.text (line.without starts).text := by
  cases line with
  | paragraph marker first others => exact h.treats_paragraph tail marker first others
  | marks left hleft =>
    obtain ⟨c, rest, rfl⟩ := List.exists_cons_of_ne_nil (l := left) hne
    have hc := hleft c List.mem_cons_self
    exact .stays (lineMark_eq_none (h.other c _ (isBlank_of_isRuleMark hc) (hmarks c hc)))

theorem Laid.lineMark (hlaid : Laid lines last text) (h : Detects mark starts)
    (hmarks : ∀ c, isRuleMark c = true → starts c = false) :
    Laid (lines.map (Line.without starts)) (last.without starts)
      (replaceAll (ReadingTime.lineMark mark) text) :=
  hlaid.replaceAll_of_treats (fun _ ↦ Line.without starts) (lineMark_false mark)
    h.replaceFrom_lineEnd (fun _ line hempty ↦ by
      obtain ⟨h, rfl⟩ := Line.text_eq_nil_iff.1 hempty
      rfl)
    fun _ line tail _ hne ↦ treats_of_detects h hmarks tail line hne

/-- A lone dash or star is a bullet if a line end is behind it. -/
theorem replaceFrom_bulletMark_lone (hc : isBulletSign c = true) (h : Follows true tail) :
    replaceFrom (lineMark bulletMark) 0 true ([c] ++ tail) =
      replaceFrom (lineMark bulletMark) 0 true (tail.dropWhile (· == '\n')) := by
  obtain ⟨n, htail, hblanks⟩ := h.exists_lineEnds
  have hmark : bulletMark (c :: tail) = 1 := by
    rw [bulletMark_cons_of_not_isBlank (isBlank_of_isBulletSign hc), if_pos hc]
  have hspace : blanks tail = n + 1 := by rw [blanks, hblanks, List.length_replicate]
  have hfind : lineMark bulletMark true (c :: tail) =
      some ([], (c :: List.replicate (n + 1) '\n').length) := by
    rw [lineMark_true, hmark, List.drop_one, List.tail_cons, hspace, if_pos (by omega)]
    simp [Nat.add_comm]
  have hsplit : c :: tail = (c :: List.replicate (n + 1) '\n') ++ tail.dropWhile (· == '\n') := by
    rw [List.cons_append, ← htail]
  rw [hsplit] at hfind
  rw [List.singleton_append, hsplit, replaceFrom_of_eq_some (List.cons_ne_nil _ _) hfind]
  exact congrArg (replaceFrom _ 0 · _) (startsLine_replicate n)

/-- Marks side by side are no bullets. -/
theorem lineMark_bulletMark_marks {left : List Char} (hleft : ∀ c ∈ left, isRuleMark c = true)
    (hne : left ≠ []) (hlone : ¬(left = ['-'] ∨ left = ['*'])) (tail : List Char) :
    lineMark bulletMark true (left ++ tail) = none := by
  obtain ⟨c, rest, rfl⟩ := List.exists_cons_of_ne_nil hne
  have hc := hleft c List.mem_cons_self
  rw [lineMark_true, List.cons_append, bulletMark_cons_of_not_isBlank (isBlank_of_isRuleMark hc)]
  by_cases hsign : isBulletSign c = true
  · cases rest with
    | nil =>
      refine absurd ?_ hlone
      obtain rfl | rfl | rfl := isRuleMark_iff.1 hc
      · exact .inl rfl
      · exact .inr rfl
      · exact absurd hsign (by decide)
    | cons d rest =>
      have hd := isBlank_of_isRuleMark (hleft d (by simp))
      rw [if_pos hsign, List.drop_one, List.tail_cons, List.cons_append,
        blanks_cons_of_not_isBlank hd, if_neg (by simp)]
  · rw [if_neg hsign, if_neg (by simp)]

theorem treats_bulletMark {ended : Bool} (h : Follows ended tail) (line : Line)
    (hne : line.text ≠ []) :
    Treats (lineMark bulletMark) tail line.text (line.withoutBullet ended).text := by
  cases line with
  | paragraph marker first others =>
    exact detects_bulletMark.treats_paragraph tail marker first others
  | marks left hleft =>
    by_cases hlone : left = ['-'] ∨ left = ['*']
    · cases h with
      | last =>
        rw [Line.withoutBullet, if_neg (by simp)]
        refine .stays ?_
        obtain rfl | rfl := hlone
        · rfl
        · rfl
      | line h =>
        rw [Line.withoutBullet, if_pos ⟨rfl, hlone⟩]
        refine .gone (.inl ?_)
        obtain rfl | rfl := hlone
        · exact replaceFrom_bulletMark_lone rfl (.line h)
        · exact replaceFrom_bulletMark_lone rfl (.line h)
    · rw [Line.withoutBullet, if_neg (by simp [hlone])]
      exact .stays (lineMark_bulletMark_marks hleft hne hlone tail)

theorem Laid.bulletMark (hlaid : Laid lines last text) :
    Laid (lines.map (Line.withoutBullet true)) (last.withoutBullet false)
      (replaceAll (ReadingTime.lineMark ReadingTime.bulletMark) text) :=
  hlaid.replaceAll_of_treats Line.withoutBullet (lineMark_false _)
    detects_bulletMark.replaceFrom_lineEnd
    (fun ended line hempty ↦ by
      obtain ⟨h, rfl⟩ := Line.text_eq_nil_iff.1 hempty
      simp [Line.withoutBullet, Line.text])
    fun ended line tail hfollows hne ↦ treats_bulletMark hfollows line hne

end

/-! ### Rules -/

/-- Removes what is left of a rule, if it is enough for a rule. -/
def Line.withoutRule : Line → Line
  | marks left h => if 3 ≤ left.length then marks [] (by simp) else marks left h
  | line => line

section

variable {left tail : List Char}

theorem rule_false (s : List Char) : rule false s = none := by
  simp [rule]

theorem rule_lineEnd (atLineStart : Bool) (s : List Char) :
    rule atLineStart ('\n' :: s) = none := by
  cases atLineStart
  · exact rule_false _
  · rfl

theorem rule_true (s : List Char) : rule true s =
    if 3 ≤ (s.takeWhile isRuleMark).length then
      (blanksToLineEnd? (s.drop (s.takeWhile isRuleMark).length)).map fun space ↦
        ([], (s.takeWhile isRuleMark).length + space)
    else none := by
  simp only [rule, Bool.true_and, decide_eq_true_eq]
  rfl

theorem rule_eq_none {s : List Char} (h : (s.takeWhile isRuleMark).length < 3) :
    rule true s = none := by
  rw [rule_true, if_neg (Nat.not_le.2 h)]

theorem takeWhile_isRuleMark {ended : Bool} (hleft : ∀ c ∈ left, isRuleMark c = true)
    (h : Follows ended tail) : (left ++ tail).takeWhile isRuleMark = left := by
  rw [List.takeWhile_append_of_pos hleft]
  cases h with
  | last => simp
  | line => simp [isRuleMark]

theorem isRuleMark_of_isAlnum {c : Char} (h : Text.isAlnum c = true) : isRuleMark c = false := by
  rw [isRuleMark, beq_of_apply h (by decide), beq_of_apply h (by decide),
    beq_of_apply h (by decide)]
  rfl

/-- Paragraphs start with one mark of rules at most. -/
theorem length_takeWhile_isRuleMark_le_one (marker : Option Marker) (first : Word)
    (others : List Word) (tail : List Char) :
    (((Line.paragraph marker first others).text ++ tail).takeWhile isRuleMark).length ≤ 1 := by
  have hfirst : ∀ {c rest}, isRuleMark c = false →
      ((c :: rest).takeWhile isRuleMark).length ≤ 1 := by
    intro c rest hc
    rw [List.takeWhile_cons_of_neg (by simp [hc])]
    exact Nat.zero_le 1
  cases marker with
  | none =>
    obtain ⟨c, rest, hwords, hletter⟩ := exists_wordsText_eq_cons first others
    rw [Line.text, hwords]
    exact hfirst (isRuleMark_of_isAlnum (by simp [Text.isAlnum, hletter]))
  | some marker =>
    obtain ⟨rest, hmarker⟩ := marker.exists_text_eq_cons
    cases marker with
    | heading level h =>
      rw [Line.text, hmarker]
      exact hfirst rfl
    | quote => exact hfirst rfl
    | bullet sign h =>
      rw [Line.text, Marker.text, List.singleton_append, List.cons_append, List.cons_append,
        List.takeWhile_cons, List.takeWhile_cons_of_neg (by decide)]
      split_ifs
      · exact le_rfl
      · exact Nat.zero_le 1
    | number digit digits h =>
      exact hfirst (isRuleMark_of_isAlnum (by simp [Text.isAlnum, h digit]))

/-- Behind a rule, the line ends go up to the last one before the next line. -/
theorem Follows.blanksToLineEnd?_eq (h : Follows true tail) : ∃ n,
    blanksToLineEnd? tail = some n ∧
      (tail = List.replicate n '\n' ∨
        tail = List.replicate n '\n' ++ '\n' :: tail.dropWhile (· == '\n')) := by
  obtain ⟨n, htail, hblanks⟩ := h.exists_lineEnds
  unfold blanksToLineEnd?
  rw [hblanks]
  dsimp only
  split_ifs with hlength
  · refine ⟨n + 1, by rw [List.length_replicate], .inl ?_⟩
    have hrest : tail.dropWhile (· == '\n') = [] := by
      have hsplit := congrArg List.length htail
      rw [beq_iff_eq, List.length_replicate] at hlength
      rw [List.length_append, List.length_replicate] at hsplit
      exact List.length_eq_zero_iff.1 (by omega)
    rwa [hrest, List.append_nil] at htail
  · refine ⟨n, ?_, .inr ?_⟩
    · rw [List.reverse_replicate, List.replicate_succ, List.dropWhile_cons_of_neg (by decide)]
      exact congrArg some List.length_replicate
    · rwa [List.replicate_succ', List.append_assoc] at htail

theorem replaceFrom_rule_marks (hleft : ∀ c ∈ left, isRuleMark c = true) (hlong : 3 ≤ left.length)
    (h : Follows true tail) :
    replaceFrom rule 0 true (left ++ tail) =
        replaceFrom rule 0 true (tail.dropWhile (· == '\n')) ∨
      replaceFrom rule 0 true (left ++ tail) =
        '\n' :: replaceFrom rule 0 true (tail.dropWhile (· == '\n')) := by
  obtain ⟨n, hspace, htail⟩ := h.blanksToLineEnd?_eq
  have hfind : rule true (left ++ tail) = some ([], (left ++ List.replicate n '\n').length) := by
    rw [rule_true, takeWhile_isRuleMark hleft h, if_pos hlong, List.drop_left, hspace]
    simp
  have hne : left ++ List.replicate n '\n' ≠ [] := by
    rw [ne_eq, List.append_eq_nil_iff]
    rintro ⟨rfl, -⟩
    simp at hlong
  obtain htail | htail := htail
  · have hrest : tail.dropWhile (· == '\n') = [] := by
      rw [htail, List.dropWhile_eq_nil_iff]
      simp
    rw [← htail] at hfind hne
    have hall : rule true ((left ++ tail) ++ []) = some ([], (left ++ tail).length) := by
      rwa [List.append_nil]
    have heq := replaceFrom_of_eq_some hne hall
    rw [List.append_nil] at heq
    exact .inl (by rw [heq, hrest]; rfl)
  · have hsplit : left ++ tail =
        (left ++ List.replicate n '\n') ++ '\n' :: tail.dropWhile (· == '\n') := by
      rw [List.append_assoc, ← htail]
    rw [hsplit] at hfind
    rw [hsplit, replaceFrom_of_eq_some hne hfind, List.nil_append,
      replaceFrom_of_eq_none (rule_lineEnd _ _)]
    exact .inr rfl

theorem treats_rule {ended : Bool} (h : Follows ended tail) (line : Line) :
    Treats rule tail line.text line.withoutRule.text := by
  cases line with
  | paragraph marker first others =>
    have := length_takeWhile_isRuleMark_le_one marker first others tail
    exact .stays (rule_eq_none (by omega))
  | marks left hleft =>
    by_cases hlong : 3 ≤ left.length
    · rw [Line.withoutRule, if_pos hlong]
      cases h with
      | last =>
        have hfind : rule true (left ++ []) = some ([], left.length) := by
          rw [rule_true, takeWhile_isRuleMark hleft .last, if_pos hlong, List.drop_left]
          rfl
        have hne : left ≠ [] := by
          rintro rfl
          simp at hlong
        exact .gone (.inl (replaceFrom_of_eq_some hne hfind))
      | line h => exact .gone (replaceFrom_rule_marks hleft hlong (.line h))
    · rw [Line.withoutRule, if_neg hlong]
      refine .stays (rule_eq_none ?_)
      rw [Line.text, takeWhile_isRuleMark hleft h]
      omega

theorem Laid.rule (hlaid : Laid lines last text) :
    Laid (lines.map Line.withoutRule) last.withoutRule (replaceAll ReadingTime.rule text) :=
  hlaid.replaceAll_of_treats (fun _ ↦ Line.withoutRule) rule_false
    (fun _ ↦ .inr (replaceFrom_of_eq_none (rule_lineEnd _ _)))
    (fun _ line hempty ↦ by
      obtain ⟨h, rfl⟩ := Line.text_eq_nil_iff.1 hempty
      rfl)
    fun _ line _ hfollows _ ↦ treats_rule hfollows line

end

/-! ### All replacements -/

namespace Line

/-- Takes marks of emphasis from a rule, those of two characters first. -/
def withoutEmphasis (line : Line) : Line :=
  (((line.unwrapped ['*', '*'] (by simp)).unwrapped ['_', '_'] (by simp)).unwrapped ['*']
    (by simp)).unwrapped ['_'] (by simp)

/-- What is left of a line in the end. -/
def stripped (ended : Bool) (line : Line) : Line :=
  ((((line.without (· == '#')).withoutEmphasis.without (· == '>')).withoutRule.withoutBullet
    ended).without Text.isAnyDigit)

end Line

theorem not_isAnyDigit_of_isRuleMark {c : Char} (h : isRuleMark c = true) :
    Text.isAnyDigit c = false := by
  obtain rfl | rfl | rfl := isRuleMark_iff.1 h
  · decide
  · decide
  · decide

theorem Laid.withoutEmphasis (h : Laid lines last text) :
    Laid (lines.map Line.withoutEmphasis) last.withoutEmphasis
      (replaceAll (ReadingTime.emphasis ['_']) (replaceAll (ReadingTime.emphasis ['*'])
        (replaceAll (ReadingTime.emphasis ['_', '_'])
          (replaceAll (ReadingTime.emphasis ['*', '*']) text)))) := by
  have hstrong := (h.emphasis ⟨'*', by decide⟩ (List.cons_ne_nil '*' ['*']) (by decide)).emphasis
    ⟨'_', by decide⟩ (List.cons_ne_nil '_' ['_']) (by decide)
  have hweak := (hstrong.emphasis ⟨'*', by decide⟩ (List.cons_ne_nil '*' []) (by decide)).emphasis
    ⟨'_', by decide⟩ (List.cons_ne_nil '_' []) (by decide)
  simp only [List.map_map] at hweak
  exact hweak

/-- Without the marks of its markup, a text of lines is one of what is left of them. -/
theorem Laid.stripMarkup (h : Laid lines last text) :
    Laid (lines.map (Line.stripped true)) (last.stripped false)
      (ReadingTime.stripMarkup text) := by
  have htag : replaceAll tag text = text :=
    h.replaceAll_eq (c := '<') (by decide) fun _ _ hc ↦ enclosed_of_notMem (by simp) hc
  have himage : replaceAll (link ['!', '[']) text = text :=
    h.replaceAll_eq (c := '[') (by decide) fun _ _ hc ↦ by
      rw [link, enclosed_of_notMem (by simp) hc]
      rfl
  have hlink : replaceAll (link ['[']) text = text :=
    h.replaceAll_eq (c := '[') (by decide) fun _ _ hc ↦ by
      rw [link, enclosed_of_notMem (by simp) hc]
      rfl
  have hheading := h.lineMark detects_headingMark fun c hc ↦ beq_of_apply hc (by decide)
  have hemphasis := hheading.withoutEmphasis
  have hfence : replaceAll (fun _ ↦ enclosed true false ['\x60', '\x60', '\x60']
      ['\x60', '\x60', '\x60']) _ = _ :=
    hemphasis.replaceAll_eq (c := '\x60') (by decide) fun _ _ hc ↦ enclosed_of_notMem (by simp) hc
  have hcode : replaceAll (fun _ ↦ enclosed true true ['\x60'] ['\x60']) _ = _ :=
    hemphasis.replaceAll_eq (c := '\x60') (by decide) fun _ _ hc ↦ enclosed_of_notMem (by simp) hc
  have hquote := hemphasis.lineMark detects_quoteMark fun c hc ↦ beq_of_apply hc (by decide)
  have hnumber := hquote.rule.bulletMark.lineMark detects_numberMark
    fun c hc ↦ not_isAnyDigit_of_isRuleMark hc
  rw [ReadingTime.stripMarkup, replacements]
  simp only [List.foldl_cons, List.foldl_nil]
  rw [htag, himage, hlink, hfence, hcode]
  simp only [List.map_map] at hnumber
  exact hnumber

end Galley.ReadingTime
