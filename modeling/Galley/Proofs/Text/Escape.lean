import Mathlib
import Galley.Text.Blank
import Galley.Text.Escape

/-!
Escaped text. Reading it back gives the text (`unescape_escapeText`, `unescape_escapeAttribute`), no
character in it could be taken for markup, and blanks stay where they are, so that trimming a text
before it is escaped or after makes no difference (`trim_escapeText`).
-/

set_option autoImplicit false
set_option relaxedAutoImplicit false

namespace Galley.Text

/-! ### Reading back -/

theorem unescapeFrom_skip (front rest : List Char) :
    unescapeFrom front.length (front ++ rest) = unescapeFrom 0 rest := by
  induction front with
  | nil => rfl
  | cons c front ih => simpa [unescapeFrom] using ih

theorem unescapeFrom_cons {c : Char} (hc : c ≠ '&') (rest : List Char) :
    unescapeFrom 0 (c :: rest) = c :: unescapeFrom 0 rest := by
  rw [unescapeFrom, if_neg hc]

/-- A reference is replaced by what it stands for. -/
theorem unescapeFrom_reference {c : Char} (name : List Char)
    (hname : name.all fun c ↦ c != ';' && c != '&') (hc : referenceChar? name = some c)
    (rest : List Char) :
    unescapeFrom 0 ('&' :: name ++ ';' :: rest) = c :: unescapeFrom 0 rest := by
  have hbody : (name ++ ';' :: rest).takeWhile (fun c ↦ c != ';' && c != '&') = name := by
    rw [List.takeWhile_append_of_pos (by simpa using hname)]
    simp
  have hreference : reference? (name ++ ';' :: rest) = some (c, name.length + 1) := by
    simp only [reference?, hbody, List.drop_left, hc, Option.map_some]
  have hskip := unescapeFrom_skip (name ++ [';']) rest
  simp only [List.length_append, List.length_singleton, List.append_assoc,
    List.singleton_append] at hskip
  rw [List.cons_append, unescapeFrom, if_pos rfl, hreference]
  exact congrArg (c :: ·) hskip

theorem unescapeFrom_escapeTextChar (c : Char) (rest : List Char) :
    unescapeFrom 0 (escapeTextChar c ++ rest) = c :: unescapeFrom 0 rest := by
  unfold escapeTextChar
  split_ifs with hamp hlt hgt
  · rw [hamp]
    exact unescapeFrom_reference ['a', 'm', 'p'] rfl rfl rest
  · rw [hlt]
    exact unescapeFrom_reference ['l', 't'] rfl rfl rest
  · rw [hgt]
    exact unescapeFrom_reference ['g', 't'] rfl rfl rest
  · exact unescapeFrom_cons hamp rest

theorem unescapeFrom_escapeAttributeChar (c : Char) (rest : List Char) :
    unescapeFrom 0 (escapeAttributeChar c ++ rest) = c :: unescapeFrom 0 rest := by
  unfold escapeAttributeChar
  split_ifs with hquote
  · rw [hquote]
    exact unescapeFrom_reference ['q', 'u', 'o', 't'] rfl rfl rest
  · exact unescapeFrom_escapeTextChar c rest

/-- Reading escaped text back gives the text. -/
@[simp] theorem unescape_escapeText (s : List Char) : unescape (escapeText s) = s := by
  induction s with
  | nil => rfl
  | cons c s ih =>
    rw [unescape, escapeText, List.flatMap_cons, unescapeFrom_escapeTextChar]
    exact congrArg (c :: ·) ih

/-- Reading an escaped value back gives the value. -/
@[simp] theorem unescape_escapeAttribute (s : List Char) : unescape (escapeAttribute s) = s := by
  induction s with
  | nil => rfl
  | cons c s ih =>
    rw [unescape, escapeAttribute, List.flatMap_cons, unescapeFrom_escapeAttributeChar]
    exact congrArg (c :: ·) ih

/-! ### Characters of escaped text -/

@[simp] theorem escapeText_append (s t : List Char) :
    escapeText (s ++ t) = escapeText s ++ escapeText t := List.flatMap_append

/-- The characters of the references that escaping writes. -/
def referenceChars : List Char := ['&', 'a', 'm', 'p', 'l', 't', 'g', 'q', 'u', 'o', ';']

/-- The characters of an escaped character are of a reference, or the character itself. -/
theorem mem_escapeTextChar {c d : Char} (h : d ∈ escapeTextChar c) :
    d ∈ referenceChars ∨ d = c ∧ c ≠ '<' ∧ c ≠ '>' := by
  unfold escapeTextChar at h
  split_ifs at h with hamp hlt hgt
  · have hsubset : ['&', 'a', 'm', 'p', ';'] ⊆ referenceChars := by simp [referenceChars]
    exact .inl (hsubset h)
  · have hsubset : ['&', 'l', 't', ';'] ⊆ referenceChars := by simp [referenceChars]
    exact .inl (hsubset h)
  · have hsubset : ['&', 'g', 't', ';'] ⊆ referenceChars := by simp [referenceChars]
    exact .inl (hsubset h)
  · exact .inr ⟨by simpa using h, hlt, hgt⟩

/-- What holds of the characters of references and of the characters of a text that are not of
markup holds of the characters of the escaped text. -/
theorem forall_mem_escapeText {good : Char → Prop} (hreference : ∀ c ∈ referenceChars, good c)
    {s : List Char} (h : ∀ c ∈ s, c ≠ '<' → c ≠ '>' → good c) : ∀ c ∈ escapeText s, good c := by
  intro d hd
  obtain ⟨c, hc, hd⟩ := List.mem_flatMap.1 hd
  rcases mem_escapeTextChar hd with hd | ⟨rfl, hlt, hgt⟩
  · exact hreference d hd
  · exact h d hc hlt hgt

theorem forall_mem_escapeAttribute {good : Char → Prop}
    (hreference : ∀ c ∈ referenceChars, good c) {s : List Char}
    (h : ∀ c ∈ s, c ≠ '<' → c ≠ '>' → c ≠ '"' → good c) : ∀ c ∈ escapeAttribute s, good c := by
  intro d hd
  obtain ⟨c, hc, hd⟩ := List.mem_flatMap.1 hd
  unfold escapeAttributeChar at hd
  split_ifs at hd with hquote
  · have hsubset : ['&', 'q', 'u', 'o', 't', ';'] ⊆ referenceChars := by simp [referenceChars]
    exact hreference d (hsubset hd)
  · rcases mem_escapeTextChar hd with hd | ⟨rfl, hlt, hgt⟩
    · exact hreference d hd
    · exact h d hc hlt hgt hquote

/-! ### Blanks -/

theorem escapeTextChar_of_isBlank {c : Char} (hc : isBlank c = true) : escapeTextChar c = [c] := by
  unfold escapeTextChar
  split_ifs with hamp hlt hgt
  · simp [hamp, isBlank] at hc
  · simp [hlt, isBlank] at hc
  · simp [hgt, isBlank] at hc
  · rfl

theorem isBlank_of_mem_escapeTextChar {c d : Char} (hc : isBlank c = false)
    (hd : d ∈ escapeTextChar c) : isBlank d = false := by
  rcases mem_escapeTextChar hd with hd | ⟨rfl, -, -⟩
  · have hnone : ∀ c ∈ referenceChars, isBlank c = false := by simp [referenceChars, isBlank]
    exact hnone d hd
  · exact hc

theorem escapeTextChar_ne_nil (c : Char) : escapeTextChar c ≠ [] := by
  unfold escapeTextChar
  split_ifs <;> simp

/-- Blanks at the front may be dropped before or after each character is written in another way, if
blanks stay and what is written for other characters has no blank in it. -/
theorem dropWhile_isBlank_flatMap {f : Char → List Char}
    (hblank : ∀ c, isBlank c = true → f c = [c])
    (hother : ∀ c, isBlank c = false → ∃ d rest, f c = d :: rest ∧ isBlank d = false)
    (s : List Char) : (s.flatMap f).dropWhile isBlank = (s.dropWhile isBlank).flatMap f := by
  induction s with
  | nil => rfl
  | cons c s ih =>
    cases hc : isBlank c with
    | true =>
      rw [List.flatMap_cons, hblank c hc, List.singleton_append, List.dropWhile_cons_of_pos hc,
        List.dropWhile_cons_of_pos hc, ih]
    | false =>
      obtain ⟨d, rest, hf, hd⟩ := hother c hc
      rw [List.dropWhile_cons_of_neg (by simp [hc]), List.flatMap_cons, hf, List.cons_append,
        List.dropWhile_cons_of_neg (by simp [hd])]

theorem trimStart_escapeText (s : List Char) :
    trimStart (escapeText s) = escapeText (trimStart s) := by
  refine dropWhile_isBlank_flatMap (fun c ↦ escapeTextChar_of_isBlank) (fun c hc ↦ ?_) s
  obtain ⟨d, rest, hchar⟩ := List.exists_cons_of_ne_nil (escapeTextChar_ne_nil c)
  exact ⟨d, rest, hchar, isBlank_of_mem_escapeTextChar hc (by simp [hchar])⟩

theorem trimEnd_escapeText (s : List Char) : trimEnd (escapeText s) = escapeText (trimEnd s) := by
  have hreverse (s : List Char) :
      (escapeText s).reverse = s.reverse.flatMap fun c ↦ (escapeTextChar c).reverse := by
    simp [escapeText, List.reverse_flatMap, Function.comp_def]
  have hdrop : ((escapeText s).reverse.dropWhile isBlank) =
      (s.reverse.dropWhile isBlank).flatMap fun c ↦ (escapeTextChar c).reverse := by
    rw [hreverse]
    refine dropWhile_isBlank_flatMap (fun c hc ↦ ?_) (fun c hc ↦ ?_) s.reverse
    · rw [escapeTextChar_of_isBlank hc]
      rfl
    · obtain ⟨d, rest, hchar⟩ := List.exists_cons_of_ne_nil
        (List.reverse_ne_nil_iff.2 (escapeTextChar_ne_nil c))
      have hmem : d ∈ (escapeTextChar c).reverse := by simp [hchar]
      exact ⟨d, rest, hchar, isBlank_of_mem_escapeTextChar hc (by simpa using hmem)⟩
  rw [trimEnd, hdrop, trimEnd, ← List.reverse_reverse (s.reverse.dropWhile isBlank), ← hreverse]
  simp

/-- A text may be trimmed before it is escaped or after. -/
theorem trim_escapeText (s : List Char) : trim (escapeText s) = escapeText (trim s) := by
  rw [trim, trimStart_escapeText, trimEnd_escapeText, trim]

/-- Trimming leaves nothing of a text if and only if it is blank. -/
theorem trim_eq_nil_iff {s : List Char} : trim s = [] ↔ isBlankText s = true := by
  have hdrop (t : List Char) : t.dropWhile isBlank = [] ↔ ∀ c ∈ t, isBlank c = true :=
    List.dropWhile_eq_nil_iff
  rw [isBlankText, List.all_eq_true, ← hdrop, trim, trimEnd, List.reverse_eq_nil_iff, hdrop]
  constructor
  · intro hblank
    rw [trimStart] at hblank
    by_contra hne
    have hhead := List.head_dropWhile_not isBlank hne
    rw [hblank _ (List.mem_reverse.2 (List.head_mem hne))] at hhead
    exact absurd hhead (by simp)
  · intro hnil
    simp [trimStart, hnil]

theorem unescape_ne_nil {s : List Char} (hs : s ≠ []) : unescape s ≠ [] := by
  obtain ⟨c, rest, rfl⟩ := List.exists_cons_of_ne_nil hs
  unfold unescape unescapeFrom
  split_ifs
  · split <;> simp
  · simp

end Galley.Text
