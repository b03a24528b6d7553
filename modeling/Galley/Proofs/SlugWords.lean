import Mathlib
import Galley.Proofs.Slug
import Galley.Proofs.Text.Casing
import Galley.Proofs.Text.Words

/-!
What the slug of a text is: the letters and digits that the text in lower case has between two
breaks make a word, and the words are joined by hyphens (`slugify_eq_intercalate`). The slug is read
off in one pass, which remembers a break until a character is kept. A slug consists of its own
words, so that the slug of a slug is the slug itself (`slugify_of_isSlug`).
-/

set_option autoImplicit false
set_option relaxedAutoImplicit false

namespace Galley

/-- Small ASCII letters and digits. -/
def isSlugLetter (c : Char) : Bool := ('a' ≤ c && c ≤ 'z') || ('0' ≤ c && c ≤ '9')

/-- What is kept of the pieces between breaks; nothing may be kept of a piece. -/
def slugPieces (text : List Char) : List (List Char) :=
  (Text.splitBy isSlugBreak text).map (·.filter isSlugLetter)

/-- The words of the slug of a text. -/
def slugWords (text : List Char) : List (List Char) :=
  (slugPieces (Text.lower text)).filter (!·.isEmpty)

/-- A word of a slug. -/
def IsSlugWord (word : List Char) : Prop := word ≠ [] ∧ ∀ c ∈ word, isSlugLetter c = true

/-- A text of one word, or of words with single hyphens between them. -/
inductive IsSlug : List Char → Prop
  | word {word : List Char} (hword : IsSlugWord word) : IsSlug word
  | hyphen {word rest : List Char} (hword : IsSlugWord word) (hrest : IsSlug rest) :
    IsSlug (word ++ '-' :: rest)

/-! ### Characters -/

theorem isSlugLetter_eq_isAlnum {c : Char} (hc : c.isUpper = false) :
    isSlugLetter c = Text.isAlnum c := by
  have hcapital : ('A' ≤ c && c ≤ 'Z') = false := by
    rw [← hc, Char.isUpper, Bool.decide_and]
    rfl
  rw [Text.isAlnum, Text.isLetter, hcapital, Bool.or_false]
  rfl

theorem isSlugLetter_iff {c : Char} : isSlugLetter c = true ↔
    97 ≤ c.toNat ∧ c.toNat ≤ 122 ∨ 48 ≤ c.toNat ∧ c.toNat ≤ 57 := by
  simp [isSlugLetter, Char.le_def, UInt32.le_iff_toNat_le]

theorem isSlugBreak_eq_false {c : Char} (hc : isSlugLetter c = true) : isSlugBreak c = false := by
  have hne {d : Char} (hd : isSlugLetter d = false) : c ≠ d := by
    rintro rfl
    exact Bool.false_ne_true (hd.symm.trans hc)
  have hblank : Text.isBlank c = false := by
    rw [isSlugLetter_iff] at hc
    simp only [Text.isBlank, Bool.or_eq_false_iff, Bool.and_eq_false_iff, decide_eq_false_iff_not,
      beq_eq_false_iff_ne]
    omega
  simp [isSlugBreak, hblank, hne (show isSlugLetter '_' = false by decide),
    hne (show isSlugLetter '-' = false by decide)]

/-! ### Pieces -/

section

variable {c : Char} {text : List Char}

theorem slugPieces_ne_nil (text : List Char) : slugPieces text ≠ [] := by
  simpa [slugPieces] using Text.splitBy_ne_nil isSlugBreak text

theorem slugPieces_cons_of_isSlugBreak (hc : isSlugBreak c = true) :
    slugPieces (c :: text) = [] :: slugPieces text := by
  simp [slugPieces, Text.splitBy, hc]

/-- A character that does not break goes to the first piece if it is kept. -/
theorem slugPieces_cons {piece : List Char} {pieces : List (List Char)}
    (hc : isSlugBreak c = false) (htext : slugPieces text = piece :: pieces) :
    slugPieces (c :: text) = (if isSlugLetter c then c :: piece else piece) :: pieces := by
  obtain ⟨front, back, hsplit, rfl, rfl⟩ := List.map_eq_cons_iff.1 htext
  simp [slugPieces, Text.splitBy, hc, hsplit, List.filter_cons]

/-- The words among pieces, each behind a hyphen. -/
def hyphened (pieces : List (List Char)) : List Char :=
  (pieces.filter (!·.isEmpty)).flatMap ('-' :: ·)

theorem hyphened_cons_cons (piece : List Char) (pieces : List (List Char)) :
    hyphened ((c :: piece) :: pieces) = '-' :: c :: piece ++ hyphened pieces :=
  rfl

theorem intercalate_filter_cons (piece : List Char) (pieces : List (List Char)) :
    ['-'].intercalate (((c :: piece) :: pieces).filter (!·.isEmpty)) =
      c :: piece ++ hyphened pieces := by
  have hfold (word : List Char) (words : List (List Char)) :
      ['-'].intercalate (word :: words) = word ++ words.flatMap ('-' :: ·) := by
    induction words generalizing word with
    | nil => simp
    | cons next words ih => rw [List.intercalate_cons_cons, ih]; simp
  exact hfold _ _

/-- The pass through a text that holds no capital letters, in each of its three states: behind a
break that is remembered, within a word, and before the first word. -/
theorem slugRest_eq {piece : List Char} {pieces : List (List Char)}
    (htext : ∀ c ∈ text, c.isUpper = false) (hpieces : slugPieces text = piece :: pieces) :
    slugRest true true text = hyphened (piece :: pieces) ∧
      slugRest true false text = piece ++ hyphened pieces ∧
      slugRest false false text = ['-'].intercalate ((piece :: pieces).filter (!·.isEmpty)) := by
  induction text generalizing piece pieces with
  | nil =>
    obtain ⟨rfl, rfl⟩ : [] = piece ∧ [] = pieces := by
      simpa [slugPieces, Text.splitBy] using hpieces
    exact ⟨rfl, rfl, rfl⟩
  | cons c rest ih =>
    obtain ⟨front, back, hrest⟩ := List.exists_cons_of_ne_nil (slugPieces_ne_nil rest)
    obtain ⟨hbroken, hwithin, hbefore⟩ :=
      ih (fun d hd ↦ htext d (List.mem_cons_of_mem c hd)) hrest
    have halnum : isSlugLetter c = Text.isAlnum c :=
      isSlugLetter_eq_isAlnum (htext c List.mem_cons_self)
    simp only [slugRest, ← halnum]
    by_cases hbreak : isSlugBreak c = true
    · rw [slugPieces_cons_of_isSlugBreak hbreak, hrest] at hpieces
      obtain ⟨rfl, rfl⟩ := List.cons.inj hpieces
      simp only [hbreak, ↓reduceIte]
      exact ⟨hbroken, hbroken, hbefore⟩
    · rw [Bool.not_eq_true] at hbreak
      rw [slugPieces_cons hbreak hrest] at hpieces
      obtain ⟨rfl, rfl⟩ := List.cons.inj hpieces
      by_cases hkept : isSlugLetter c = true
      · simp only [hbreak, hkept, hwithin, Bool.false_eq_true, ↓reduceIte]
        refine ⟨?_, rfl, ?_⟩
        · rw [hyphened_cons_cons]
          rfl
        · rw [intercalate_filter_cons]
          rfl
      · simp only [hbreak, hkept, Bool.false_eq_true, ↓reduceIte]
        exact ⟨hbroken, hwithin, hbefore⟩

end

/-- The slug of a text is made of the words of its pieces. -/
theorem slugify_eq_intercalate (text : List Char) :
    slugify text = ['-'].intercalate (slugWords text) := by
  obtain ⟨piece, pieces, hpieces⟩ :=
    List.exists_cons_of_ne_nil (slugPieces_ne_nil (Text.lower text))
  have hpass := slugRest_eq (fun c hc ↦ Text.isUpper_of_mem_lower hc) hpieces
  rw [slugify, hpass.2.2, slugWords, hpieces]

/-! ### Slugs -/

theorem isSlug_intercalate {words : List (List Char)} (hne : words ≠ [])
    (hwords : ∀ word ∈ words, IsSlugWord word) : IsSlug (['-'].intercalate words) := by
  induction words with
  | nil => exact absurd rfl hne
  | cons word rest ih =>
    have hword : IsSlugWord word := hwords word List.mem_cons_self
    cases rest with
    | nil =>
      rw [List.intercalate_singleton]
      exact .word hword
    | cons next rest =>
      rw [List.intercalate_cons_cons, List.append_assoc, List.singleton_append]
      exact .hyphen hword (ih (List.cons_ne_nil next rest)
        fun other hother ↦ hwords other (List.mem_cons_of_mem word hother))

theorem isSlugWord_of_mem_slugWords {text word : List Char} (hword : word ∈ slugWords text) :
    IsSlugWord word := by
  obtain ⟨hpiece, hne⟩ := List.mem_filter.1 hword
  obtain ⟨piece, -, rfl⟩ := List.mem_map.1 hpiece
  exact ⟨by simpa using hne, fun c hc ↦ (List.mem_filter.1 hc).2⟩

theorem slugify_eq_nil_or_isSlug (text : List Char) :
    slugify text = [] ∨ IsSlug (slugify text) := by
  rw [slugify_eq_intercalate]
  by_cases hwords : slugWords text = []
  · exact .inl (by rw [hwords, List.intercalate_nil])
  · exact .inr (isSlug_intercalate hwords fun word hword ↦ isSlugWord_of_mem_slugWords hword)

theorem slugPieces_of_isSlugWord {word : List Char} (hword : IsSlugWord word) :
    slugPieces word = [word] := by
  rw [slugPieces, Text.splitBy_of_forall_not fun c hc ↦ isSlugBreak_eq_false (hword.2 c hc),
    List.map_singleton, List.filter_eq_self.2 hword.2]

theorem slugPieces_append_hyphen (front back : List Char) :
    slugPieces (front ++ '-' :: back) = slugPieces front ++ slugPieces back := by
  rw [slugPieces, Text.splitBy_append_cons (by decide), List.map_append, slugPieces, slugPieces]

theorem IsSlug.lower_eq {slug : List Char} (h : IsSlug slug) : Text.lower slug = slug := by
  have hletter {c : Char} (hc : isSlugLetter c = true) : c.toNat < 0x80 ∧ c.isUpper = false := by
    rw [isSlugLetter_iff] at hc
    rw [← Bool.not_eq_true, Text.isUpper_eq_true_iff]
    omega
  refine Text.lower_of_forall ?_
  induction h with
  | word hword => exact fun c hc ↦ hletter (hword.2 c hc)
  | hyphen hword hrest ih =>
    intro c hc
    rcases List.mem_append.1 hc with hc | hc
    · exact hletter (hword.2 c hc)
    · rcases List.mem_cons.1 hc with rfl | hc
      · decide
      · exact ih c hc

/-- A slug is made of its own words. -/
theorem IsSlug.intercalate_filter_slugPieces {slug : List Char} (h : IsSlug slug) :
    (slugPieces slug).filter (!·.isEmpty) ≠ [] ∧
      ['-'].intercalate ((slugPieces slug).filter (!·.isEmpty)) = slug := by
  induction h with
  | word hword => simp [slugPieces_of_isSlugWord hword, hword.1]
  | @hyphen word rest hword _ ih =>
    obtain ⟨hne, hrest⟩ := ih
    have hkept : ([word] : List (List Char)).filter (!·.isEmpty) = [word] := by simp [hword.1]
    rw [slugPieces_append_hyphen, slugPieces_of_isSlugWord hword, List.filter_append, hkept]
    refine ⟨List.append_ne_nil_of_left_ne_nil (List.cons_ne_nil word []) _, ?_⟩
    rw [List.singleton_append, List.intercalate_cons_of_ne_nil hne, hrest, List.append_assoc]
    rfl

/-- The slug of a slug is the slug itself. -/
theorem slugify_of_isSlug {slug : List Char} (h : IsSlug slug) : slugify slug = slug := by
  rw [slugify_eq_intercalate, slugWords, h.lower_eq, h.intercalate_filter_slugPieces.2]

theorem slugify_slugify (text : List Char) : slugify (slugify text) = slugify text := by
  rcases slugify_eq_nil_or_isSlug text with hnil | hslug
  · rw [hnil]
    rfl
  · exact slugify_of_isSlug hslug

theorem headingId_eq (text : List Char) :
    headingId text = if slugify text = [] then fallbackHeadingId else slugify text := by
  unfold headingId
  split
  case h_1 hnil => rw [if_pos hnil]
  case h_2 hne => rw [if_neg hne]

theorem headingId_headingId (text : List Char) : headingId (headingId text) = headingId text := by
  have hfallback : slugify fallbackHeadingId = fallbackHeadingId :=
    slugify_of_isSlug (.word ⟨by decide, List.all_eq_true.1 (by decide)⟩)
  rw [headingId_eq text]
  split_ifs with hnil
  · rw [headingId_eq, hfallback]
    rfl
  · rw [headingId_eq, slugify_slugify, if_neg hnil]

/-- The slug of a text is made of the words that the text in lower case has between its breaks. So
it is empty or words with single hyphens between them, and stays as it is when the slug is taken
again; the identifier of a heading does so as well, and is never empty. -/
theorem slug_is_made_of_words (text : List Char) :
    slugify text = ['-'].intercalate (((Text.splitBy isSlugBreak (Text.lower text)).map
        (·.filter isSlugLetter)).filter (!·.isEmpty)) ∧
      (slugify text = [] ∨ IsSlug (slugify text)) ∧
      slugify (slugify text) = slugify text ∧
      headingId (headingId text) = headingId text ∧ headingId text ≠ [] :=
  ⟨slugify_eq_intercalate text, slugify_eq_nil_or_isSlug text, slugify_slugify text,
    headingId_headingId text, headingId_ne_nil text⟩

example : slugify "  Q&A: İ __ Kelvin \u212a ? ".toList = "qa-i-kelvin-k".toList := by
  decide +kernel

end Galley
