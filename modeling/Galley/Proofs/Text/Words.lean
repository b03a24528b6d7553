import Galley.Text.Blank

/-!
The pieces and the words of a text that stands before or behind a cut, and of a text without cuts,
and the first and the last piece. A text of which characters are deleted has no more words than the
whole: two words become one, but none becomes two.
-/

set_option autoImplicit false
set_option relaxedAutoImplicit false

namespace Galley.Text

variable {cut : Char → Bool}

theorem splitBy_of_forall_not {text : List Char} (hcut : ∀ c ∈ text, cut c = false) :
    splitBy cut text = [text] := by
  induction text with
  | nil => rfl
  | cons c rest ih =>
    rw [splitBy, if_neg (by simp [hcut c]), ih fun d hd ↦ hcut d (by simp [hd])]

theorem wordsBy_of_forall_not {text : List Char} (hcut : ∀ c ∈ text, cut c = false)
    (hne : text ≠ []) : wordsBy cut text = [text] := by
  simp [wordsBy, splitBy_of_forall_not hcut, hne]

/-- A character that does not cut goes to the end of the last piece. -/
theorem exists_splitBy_concat {c : Char} (hcut : cut c = false) (text : List Char) :
    ∃ front last, splitBy cut text = front ++ [last] ∧
      splitBy cut (text ++ [c]) = front ++ [last ++ [c]] := by
  induction text with
  | nil => exact ⟨[], [], rfl, by simp [splitBy, hcut]⟩
  | cons d rest ih =>
    obtain ⟨front, last, hrest, hconcat⟩ := ih
    rw [List.cons_append, splitBy, splitBy, hrest, hconcat]
    by_cases hd : cut d = true
    · exact ⟨[] :: front, last, by simp [hd], by simp [hd]⟩
    · cases front with
      | nil => exact ⟨[], d :: last, by simp [hd], by simp [hd]⟩
      | cons piece front => exact ⟨(d :: piece) :: front, last, by simp [hd], by simp [hd]⟩

theorem splitBy_append_cons {c : Char} (hcut : cut c = true) (front back : List Char) :
    splitBy cut (front ++ c :: back) = splitBy cut front ++ splitBy cut back := by
  induction front with
  | nil => simp [splitBy, hcut]
  | cons d front ih =>
    rw [List.cons_append, splitBy, splitBy, ih]
    by_cases hd : cut d = true
    · simp [hd]
    · cases hfront : splitBy cut front with
      | nil => exact absurd hfront (splitBy_ne_nil cut front)
      | cons piece pieces => simp [hd]

theorem getElem?_zero_splitBy (cut : Char → Bool) (text : List Char) :
    (splitBy cut text)[0]? = some (text.takeWhile (!cut ·)) := by
  induction text with
  | nil => rfl
  | cons c rest ih =>
    rw [splitBy]
    by_cases hc : cut c = true
    · simp [hc]
    · cases hrest : splitBy cut rest with
      | nil => exact absurd hrest (splitBy_ne_nil cut rest)
      | cons piece pieces =>
        have hpiece : piece = rest.takeWhile (!cut ·) := by simpa [hrest] using ih
        simp [hc, hpiece]

theorem wordsBy_append_cons {c : Char} (hcut : cut c = true) (front back : List Char) :
    wordsBy cut (front ++ c :: back) = wordsBy cut front ++ wordsBy cut back := by
  rw [wordsBy, splitBy_append_cons hcut, List.filter_append, ← wordsBy, ← wordsBy]

/-! ### Words of a text with characters deleted -/

/-- The number of words that start behind the first cut. -/
def laterWords (cut : Char → Bool) (text : List Char) : Nat :=
  ((splitBy cut text).tail.filter (!·.isEmpty)).length

section

variable {c : Char}

theorem wordsBy_cons_of_cut (hcut : cut c = true) (text : List Char) :
    wordsBy cut (c :: text) = wordsBy cut text :=
  wordsBy_append_cons hcut [] text

theorem laterWords_cons_of_cut (hcut : cut c = true) (text : List Char) :
    laterWords cut (c :: text) = (wordsBy cut text).length := by
  rw [laterWords, splitBy, if_pos hcut, List.tail_cons, wordsBy]

/-- A character that does not cut belongs to the first piece. -/
theorem exists_splitBy_cons (hcut : cut c = false) (text : List Char) : ∃ piece pieces,
    splitBy cut text = piece :: pieces ∧ splitBy cut (c :: text) = (c :: piece) :: pieces := by
  cases htext : splitBy cut text with
  | nil => exact absurd htext (splitBy_ne_nil cut text)
  | cons piece pieces => exact ⟨piece, pieces, rfl, by simp [splitBy, hcut, htext]⟩

theorem laterWords_cons_of_not (hcut : cut c = false) (text : List Char) :
    laterWords cut (c :: text) = laterWords cut text := by
  obtain ⟨piece, pieces, htext, hcons⟩ := exists_splitBy_cons hcut text
  rw [laterWords, laterWords, htext, hcons, List.tail_cons, List.tail_cons]

theorem length_wordsBy_cons_of_not (hcut : cut c = false) (text : List Char) :
    (wordsBy cut (c :: text)).length = laterWords cut text + 1 := by
  obtain ⟨piece, pieces, htext, hcons⟩ := exists_splitBy_cons hcut text
  simp [wordsBy, laterWords, htext, hcons]

end

/-- One word at most starts in front of the first cut. -/
theorem length_wordsBy_bounds (cut : Char → Bool) (text : List Char) :
    laterWords cut text ≤ (wordsBy cut text).length ∧
      (wordsBy cut text).length ≤ laterWords cut text + 1 := by
  cases htext : splitBy cut text with
  | nil => exact absurd htext (splitBy_ne_nil cut text)
  | cons piece pieces =>
    rw [wordsBy, laterWords, htext, List.tail_cons, List.filter_cons]
    by_cases hpiece : piece.isEmpty = true
    · simp [hpiece]
    · simp [hpiece]

/-- A text has no more words when characters are deleted from it, be they blanks or not. -/
theorem length_wordsBy_le_of_sublist {text whole : List Char} (h : text.Sublist whole) :
    (wordsBy cut text).length ≤ (wordsBy cut whole).length := by
  -- whether a character starts a word depends on what is in front of it, so the words that start
  -- behind the first cut are counted along
  suffices hboth : (wordsBy cut text).length ≤ (wordsBy cut whole).length ∧
      laterWords cut text ≤ laterWords cut whole from hboth.1
  induction h with
  | slnil => exact ⟨Nat.le_refl _, Nat.le_refl _⟩
  | @cons text whole c _ ih =>
    obtain ⟨hlater, hwords⟩ := length_wordsBy_bounds cut whole
    cases hcut : cut c with
    | true =>
      rw [wordsBy_cons_of_cut hcut, laterWords_cons_of_cut hcut]
      omega
    | false =>
      rw [length_wordsBy_cons_of_not hcut, laterWords_cons_of_not hcut]
      omega
  | @cons_cons text whole c _ ih =>
    cases hcut : cut c with
    | true =>
      simp only [wordsBy_cons_of_cut hcut, laterWords_cons_of_cut hcut]
      exact ⟨ih.1, ih.1⟩
    | false =>
      simp only [length_wordsBy_cons_of_not hcut, laterWords_cons_of_not hcut]
      omega

end Galley.Text
