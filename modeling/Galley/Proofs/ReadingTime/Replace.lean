import Mathlib
import Galley.ReadingTime

/-!
What a replacement makes of a text, read from left to right: where nothing is found the text stays
as it is, and what is found is passed over (`replaceFrom_of_eq_some`). A replacement that finds
marks at the start of a line only leaves the rest of the line alone. One that finds text between two
equal marks takes the marks away in pairs, within a line (`Unwrapped`).
-/

set_option autoImplicit false
set_option relaxedAutoImplicit false

namespace Galley.ReadingTime

/-! ### From left to right -/

section

variable {find : Bool → List Char → Finding} {atLineStart : Bool} {c : Char}
  {front found kept text : List Char}

/-- Whether a line starts behind a text, given whether one starts in front of it. -/
def startsLine : Bool → List Char → Bool
  | atLineStart, [] => atLineStart
  | _, c :: rest => startsLine (c == '\n') rest

theorem startsLine_of_notMem (hfront : '\n' ∉ front) (hne : front ≠ []) :
    startsLine atLineStart front = false := by
  induction front generalizing atLineStart with
  | nil => exact absurd rfl hne
  | cons c front ih =>
    have hc : (c == '\n') = false :=
      beq_eq_false_iff_ne.2 (List.ne_of_not_mem_cons hfront).symm
    rw [startsLine, hc]
    cases front with
    | nil => rfl
    | cons d front => exact ih (List.not_mem_of_not_mem_cons hfront) (List.cons_ne_nil d front)

theorem startsLine_replicate (n : Nat) :
    startsLine true (List.replicate n '\n') = true := by
  induction n with
  | zero => rfl
  | succ n ih => exact ih

theorem replaceFrom_length (found text : List Char) :
    replaceFrom find found.length atLineStart (found ++ text) =
      replaceFrom find 0 (startsLine atLineStart found) text := by
  induction found generalizing atLineStart with
  | nil => rfl
  | cons c found ih => exact ih

theorem replaceFrom_of_eq_some (hne : found ≠ [])
    (h : find atLineStart (found ++ text) = some (kept, found.length)) :
    replaceFrom find 0 atLineStart (found ++ text) =
      kept ++ replaceFrom find 0 (startsLine atLineStart found) text := by
  cases found with
  | nil => exact absurd rfl hne
  | cons c found =>
    rw [List.cons_append] at h ⊢
    rw [replaceFrom, h]
    exact congrArg (kept ++ ·) (replaceFrom_length found text)

theorem replaceFrom_of_eq_none (h : find atLineStart (c :: text) = none) :
    replaceFrom find 0 atLineStart (c :: text) = c :: replaceFrom find 0 (c == '\n') text := by
  rw [replaceFrom, h]

/-- A text without a character that all findings contain stays as it is. -/
theorem replaceFrom_of_notMem (hfind : ∀ atLineStart text, c ∉ text → find atLineStart text = none)
    (htext : c ∉ text) : replaceFrom find 0 atLineStart text = text := by
  induction text generalizing atLineStart with
  | nil => rfl
  | cons d text ih =>
    rw [replaceFrom_of_eq_none (hfind _ _ htext), ih (List.not_mem_of_not_mem_cons htext)]

/-- Marks at the start of a line are not found within it. -/
theorem replaceFrom_false_append (hfind : ∀ text, find false text = none) (hfront : '\n' ∉ front) :
    replaceFrom find 0 false (front ++ text) = front ++ replaceFrom find 0 false text := by
  induction front with
  | nil => rfl
  | cons c front ih =>
    have hc : (c == '\n') = false :=
      beq_eq_false_iff_ne.2 (List.ne_of_not_mem_cons hfront).symm
    rw [List.cons_append, replaceFrom_of_eq_none (hfind _), hc,
      ih (List.not_mem_of_not_mem_cons hfront), List.cons_append]

end

/-! ### Text between marks -/

section

variable {crosses keeps : Bool} {mark opening closing s inside kept line line' text : List Char}
  {width : Nat} {c m : Char}

theorem before?_eq_some (h : before? crosses mark s = some inside) :
    ∃ back, s = inside ++ (mark ++ back) := by
  induction s generalizing inside with
  | nil =>
    cases mark with
    | nil => exact ⟨[], by cases h; rfl⟩
    | cons c mark => cases h
  | cons c s ih =>
    rw [before?] at h
    split_ifs at h with hmark
    · cases h
      obtain ⟨back, hback⟩ := List.isPrefixOf_iff_prefix.1 hmark
      exact ⟨back, hback.symm⟩
    · obtain ⟨inside, hinside, rfl⟩ := Option.map_eq_some_iff.1 h
      obtain ⟨back, rfl⟩ := ih hinside
      exact ⟨back, rfl⟩

theorem enclosed_eq_some (h : enclosed crosses keeps opening closing s = some (kept, width)) :
    ∃ inside back, s = opening ++ (inside ++ (closing ++ back)) ∧
      before? crosses closing (inside ++ (closing ++ back)) = some inside ∧
      kept = (if keeps then inside else []) ∧
      width = (opening ++ (inside ++ closing)).length := by
  unfold enclosed at h
  by_cases hopening : opening.isPrefixOf s = true
  case neg => simp [hopening] at h
  rw [if_pos hopening] at h
  obtain ⟨rest, rfl⟩ := List.isPrefixOf_iff_prefix.1 hopening
  rw [List.drop_left] at h
  obtain ⟨inside, hinside, hfound⟩ := Option.map_eq_some_iff.1 h
  obtain ⟨back, rfl⟩ := before?_eq_some hinside
  obtain ⟨hkept, rfl⟩ := Prod.mk.inj hfound
  exact ⟨inside, back, rfl, hinside, hkept.symm, by simp [Nat.add_assoc]⟩

theorem enclosed_of_before? {back : List Char}
    (h : before? crosses closing (inside ++ (closing ++ back)) = some inside) :
    enclosed crosses true opening closing (opening ++ (inside ++ (closing ++ back))) =
      some (inside, (opening ++ (inside ++ closing)).length) := by
  unfold enclosed
  rw [if_pos (List.isPrefixOf_iff_prefix.2 (List.prefix_append _ _)), List.drop_left, h]
  simp [Nat.add_assoc]

theorem enclosed_of_notMem (hopening : c ∈ opening) (hs : c ∉ s) :
    enclosed crosses keeps opening closing s = none := by
  rw [enclosed, if_neg]
  intro hfront
  exact hs ((List.isPrefixOf_iff_prefix.1 hfront).subset hopening)

theorem isPrefixOf_line (hmark : '\n' ∉ mark) :
    mark.isPrefixOf (line ++ '\n' :: text) = mark.isPrefixOf line := by
  rw [Bool.eq_iff_iff, List.isPrefixOf_iff_prefix, List.isPrefixOf_iff_prefix]
  refine ⟨fun h ↦ ?_, fun h ↦ h.trans (List.prefix_append _ _)⟩
  -- a prefix that is longer than the line would have a line end
  obtain h | ⟨rest, rfl⟩ := List.prefix_or_prefix_of_prefix h (List.prefix_append _ _)
  · exact h
  · cases rest with
    | nil => simp
    | cons c rest =>
      rw [List.prefix_append_right_inj, List.cons_prefix_cons] at h
      exact absurd (by simp [h.1]) hmark

/-- A search that stays within the line does not see what is behind it. -/
theorem before?_line (hmark : '\n' ∉ mark) (hne : mark ≠ []) (hline : '\n' ∉ line) :
    before? false mark (line ++ '\n' :: text) = before? false mark line := by
  induction line with
  | nil =>
    obtain ⟨c, mark, rfl⟩ := List.exists_cons_of_ne_nil hne
    have hc : c ≠ '\n' := fun hc ↦ hmark (by simp [hc])
    simp [before?, hc]
  | cons c line ih =>
    rw [List.cons_append, before?, before?, ← List.cons_append, isPrefixOf_line hmark,
      ih (List.not_mem_of_not_mem_cons hline)]

theorem enclosed_line (hmark : '\n' ∉ mark) (hne : mark ≠ []) (hline : '\n' ∉ line)
    (text : List Char) :
    enclosed false keeps mark mark (line ++ '\n' :: text) =
      enclosed false keeps mark mark line := by
  unfold enclosed
  rw [isPrefixOf_line hmark]
  by_cases hfront : mark.isPrefixOf line = true
  · obtain ⟨rest, rfl⟩ := List.isPrefixOf_iff_prefix.1 hfront
    rw [List.append_assoc, List.drop_left, List.drop_left, before?_line hmark hne
      fun h ↦ hline (List.mem_append_right mark h)]
  · rw [if_neg hfront, if_neg hfront]

theorem before?_singleton (h : before? crosses [m] s = some inside) : m ∉ inside := by
  induction s generalizing inside with
  | nil => cases h
  | cons c s ih =>
    rw [before?] at h
    split_ifs at h with hm
    · cases h
      exact List.not_mem_nil
    · obtain ⟨inside, hinside, rfl⟩ := Option.map_eq_some_iff.1 h
      have hc : m ≠ c := by
        rintro rfl
        exact hm (by simp)
      exact List.not_mem_cons_of_ne_of_not_mem hc (ih hinside)

theorem notMem_of_before?_eq_none (h : before? false [m] line = none) (hline : '\n' ∉ line) :
    m ∉ line := by
  induction line with
  | nil => exact List.not_mem_nil
  | cons c line ih =>
    have hend : c ≠ '\n' := fun hc ↦ hline (by simp [hc])
    rw [before?] at h
    split_ifs at h with hm
    · simp [hend] at *
    · have hc : m ≠ c := by
        rintro rfl
        exact hm (by simp)
      exact List.not_mem_cons_of_ne_of_not_mem hc
        (ih (Option.map_eq_none_iff.1 h) (List.not_mem_of_not_mem_cons hline))

end

/-! ### Emphasis -/

/-- Takes marks away in pairs from left to right and keeps what stands between them. -/
inductive Unwrapped (mark : List Char) : List Char → List Char → Prop
  | nil : Unwrapped mark [] []
  | char {c : Char} {rest rest' : List Char}
      (h : enclosed false true mark mark (c :: rest) = none) (hrest : Unwrapped mark rest rest') :
      Unwrapped mark (c :: rest) (c :: rest')
  | pair {inside back back' : List Char}
      (h : before? false mark (inside ++ (mark ++ back)) = some inside)
      (hback : Unwrapped mark back back') :
      Unwrapped mark (mark ++ (inside ++ (mark ++ back))) (inside ++ back')

section

variable {mark line line' text : List Char} {c m : Char} {atLineStart : Bool}

/-- Text between two equal marks on a line, of which the text is kept. -/
abbrev emphasis (mark : List Char) (_ : Bool) (s : List Char) : Finding :=
  enclosed false true mark mark s

theorem unwrapped_replaceFrom (hne : mark ≠ []) (atLineStart : Bool) (line : List Char) :
    Unwrapped mark line (replaceFrom (emphasis mark) 0 atLineStart line) := by
  match line with
  | [] => exact .nil
  | c :: rest =>
    cases h : enclosed false true mark mark (c :: rest) with
    | none =>
      rw [replaceFrom_of_eq_none h]
      exact .char h (unwrapped_replaceFrom hne _ rest)
    | some finding =>
      obtain ⟨kept, width⟩ := finding
      obtain ⟨inside, back, hline, hinside, hkept, rfl⟩ := enclosed_eq_some h
      obtain rfl : kept = inside := hkept
      have hlength : back.length ≤ rest.length := by
        have hmark := List.length_pos_of_ne_nil hne
        have hwidth := congrArg List.length hline
        simp only [List.length_cons, List.length_append] at hwidth
        omega
      have hfound : c :: rest = (mark ++ (kept ++ mark)) ++ back := by simp [hline]
      rw [hfound] at h
      rw [hfound, replaceFrom_of_eq_some (by simp [hne]) h, ← hfound, hline]
      exact .pair hinside (unwrapped_replaceFrom hne _ back)
  termination_by line.length

namespace Unwrapped

theorem sublist (h : Unwrapped mark line line') : line'.Sublist line := by
  induction h with
  | nil => exact .slnil
  | char _ _ ih => exact ih.cons_cons _
  | pair _ _ ih =>
    exact ((List.Sublist.refl _).append (ih.trans (List.sublist_append_right _ _))).trans
      (List.sublist_append_right _ _)

/-- What becomes of a line does not depend on what is behind it. -/
theorem replaceFrom_line (h : Unwrapped mark line line') (hne : mark ≠ []) (hmark : '\n' ∉ mark)
    (hline : '\n' ∉ line) (atLineStart : Bool) (text : List Char) :
    replaceFrom (emphasis mark) 0 atLineStart (line ++ '\n' :: text) =
      line' ++ '\n' :: replaceFrom (emphasis mark) 0 true text := by
  induction h generalizing atLineStart with
  | nil =>
    have hnone : enclosed false true mark mark ([] ++ '\n' :: text) = none := by
      rw [enclosed_line hmark hne hline text]
      cases mark with
      | nil => exact absurd rfl hne
      | cons c mark => rfl
    exact replaceFrom_of_eq_none hnone
  | @char c rest rest' hnone _ ih =>
    rw [← enclosed_line hmark hne hline text] at hnone
    rw [List.cons_append, replaceFrom_of_eq_none hnone, ih (List.not_mem_of_not_mem_cons hline),
      List.cons_append]
  | @pair inside back back' hinside _ ih =>
    have hback : '\n' ∉ back := fun h ↦ hline (by simp [h])
    have hfind : enclosed false true mark mark (mark ++ (inside ++ (mark ++ back))) =
        some (inside, (mark ++ (inside ++ mark)).length) := enclosed_of_before? hinside
    rw [← enclosed_line hmark hne hline text] at hfind
    have hfound : mark ++ (inside ++ (mark ++ back)) ++ '\n' :: text =
        (mark ++ (inside ++ mark)) ++ (back ++ '\n' :: text) := by simp
    rw [hfound] at hfind ⊢
    rw [replaceFrom_of_eq_some (by simp [hne]) hfind, ih hback, List.append_assoc]

/-- Other characters stay. -/
theorem count_eq (h : Unwrapped mark line line') (hc : c ∉ mark) :
    line'.count c = line.count c := by
  induction h with
  | nil => rfl
  | char _ _ ih => rw [List.count_cons, List.count_cons, ih]
  | pair _ _ ih => simp [List.count_append, List.count_eq_zero.2 hc, ih]

/-- Marks are taken away in pairs. -/
theorem count_mod_two (h : Unwrapped mark line line') (m : Char) :
    line'.count m % 2 = line.count m % 2 := by
  induction h with
  | nil => rfl
  | char _ _ ih =>
    rw [List.count_cons, List.count_cons]
    omega
  | pair _ _ ih =>
    simp only [List.count_append]
    omega

/-- Of a mark that is one character no more than one stays. -/
theorem count_le_one (h : Unwrapped [m] line line') (hline : '\n' ∉ line) : line'.count m ≤ 1 := by
  induction h with
  | nil => simp
  | @char c rest rest' hnone hrest ih =>
    rw [List.count_cons]
    split_ifs with hc
    · obtain rfl : c = m := by simpa using hc
      have hrest' : c ∉ rest := by
        refine notMem_of_before?_eq_none ?_ (List.not_mem_of_not_mem_cons hline)
        simpa [enclosed] using hnone
      rw [List.count_eq_zero.2 fun h ↦ hrest' (hrest.sublist.subset h)]
    · exact ih (List.not_mem_of_not_mem_cons hline)
  | @pair inside back back' hinside hback ih =>
    rw [List.count_append, List.count_eq_zero.2 (before?_singleton hinside), Nat.zero_add]
    exact ih fun h ↦ hline (by simp [h])

/-- Nothing is taken away where there are too few marks for a pair. -/
theorem eq_of_count_lt (h : Unwrapped mark line line')
    (hcount : line.count m < 2 * mark.count m) : line' = line := by
  induction h with
  | nil => rfl
  | char _ _ ih =>
    rw [ih (by rw [List.count_cons] at hcount; omega)]
  | pair _ _ _ =>
    simp only [List.count_append] at hcount
    omega

end Unwrapped

end

end Galley.ReadingTime
