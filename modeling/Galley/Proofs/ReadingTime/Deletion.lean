import Mathlib
import Galley.Proofs.ReadingTime.Stripping
import Galley.Proofs.Text.Words

/-!
What stripping does to any text, well-formed or not. Every replacement keeps less than it finds, in
one piece (`IsDeletion`), and this is all that is needed of it: replacements of this kind, in
whatever order, only delete characters, and they change a text as soon as one of them finds
something in it (`foldl_replaceAll_eq_self_iff`). Nothing is found in a text without the characters
that marks are made of.
-/

set_option autoImplicit false
set_option relaxedAutoImplicit false

namespace Galley.ReadingTime

/-- What is found is at the front of a text, and less of it is kept, in one piece. -/
def IsDeletion (find : Bool → List Char → Finding) : Prop :=
  ∀ atLineStart s kept width, find atLineStart s = some (kept, width) → ∃ found back,
    s = found ++ back ∧ width = found.length ∧ kept <:+: found ∧ kept.length < found.length

/-- Nothing is found at any place of a text. -/
def FindsNothing (find : Bool → List Char → Finding) (atLineStart : Bool) (s : List Char) : Prop :=
  ∀ front c back, s = front ++ c :: back → find (startsLine atLineStart front) (c :: back) = none

/-! ### One replacement -/

section

variable {find : Bool → List Char → Finding} {atLineStart : Bool} {c : Char} {rest : List Char}

theorem findsNothing_nil : FindsNothing find atLineStart [] := by
  intro front c back hsplit
  simp at hsplit

theorem findsNothing_cons_iff : FindsNothing find atLineStart (c :: rest) ↔
    find atLineStart (c :: rest) = none ∧ FindsNothing find (c == '\n') rest := by
  constructor
  · intro h
    refine ⟨h [] c rest rfl, fun front d back hsplit ↦ ?_⟩
    exact h (c :: front) d back (by rw [hsplit, List.cons_append])
  · rintro ⟨hhere, hrest⟩ front d back hsplit
    cases front with
    | nil =>
      obtain ⟨rfl, rfl⟩ := List.cons.inj hsplit
      exact hhere
    | cons e front =>
      obtain ⟨rfl, htail⟩ := List.cons.inj hsplit
      exact hrest front d back htail

theorem IsDeletion.replaceFrom_sublist (h : IsDeletion find) (atLineStart : Bool)
    (s : List Char) : (replaceFrom find 0 atLineStart s).Sublist s := by
  match s with
  | [] => exact .slnil
  | c :: rest =>
    cases hfind : find atLineStart (c :: rest) with
    | none =>
      rw [replaceFrom_of_eq_none hfind]
      exact (h.replaceFrom_sublist _ rest).cons_cons c
    | some finding =>
      obtain ⟨kept, width⟩ := finding
      obtain ⟨found, back, hsplit, rfl, hkept, hlt⟩ := h _ _ _ _ hfind
      have hlength := congrArg List.length hsplit
      rw [List.length_append, List.length_cons] at hlength
      have hshorter : back.length ≤ rest.length := by omega
      rw [hsplit] at hfind ⊢
      rw [replaceFrom_of_eq_some (List.ne_nil_of_length_pos (by omega)) hfind]
      exact hkept.sublist.append (h.replaceFrom_sublist _ back)
  termination_by s.length

/-- A text stays as it is exactly if nothing is found in it. -/
theorem IsDeletion.replaceFrom_eq_self_iff (h : IsDeletion find) (atLineStart : Bool)
    (s : List Char) : replaceFrom find 0 atLineStart s = s ↔ FindsNothing find atLineStart s := by
  induction s generalizing atLineStart with
  | nil => exact iff_of_true rfl findsNothing_nil
  | cons c rest ih =>
    cases hfind : find atLineStart (c :: rest) with
    | none =>
      rw [replaceFrom_of_eq_none hfind, List.cons_inj_right, ih, findsNothing_cons_iff]
      exact (and_iff_right hfind).symm
    | some finding =>
      obtain ⟨kept, width⟩ := finding
      refine iff_of_false (fun heq ↦ ?_) (fun hnothing ↦ ?_)
      · obtain ⟨found, back, hsplit, rfl, -, hlt⟩ := h _ _ _ _ hfind
        rw [hsplit] at hfind heq
        rw [replaceFrom_of_eq_some (List.ne_nil_of_length_pos (by omega)) hfind] at heq
        have hlength := congrArg List.length heq
        have hle := (h.replaceFrom_sublist (startsLine atLineStart found) back).length_le
        rw [List.length_append, List.length_append] at hlength
        omega
      · cases hfind.symm.trans (hnothing [] c rest rfl)

end

/-! ### Replacements one after the other -/

section

variable {finds : List (Bool → List Char → Finding)}

theorem foldl_replaceAll_sublist (h : ∀ find ∈ finds, IsDeletion find) (s : List Char) :
    (finds.foldl (fun s find ↦ replaceAll find s) s).Sublist s := by
  induction finds generalizing s with
  | nil => exact .refl s
  | cons find finds ih =>
    rw [List.forall_mem_cons] at h
    exact (ih h.2 (replaceAll find s)).trans (h.1.replaceFrom_sublist true s)

/-- What a replacement deletes is not put back by the others. -/
theorem foldl_replaceAll_eq_self_iff (h : ∀ find ∈ finds, IsDeletion find) (s : List Char) :
    finds.foldl (fun s find ↦ replaceAll find s) s = s ↔
      ∀ find ∈ finds, FindsNothing find true s := by
  induction finds generalizing s with
  | nil => simp
  | cons find finds ih =>
    rw [List.forall_mem_cons] at h
    rw [List.foldl_cons, List.forall_mem_cons, ← h.1.replaceFrom_eq_self_iff true s, ← ih h.2 s]
    constructor
    · intro heq
      have hback := foldl_replaceAll_sublist h.2 (replaceAll find s)
      rw [heq] at hback
      have hfirst : replaceAll find s = s := (h.1.replaceFrom_sublist true s).antisymm hback
      rw [hfirst] at heq
      exact ⟨hfirst, heq⟩
    · rintro ⟨hfirst, heq⟩
      rw [replaceAll, hfirst, heq]

end

/-! ### The replacements of markup -/

section

variable {crosses keeps : Bool} {opening closing s : List Char} {mark : List Char → Nat}

theorem isDeletion_enclosed (hopening : opening ≠ []) :
    IsDeletion fun _ ↦ enclosed crosses keeps opening closing := by
  intro _ s kept width hfind
  obtain ⟨inside, back, rfl, -, rfl, rfl⟩ := enclosed_eq_some hfind
  have hpos := List.length_pos_of_ne_nil hopening
  refine ⟨opening ++ (inside ++ closing), back, by simp, rfl, ?_, ?_⟩
  · split_ifs
    · exact ⟨opening, closing, by simp⟩
    · exact List.nil_infix
  · split_ifs
    · simp only [List.length_append]
      omega
    · simp only [List.length_append, List.length_nil]
      omega

theorem isDeletion_link (opening : List Char) : IsDeletion (link opening) := by
  intro _ s kept width hfind
  obtain ⟨⟨inside, width'⟩, htext, hfind⟩ := Option.bind_eq_some_iff.1 hfind
  obtain ⟨⟨inside', width''⟩, hdestination, hfind⟩ := Option.map_eq_some_iff.1 hfind
  obtain ⟨rfl, rfl⟩ := Prod.mk.inj hfind
  obtain ⟨_, back, rfl, -, rfl, rfl⟩ := enclosed_eq_some htext
  have hdrop : opening ++ (inside ++ ([']'] ++ back)) =
      (opening ++ (inside ++ [']'])) ++ back := by simp
  rw [hdrop, List.drop_left] at hdestination
  obtain ⟨destination, back, rfl, -, -, rfl⟩ := enclosed_eq_some hdestination
  refine ⟨(opening ++ (inside ++ [']'])) ++ (['('] ++ (destination ++ [')'])), back, by simp,
    List.length_append.symm, ?_, ?_⟩
  · exact ⟨opening, [']'] ++ (['('] ++ (destination ++ [')'])), by simp⟩
  · simp only [List.length_append, List.length_cons, List.length_nil]
    omega

/-- What is deleted as a whole is at the front if it is not longer than the text. -/
theorem exists_take_of_le {width : Nat} (hpos : 0 < width) (hle : width ≤ s.length) :
    ∃ found back, s = found ++ back ∧ width = found.length ∧ ([] : List Char) <:+: found ∧
      ([] : List Char).length < found.length := by
  have hlength : (s.take width).length = width := List.length_take_of_le hle
  exact ⟨s.take width, s.drop width, (List.take_append_drop width s).symm, hlength.symm,
    List.nil_infix, hlength.symm ▸ hpos⟩

theorem blanks_le_length (s : List Char) : blanks s ≤ s.length :=
  (List.takeWhile_sublist Text.isBlank).length_le

theorem isDeletion_lineMark (mark : List Char → Nat) : IsDeletion (lineMark mark) := by
  intro atLineStart s kept width hfind
  cases atLineStart with
  | false => cases (lineMark_false mark s).symm.trans hfind
  | true =>
    rw [lineMark_true] at hfind
    split_ifs at hfind with hpos
    obtain ⟨rfl, rfl⟩ := Prod.mk.inj (Option.some.inj hfind)
    have hle := blanks_le_length (s.drop (mark s))
    rw [List.length_drop] at hle
    exact exists_take_of_le (by omega) (by omega)

theorem le_length_of_blanksToLineEnd? {width : Nat} (h : blanksToLineEnd? s = some width) :
    width ≤ s.length := by
  have hle := blanks_le_length s
  unfold blanks at hle
  unfold blanksToLineEnd? at h
  dsimp only at h
  split_ifs at h
  · exact Option.some.inj h ▸ hle
  · cases hback : (s.takeWhile Text.isBlank).reverse.dropWhile (· != '\n') with
    | nil => simp [hback] at h
    | cons c front =>
      have hsub := (List.dropWhile_sublist (l := (s.takeWhile Text.isBlank).reverse)
        (· != '\n')).length_le
      rw [hback, List.length_cons, List.length_reverse] at hsub
      rw [hback] at h
      have hwidth : front.length = width := Option.some.inj h
      omega

theorem isDeletion_rule : IsDeletion rule := by
  intro atLineStart s kept width hfind
  cases atLineStart with
  | false => cases (rule_false s).symm.trans hfind
  | true =>
    rw [rule_true] at hfind
    split_ifs at hfind with hlong
    obtain ⟨space, hspace, hfind⟩ := Option.map_eq_some_iff.1 hfind
    obtain ⟨rfl, rfl⟩ := Prod.mk.inj hfind
    have hmarks := (List.takeWhile_sublist isRuleMark (l := s)).length_le
    have hle := le_length_of_blanksToLineEnd? hspace
    rw [List.length_drop] at hle
    exact exists_take_of_le (by omega) (by omega)

theorem isDeletion_of_mem_replacements : ∀ find ∈ replacements, IsDeletion find := by
  simp only [replacements, List.forall_mem_cons, List.not_mem_nil, false_implies, implies_true,
    and_true]
  exact ⟨isDeletion_enclosed (by simp), isDeletion_link _, isDeletion_link _, isDeletion_lineMark _,
    isDeletion_enclosed (by simp), isDeletion_enclosed (by simp), isDeletion_enclosed (by simp),
    isDeletion_enclosed (by simp), isDeletion_enclosed (by simp), isDeletion_enclosed (by simp),
    isDeletion_lineMark _, isDeletion_rule, isDeletion_lineMark _, isDeletion_lineMark _⟩

end

/-! ### Texts without marks -/

/-- The characters without which no mark is found. -/
def markChars : List Char := ['<', '[', '#', '*', '_', '\x60', '>', '-', '+', '.']

section

variable {s : List Char} {mark : List Char → Nat}

theorem takeWhile_eq_nil_of_forall {test : Char → Bool} (h : ∀ c ∈ s, test c = false) :
    s.takeWhile test = [] := by
  cases s with
  | nil => rfl
  | cons c rest => exact List.takeWhile_cons_of_neg (by simp [h c])

theorem lineMark_of_eq_zero (h : mark s = 0) (atLineStart : Bool) :
    lineMark mark atLineStart s = none := by
  cases atLineStart with
  | false => exact lineMark_false mark s
  | true => exact lineMark_eq_none h

theorem headingMark_of_notMem (h : '#' ∉ s) : headingMark s = 0 := by
  have hmarks : s.takeWhile (· == '#') = [] :=
    takeWhile_eq_nil_of_forall fun c hc ↦ beq_false_of_ne (ne_of_mem_of_not_mem hc h)
  rw [headingMark, hmarks]
  rfl

theorem quoteMark_of_notMem (h : '>' ∉ s) : quoteMark s = 0 := by
  rw [quoteMark, if_neg]
  intro hhead
  exact h (List.mem_of_mem_head? (beq_iff_eq.1 hhead))

theorem bulletMark_of_forall (h : ∀ c ∈ s, isBulletSign c = false) : bulletMark s = 0 := by
  unfold bulletMark
  dsimp only
  cases hdrop : s.drop (blanks s) with
  | nil => rfl
  | cons c rest =>
    have hc := h c (List.mem_of_mem_drop (hdrop ▸ List.mem_cons_self))
    exact if_neg (by simpa [isBulletSign] using hc)

theorem numberMark_of_notMem (h : '.' ∉ s) : numberMark s = 0 := by
  unfold numberMark
  dsimp only
  rw [if_neg]
  intro hpoint
  simp only [Bool.and_eq_true, beq_iff_eq] at hpoint
  exact h (List.mem_of_getElem? hpoint.2)

theorem rule_of_forall (h : ∀ c ∈ s, isRuleMark c = false) (atLineStart : Bool) :
    rule atLineStart s = none := by
  cases atLineStart with
  | false => exact rule_false s
  | true =>
    refine rule_eq_none ?_
    rw [takeWhile_eq_nil_of_forall h]
    exact Nat.zero_lt_succ 2

theorem link_of_notMem {opening : List Char} (hopening : '[' ∈ opening) (h : '[' ∉ s)
    (atLineStart : Bool) : link opening atLineStart s = none := by
  rw [link, enclosed_of_notMem hopening h]
  rfl

/-- Each mark has one of the characters. -/
theorem eq_none_of_mem_replacements (h : ∀ c ∈ s, c ∉ markChars) (atLineStart : Bool) :
    ∀ find ∈ replacements, find atLineStart s = none := by
  have hnot : ∀ c ∈ markChars, c ∉ s := fun c hc hs ↦ h c hs hc
  simp only [markChars, List.forall_mem_cons, List.not_mem_nil, false_implies, implies_true,
    and_true] at hnot
  obtain ⟨hless, hbracket, hhash, hstar, hunderscore, htick, hgreater, hdash, hplus, hpoint⟩ := hnot
  have hsign : ∀ c ∈ s, isBulletSign c = false := fun c hc ↦ by
    have hne := h c hc
    simp only [markChars, List.mem_cons, not_or] at hne
    simp [isBulletSign, hne]
  have hrule : ∀ c ∈ s, isRuleMark c = false := fun c hc ↦ by
    have hne := h c hc
    simp only [markChars, List.mem_cons, not_or] at hne
    simp [isRuleMark, hne]
  simp only [replacements, List.forall_mem_cons, List.not_mem_nil, false_implies, implies_true,
    and_true]
  exact ⟨enclosed_of_notMem (by simp) hless, link_of_notMem (by simp) hbracket _,
    link_of_notMem (by simp) hbracket _, lineMark_of_eq_zero (headingMark_of_notMem hhash) _,
    enclosed_of_notMem (by simp) hstar, enclosed_of_notMem (by simp) hunderscore,
    enclosed_of_notMem (by simp) hstar, enclosed_of_notMem (by simp) hunderscore,
    enclosed_of_notMem (by simp) htick, enclosed_of_notMem (by simp) htick,
    lineMark_of_eq_zero (quoteMark_of_notMem hgreater) _, rule_of_forall hrule _,
    lineMark_of_eq_zero (bulletMark_of_forall hsign) _,
    lineMark_of_eq_zero (numberMark_of_notMem hpoint) _⟩

end

theorem countWords_le_of_sublist {text whole : List Char} (h : text.Sublist whole) :
    countWords text ≤ countWords whole :=
  Text.length_wordsBy_le_of_sublist h

/-- Stripping a text of its markup only deletes characters, so that no more words are counted than
there are in the text as it is written. It leaves the text as it is exactly if none of the
replacements finds anything in it, and so if the text has none of the characters of marks. -/
theorem stripMarkup_only_deletes (s : List Char) :
    (stripMarkup s).Sublist s ∧ (estimate s).words ≤ countWords s ∧
      (stripMarkup s = s ↔ ∀ find ∈ replacements, FindsNothing find true s) ∧
        ((∀ c ∈ s, c ∉ markChars) → stripMarkup s = s) := by
  have hsublist : (stripMarkup s).Sublist s :=
    foldl_replaceAll_sublist isDeletion_of_mem_replacements s
  have hself : stripMarkup s = s ↔ ∀ find ∈ replacements, FindsNothing find true s :=
    foldl_replaceAll_eq_self_iff isDeletion_of_mem_replacements s
  have hwords : (estimate s).words = countWords (stripMarkup s) := by rw [estimate, ofWords]
  refine ⟨hsublist, hwords.trans_le (countWords_le_of_sublist hsublist), hself, fun hmarks ↦ ?_⟩
  refine hself.2 fun find hfind front c back hsplit ↦ ?_
  have hback : ∀ d ∈ c :: back, d ∉ markChars := fun d hd ↦
    hmarks d (hsplit ▸ List.mem_append_right front hd)
  exact eq_none_of_mem_replacements hback _ find hfind

/-- Brackets, exclamation marks and digits are no marks without the characters of marks, and a link
is not left as it is. -/
theorem stripMarkup_only_deletes_of_brackets :
    (∀ c ∈ "(1) wait! a]: 2\n\n  = b | c".toList, c ∉ markChars) ∧
      stripMarkup "(1) wait! a]: 2\n\n  = b | c".toList =
        "(1) wait! a]: 2\n\n  = b | c".toList ∧
      ¬ ∀ find ∈ replacements, FindsNothing find true "[a b](c) d".toList :=
  ⟨by simp [markChars], (stripMarkup_only_deletes _).2.2.2 (by simp [markChars]),
    fun h ↦ absurd ((stripMarkup_only_deletes "[a b](c) d".toList).2.2.1.2 h) (by decide +kernel)⟩

end Galley.ReadingTime
