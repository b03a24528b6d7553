import Mathlib
import Galley.Slug

/-!
Slugs and the names that a slugger hands out. A slugger never hands out a name twice
(`Slugger.nameFor_notMem`): numbered names differ from each other, so that not all of those that it
tries can be taken. A candidate that is free is handed out as it is.
-/

set_option autoImplicit false
set_option relaxedAutoImplicit false

namespace Galley

/-- Characters of slugs. -/
def isSlugChar (c : Char) : Bool := Text.isAlnum c || c == '-'

/-! ### Slugs -/

theorem slugRest_chars (started broken : Bool) (text : List Char) :
    ∀ c ∈ slugRest started broken text, isSlugChar c = true := by
  induction text generalizing started broken with
  | nil => simp [slugRest]
  | cons d rest ih =>
    rw [slugRest]
    split_ifs with hbreak hkept hbroken
    · exact ih _ _
    · simpa [isSlugChar, hkept] using ih true false
    · simpa [isSlugChar, hkept] using ih true false
    · exact ih _ _

theorem headingId_chars (text : List Char) : ∀ c ∈ headingId text, isSlugChar c = true := by
  unfold headingId
  split
  · exact List.all_eq_true.1 (by decide)
  · exact slugRest_chars false false _

theorem headingId_ne_nil (text : List Char) : headingId text ≠ [] := by
  unfold headingId
  split
  · decide
  · assumption

/-! ### Numbered names -/

theorem numbered_injective (base : List Char) : Function.Injective (numbered base) := by
  intro m n heq
  have hdigits : Nat.toDigits 10 m = Nat.toDigits 10 n := by simpa [numbered] using heq
  rw [← Nat.ofDigitChars_ten_toDigits (n := m), hdigits, Nat.ofDigitChars_ten_toDigits]

theorem notMem_toDigits_hyphen (n : Nat) : '-' ∉ Nat.toDigits 10 n := by
  intro hmem
  have hdigit : '-'.isDigit = true := Nat.isDigit_of_mem_toDigits (by decide) (by decide) hmem
  exact absurd hdigit (by decide)

/-- A numbered name says what the name and the number are. -/
theorem numbered_eq_numbered {base base' : List Char} {m n : Nat}
    (h : numbered base m = numbered base' n) : base = base' ∧ m = n := by
  have hdigits (base : List Char) (n : Nat) :
      (numbered base n).reverse.takeWhile (· != '-') = (Nat.toDigits 10 n).reverse := by
    have hall : ∀ c ∈ (Nat.toDigits 10 n).reverse, (c != '-') = true := by
      intro c hc
      rw [List.mem_reverse] at hc
      exact bne_iff_ne.2 fun heq ↦ notMem_toDigits_hyphen n (heq ▸ hc)
    rw [numbered, List.reverse_append, List.reverse_cons, List.append_assoc,
      List.takeWhile_append_of_pos hall]
    simp
  have hsame : Nat.toDigits 10 m = Nat.toDigits 10 n := by
    rw [← List.reverse_inj, ← hdigits base m, ← hdigits base' n, h]
  have hbase : base = base' := by
    rw [numbered, numbered, hsame] at h
    exact List.append_cancel_right h
  subst hbase
  exact ⟨rfl, numbered_injective base h⟩

theorem numbered_ne_self (base : List Char) (n : Nat) : numbered base n ≠ base := by
  intro h
  have hlength := congrArg List.length h
  simp [numbered] at hlength

theorem isSlugChar_of_mem_toDigits {n : Nat} {c : Char} (hc : c ∈ Nat.toDigits 10 n) :
    isSlugChar c = true := by
  have hdigit : c.isDigit = true := Nat.isDigit_of_mem_toDigits (by decide) (by decide) hc
  have htext : Text.isDigit c = true := by
    simpa [Text.isDigit, Char.isDigit, Char.le_def] using hdigit
  simp [isSlugChar, Text.isAlnum, htext]

theorem numbered_chars {base : List Char} (hbase : ∀ c ∈ base, isSlugChar c = true) (n : Nat) :
    ∀ c ∈ numbered base n, isSlugChar c = true := by
  intro c hc
  rcases List.mem_append.1 hc with hc | hc
  · exact hbase c hc
  · rcases List.mem_cons.1 hc with rfl | hc
    · rfl
    · exact isSlugChar_of_mem_toDigits hc

/-- A search passes over taken names only. -/
theorem exists_firstFree (isTaken : List Char → Bool) (base : List Char) (fuel n : Nat) :
    ∃ i, firstFree isTaken base fuel n = numbered base (n + i) ∧
      ∀ j < i, isTaken (numbered base (n + j)) = true := by
  induction fuel generalizing n with
  | zero => exact ⟨0, rfl, nofun⟩
  | succ fuel ih =>
    rw [firstFree]
    split_ifs with htaken
    · obtain ⟨i, heq, hpassed⟩ := ih (n + 1)
      refine ⟨i + 1, by rw [heq, Nat.add_assoc, Nat.add_comm 1 i], fun j hj ↦ ?_⟩
      cases j with
      | zero => exact htaken
      | succ j =>
        rw [← Nat.succ_add_eq_add_succ]
        exact hpassed j (Nat.lt_of_succ_lt_succ hj)
    · exact ⟨0, rfl, nofun⟩

theorem exists_firstFree_eq (isTaken : List Char → Bool) (base : List Char) (fuel n : Nat) :
    ∃ m, firstFree isTaken base fuel n = numbered base m := by
  obtain ⟨i, heq, -⟩ := exists_firstFree isTaken base fuel n
  exact ⟨n + i, heq⟩

/-- If the name that the search ends with is taken, all names that it tried are. -/
theorem isTaken_of_firstFree {isTaken : List Char → Bool} {base : List Char} {fuel n : Nat}
    (h : isTaken (firstFree isTaken base fuel n) = true) :
    ∀ i ≤ fuel, isTaken (numbered base (n + i)) = true := by
  induction fuel generalizing n with
  | zero =>
    intro i hi
    obtain rfl : i = 0 := Nat.le_zero.1 hi
    exact h
  | succ fuel ih =>
    rw [firstFree] at h
    split_ifs at h with htaken
    · intro i hi
      cases i with
      | zero => exact htaken
      | succ i =>
        rw [← Nat.succ_add_eq_add_succ]
        exact ih h i (Nat.le_of_succ_le_succ hi)
    · exact absurd h htaken

/-- A search that tries more names than there are taken ones finds a free one. -/
theorem firstFree_notMem (used : List (List Char)) (base : List Char) (n : Nat) :
    firstFree used.contains base used.length n ∉ used := by
  intro hmem
  have htaken : ∀ i ≤ used.length, used.contains (numbered base (n + i)) = true :=
    isTaken_of_firstFree (by simpa using hmem)
  have hsubset : (List.range (used.length + 1)).map (fun i ↦ numbered base (n + i)) ⊆ used := by
    intro name hname
    obtain ⟨i, hi, rfl⟩ := List.mem_map.1 hname
    simpa using htaken i (Nat.le_of_lt_succ (List.mem_range.1 hi))
  have hnodup : ((List.range (used.length + 1)).map fun i ↦ numbered base (n + i)).Nodup :=
    List.nodup_range.map ((numbered_injective base).comp (add_right_injective n))
  have hlength := (hnodup.subperm hsubset).length_le
  simp at hlength

namespace Slugger

variable {slugger : Slugger} {candidate : List Char}

@[simp] theorem used_claim (slugger : Slugger) (candidate : List Char) :
    (slugger.claim candidate).1.used = slugger.nameFor candidate :: slugger.used := rfl

/-- A candidate that is free is the name that is handed out. -/
theorem nameFor_of_notMem (hfree : candidate ∉ slugger.used) :
    slugger.nameFor candidate = candidate := by
  simp [nameFor, isUsed, hfree]

/-- No name is handed out twice. -/
theorem nameFor_notMem (slugger : Slugger) (candidate : List Char) :
    slugger.nameFor candidate ∉ slugger.used := by
  unfold nameFor
  split_ifs with hused
  · exact firstFree_notMem slugger.used candidate 2
  · simpa [isUsed] using hused

/-- The candidate is handed out if and only if it is free. -/
theorem nameFor_eq_iff : slugger.nameFor candidate = candidate ↔ candidate ∉ slugger.used :=
  ⟨fun heq ↦ heq ▸ nameFor_notMem slugger candidate, nameFor_of_notMem⟩

theorem nameFor_chars (hcandidate : ∀ c ∈ candidate, isSlugChar c = true) :
    ∀ c ∈ slugger.nameFor candidate, isSlugChar c = true := by
  unfold nameFor
  split_ifs
  · obtain ⟨n, heq⟩ := exists_firstFree_eq slugger.isUsed candidate slugger.used.length 2
    rw [heq]
    exact numbered_chars hcandidate n
  · exact hcandidate

theorem nameFor_ne_nil (hcandidate : candidate ≠ []) : slugger.nameFor candidate ≠ [] := by
  unfold nameFor
  split_ifs
  · obtain ⟨n, heq⟩ := exists_firstFree_eq slugger.isUsed candidate slugger.used.length 2
    rw [heq]
    simp [numbered]
  · exact hcandidate

end Slugger

end Galley
