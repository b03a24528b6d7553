import Mathlib
import Galley.Text.Casing

/-!
Texts in lower case. They hold no capital ASCII letters, since no run of the case map ends on one,
and ASCII texts without capital letters stay as they are.
-/

set_option autoImplicit false
set_option relaxedAutoImplicit false

namespace Galley.Text

theorem isUpper_eq_true_iff {c : Char} :
    c.isUpper = true ↔ 0x41 ≤ c.toNat ∧ c.toNat ≤ 0x5A := by
  simp [Char.isUpper, UInt32.le_iff_toNat_le]

/-- No code point of a run shifts to that of a capital letter. -/
def CaseRun.MissesCapitals (run : CaseRun) : Prop :=
  run.last + run.shift < 0x41 ∨ 0x5A < run.first + run.shift

instance (run : CaseRun) : Decidable run.MissesCapitals :=
  inferInstanceAs (Decidable (_ ∨ _))

theorem lowerRuns_missCapitals : ∀ run ∈ lowerRuns, run.MissesCapitals := by
  have hall : ∀ run ∈ lowerRuns.toList, run.MissesCapitals := by decide +kernel
  exact fun run hrun ↦ hall run (Array.mem_toList_iff.2 hrun)

theorem isUpper_ofNat {n : Nat} (hn : n < 0x41 ∨ 0x5A < n) : (Char.ofNat n).isUpper = false := by
  rw [← Bool.not_eq_true, isUpper_eq_true_iff, Char.toNat_ofNat]
  split_ifs
  · omega
  · omega

theorem isUpper_shiftCase {runs : Array CaseRun} (hruns : ∀ run ∈ runs, run.MissesCapitals)
    {c : Char} (hc : c.isUpper = false) : (shiftCase runs c).isUpper = false := by
  unfold shiftCase findRun
  split
  case h_1 run hrun =>
    have hmisses : run.MissesCapitals := hruns run (Array.mem_of_find?_eq_some hrun)
    have hcovers : run.covers c.toNat = true := by simpa using Array.find?_some hrun
    simp only [CaseRun.covers, Bool.and_eq_true, decide_eq_true_eq] at hcovers
    obtain ⟨⟨hfirst, hlast⟩, -⟩ := hcovers
    rw [CaseRun.MissesCapitals] at hmisses
    refine isUpper_ofNat ?_
    omega
  case h_2 => exact hc

theorem isUpper_of_mem_lowerChar {c d : Char} (hd : d ∈ lowerChar c) : d.isUpper = false := by
  unfold lowerChar at hd
  split_ifs at hd with hascii hdotted
  · rw [List.mem_singleton.1 hd, Char.isUpper_toLower_eq_false]
  · rw [List.mem_pair] at hd
    rcases hd with rfl | rfl
    · decide
    · decide
  · rw [List.mem_singleton.1 hd]
    refine isUpper_shiftCase lowerRuns_missCapitals ?_
    rw [← Bool.not_eq_true, isUpper_eq_true_iff]
    omega

theorem isUpper_of_mem_lowerFrom {before s : List Char} {d : Char} (hd : d ∈ lowerFrom before s) :
    d.isUpper = false := by
  induction s generalizing before with
  | nil => simp [lowerFrom] at hd
  | cons c rest ih =>
    rw [lowerFrom] at hd
    rcases List.mem_append.1 hd with hd | hd
    · split_ifs at hd
      · rw [List.mem_singleton.1 hd]
        decide
      · rw [List.mem_singleton.1 hd]
        decide
      · exact isUpper_of_mem_lowerChar hd
    · exact ih hd

/-- A text in lower case holds no capital ASCII letters. -/
theorem isUpper_of_mem_lower {s : List Char} {c : Char} (hc : c ∈ lower s) : c.isUpper = false :=
  isUpper_of_mem_lowerFrom hc

/-- An ASCII text without capital letters is in lower case. -/
theorem lower_of_forall {s : List Char} (hs : ∀ c ∈ s, c.toNat < 0x80 ∧ c.isUpper = false) :
    lower s = s := by
  suffices hfrom : ∀ before, lowerFrom before s = s from hfrom []
  induction s with
  | nil => exact fun before ↦ rfl
  | cons c rest ih =>
    intro before
    obtain ⟨hascii, hupper⟩ := hs c List.mem_cons_self
    have hsigma : (c.toNat == 0x3A3) = false := by
      rw [beq_eq_false_iff_ne]
      omega
    have hlower : lowerChar c = [c] := by
      rw [lowerChar, if_pos hascii, Char.toLower_eq_of_not_isUpper (by simp [hupper])]
    rw [lowerFrom, hsigma, if_neg Bool.false_ne_true, hlower,
      ih (fun d hd ↦ hs d (List.mem_cons_of_mem c hd)), List.singleton_append]

end Galley.Text
