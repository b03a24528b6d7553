import Mathlib
import Galley.Text.Ascii
import Galley.Text.Blank
import Galley.Text.Digit

/-!
ASCII letters and digits among the characters: they are no blanks, and of the ASCII characters
the ASCII digits are the only digits.
-/

set_option autoImplicit false
set_option relaxedAutoImplicit false

namespace Galley.Text

variable {c : Char}

theorem isDigit_iff : isDigit c = true ↔ 0x30 ≤ c.toNat ∧ c.toNat ≤ 0x39 := by
  simp [isDigit, Char.le_def, UInt32.le_iff_toNat_le]

theorem isLetter_iff : isLetter c = true ↔
    (0x61 ≤ c.toNat ∧ c.toNat ≤ 0x7A) ∨ (0x41 ≤ c.toNat ∧ c.toNat ≤ 0x5A) := by
  simp [isLetter, Char.le_def, UInt32.le_iff_toNat_le]

theorem isBlank_of_isAlnum (h : isAlnum c = true) : isBlank c = false := by
  rw [isAlnum, Bool.or_eq_true, isLetter_iff, isDigit_iff] at h
  simp only [isBlank, Bool.or_eq_false_iff, Bool.and_eq_false_iff, decide_eq_false_iff_not,
    beq_eq_false_iff_ne]
  omega

/-- The table of digits holds those of ASCII and no other ASCII character. -/
theorem isAnyDigit_of_toNat_lt (h : c.toNat < 0x80) : isAnyDigit c = isDigit c := by
  have htable : ∀ n < 0x80, inRanges digitRanges n 12 0 digitRanges.size =
      decide (0x30 ≤ n ∧ n ≤ 0x39) := by decide +kernel
  rw [isAnyDigit, htable c.toNat h, Bool.eq_iff_iff, isDigit_iff, decide_eq_true_eq]

theorem isAnyDigit_of_isDigit (h : isDigit c = true) : isAnyDigit c = true := by
  rw [isAnyDigit_of_toNat_lt, h]
  have := isDigit_iff.1 h
  omega

theorem isAnyDigit_of_isLetter (h : isLetter c = true) : isAnyDigit c = false := by
  have hletter := isLetter_iff.1 h
  rw [isAnyDigit_of_toNat_lt (by omega), ← Bool.not_eq_true, isDigit_iff]
  omega

end Galley.Text
