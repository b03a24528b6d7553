import Mathlib.Data.List.Induction
import Galley.Proofs.Text.Words

/-!
The lines of a text, and what trimming it leaves unchanged: a reading that passes over blanks at
both ends of a text reads the same of the trimmed text (`read_trim`).
-/

set_option autoImplicit false
set_option relaxedAutoImplicit false

namespace Galley.Text

/-! ### Lines -/

/-- A line without the carriage return that it ends in, if there is one. -/
def dropReturn (line : List Char) : List Char :=
  if line.getLast? = some '\r' then line.dropLast else line

/-- The lines that the pieces between line feeds are. No line feed stands behind the last piece,
which is a line of its own only if it is not empty. -/
def linesOfPieces : List (List Char) → List (List Char)
  | [] => []
  | [last] => if last.isEmpty then [] else [last]
  | piece :: rest => dropReturn piece :: linesOfPieces rest

/-- The lines of a text without their ends, each a line feed or a carriage return before one. -/
def lines (text : List Char) : List (List Char) := linesOfPieces (splitBy (· == '\n') text)

/-- A reading of lines that passes over empty ones and over carriage returns at their ends reads
the same of the lines of a text and of the pieces between its line feeds. -/
theorem filterMap_lines {α : Type} {read : List Char → Option α} (hnil : read [] = none)
    (hreturn : ∀ line, read (dropReturn line) = read line) (text : List Char) :
    (lines text).filterMap read = (splitBy (· == '\n') text).filterMap read := by
  rw [lines]
  generalize splitBy (· == '\n') text = pieces
  induction pieces using linesOfPieces.induct with
  | case1 => rfl
  | case2 last hempty =>
    rw [linesOfPieces, if_pos hempty, List.isEmpty_iff.1 hempty, List.filterMap_cons_none hnil]
  | case3 last hempty => rw [linesOfPieces, if_neg hempty]
  | case4 piece rest hrest ih =>
    rw [linesOfPieces, List.filterMap_cons, List.filterMap_cons, hreturn, ih]
    exact hrest

example : lines "a\r\n\n b\rc\r\r\nd\r".toList =
    ["a".toList, [], " b\rc\r".toList, "d\r".toList] := by decide

/-! ### Trimming -/

variable {c : Char}

theorem trim_cons_of_isBlank (hc : isBlank c = true) (s : List Char) : trim (c :: s) = trim s := by
  simp [trim, trimStart, hc]

theorem trimEnd_append_of_isBlank (hc : isBlank c = true) (s : List Char) :
    trimEnd (s ++ [c]) = trimEnd s := by
  simp [trimEnd, hc]

theorem trim_append_of_isBlank (hc : isBlank c = true) (s : List Char) :
    trim (s ++ [c]) = trim s := by
  induction s with
  | nil => exact trim_cons_of_isBlank hc []
  | cons d s ih =>
    by_cases hd : isBlank d = true
    · rw [List.cons_append, trim_cons_of_isBlank hd, trim_cons_of_isBlank hd, ih]
    · have hstart (s : List Char) : trimStart (d :: s) = d :: s := by simp [trimStart, hd]
      rw [trim, trim, List.cons_append, hstart, hstart, ← List.cons_append,
        trimEnd_append_of_isBlank hc]

/-- What is read of a text is read of the trimmed text, if blanks at its ends are passed over. -/
theorem read_trim {α : Type} {read : List Char → α}
    (hfront : ∀ c s, isBlank c = true → read (c :: s) = read s)
    (hback : ∀ c s, isBlank c = true → read (s ++ [c]) = read s) (s : List Char) :
    read (trim s) = read s := by
  have hstart (s : List Char) : read (trimStart s) = read s := by
    induction s with
    | nil => rfl
    | cons c s ih =>
      by_cases hc : isBlank c = true
      · rw [hfront c s hc, ← ih]
        simp [trimStart, hc]
      · simp [trimStart, hc]
  have hend (s : List Char) : read (trimEnd s) = read s := by
    induction s using List.reverseRecOn with
    | nil => rfl
    | append_singleton s c ih =>
      by_cases hc : isBlank c = true
      · rw [trimEnd_append_of_isBlank hc, ih, hback c s hc]
      · simp [trimEnd, hc]
  rw [trim, hend, hstart]

end Galley.Text
