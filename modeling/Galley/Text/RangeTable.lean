/-!
Classes of characters as ascending tables of code-point ranges, searched by halving.
-/

set_option autoImplicit false
set_option relaxedAutoImplicit false

namespace Galley.Text

/-- Whether a code point lies in one of the ranges `lo ≤ i < hi` of an ascending table, found by
halving; `fuel` bounds the halvings. -/
def inRanges (table : Array (Nat × Nat)) (code : Nat) : Nat → Nat → Nat → Bool
  | 0, _, _ => false
  | fuel + 1, lo, hi =>
    if lo < hi then
      let mid := (lo + hi) / 2
      match table[mid]? with
      | none => false
      | some (first, last) =>
        if code < first then inRanges table code fuel lo mid
        else if last < code then inRanges table code fuel (mid + 1) hi
        else true
    else false

end Galley.Text
