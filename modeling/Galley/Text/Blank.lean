/-!
White space. A blank is a character with the Unicode property White_Space; text is trimmed, split
into words and tested for emptiness with respect to it.
-/

set_option autoImplicit false
set_option relaxedAutoImplicit false

namespace Galley.Text

/-- The characters with the property White_Space. -/
def isBlank (c : Char) : Bool :=
  let n := c.toNat
  (9 ≤ n && n ≤ 13) || n == 0x20 || n == 0x85 || n == 0xA0 || n == 0x1680 ||
    (0x2000 ≤ n && n ≤ 0x200A) || n == 0x2028 || n == 0x2029 || n == 0x202F || n == 0x205F ||
    n == 0x3000

/-- The ASCII blanks: tab, line feed, form feed, carriage return and space. -/
def isAsciiBlank (c : Char) : Bool :=
  c == ' ' || c == '\t' || c == '\n' || c == '\r' || c == '\x0c'

/-- Drops blanks at the front. -/
def trimStart (s : List Char) : List Char :=
  s.dropWhile isBlank

/-- Drops blanks at the back. -/
def trimEnd (s : List Char) : List Char :=
  (s.reverse.dropWhile isBlank).reverse

/-- Drops blanks at both ends. -/
def trim (s : List Char) : List Char :=
  trimEnd (trimStart s)

/-- Whether a text holds blanks only. -/
def isBlankText (s : List Char) : Bool :=
  s.all isBlank

/-- Cuts a text at every character that satisfies `cut`; the pieces may be empty. -/
def splitBy (cut : Char → Bool) : List Char → List (List Char)
  | [] => [[]]
  | c :: r =>
    if cut c then [] :: splitBy cut r
    else
      match splitBy cut r with
      | [] => [[c]]
      | piece :: pieces => (c :: piece) :: pieces

/-- The non-empty pieces between characters that satisfy `cut`. -/
def wordsBy (cut : Char → Bool) (s : List Char) : List (List Char) :=
  (splitBy cut s).filter (!·.isEmpty)

theorem splitBy_ne_nil (cut : Char → Bool) (s : List Char) : splitBy cut s ≠ [] := by
  cases s with
  | nil => simp [splitBy]
  | cons c r => unfold splitBy; repeat' split <;> simp

end Galley.Text
