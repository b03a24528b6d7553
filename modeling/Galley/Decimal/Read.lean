import Galley.Decimal.Double
import Galley.Text.Ascii

/-!
Reading numbers. A number with a point or an exponent is read as the nearest double; a word for an
infinite number, or for no number, is read as well. Whole numbers have a greatest value.
-/

set_option autoImplicit false
set_option relaxedAutoImplicit false

namespace Galley.Decimal

/-- A sign in front, and the rest. -/
def splitSign : List Char → Bool × List Char
  | '-' :: rest => (true, rest)
  | '+' :: rest => (false, rest)
  | s => (false, s)

/-- Leading digits, and the rest. -/
def splitDigits (s : List Char) : List Char × List Char :=
  (s.takeWhile Text.isDigit, s.dropWhile Text.isDigit)

/-- An exponent with its mark, up to the end. -/
def exponent? : List Char → Option Int
  | [] => some 0
  | c :: rest =>
    if c == 'e' || c == 'E' then
      let (isNegative, digits) := splitSign rest
      if digits.isEmpty || !digits.all Text.isDigit then none
      else
        let n : Int := Text.readDigits 10 digits
        some (if isNegative then -n else n)
    else none

/-- The double nearest to `digits * 10 ^ exponent`, where exponents far beyond all doubles are not
worked out. -/
def Double.ofDecimal (isNegative : Bool) (digits : Nat) (exponent : Int) : Double :=
  if digits == 0 then .nearest isNegative 0 1
  else
    let magnitude : Int := (Nat.log2 digits : Int) * 30103 / 100000 + exponent
    if 400 < magnitude then .infinite isNegative
    else if magnitude < -400 then .nearest isNegative 0 1
    else
      match exponent with
      | .ofNat n => .nearest isNegative (digits * Nat.pow 10 n) 1
      | .negSucc n => .nearest isNegative digits (Nat.pow 10 (n + 1))

/-- A number without its sign. -/
def unsigned? (isNegative : Bool) (s : List Char) : Option Double :=
  let word := String.ofList (Text.asciiLower s)
  if word == "inf" || word == "infinity" then some (.infinite isNegative)
  else if word == "nan" then some .nan
  else
    let (whole, rest) := splitDigits s
    let (places, rest) := match rest with
      | '.' :: rest => splitDigits rest
      | rest => ([], rest)
    if whole.isEmpty && places.isEmpty then none
    else
      (exponent? rest).map fun e =>
        .ofDecimal isNegative (Text.readDigits 10 (whole ++ places)) (e - places.length)

/-- A number in double precision. -/
def double? (s : List Char) : Option Double :=
  let (isNegative, rest) := splitSign s
  unsigned? isNegative rest

/-- A whole number up to `limit`, with a plus sign or none. -/
def natUpTo? (limit : Nat) (s : List Char) : Option Nat :=
  let digits := match s with
    | '+' :: rest => rest
    | s => s
  if digits.isEmpty || !digits.all Text.isDigit then none
  else
    let n := Text.readDigits 10 digits
    if n ≤ limit then some n else none

end Galley.Decimal
