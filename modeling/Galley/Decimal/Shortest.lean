import Galley.Decimal.Double

/-!
The shortest decimal that reads back as a given double, and the two ways in which it is written:
plainly, with as many zeros as it takes, or with an exponent where the number is very large or very
small.
-/

set_option autoImplicit false
set_option relaxedAutoImplicit false

namespace Galley.Decimal

/-- A positive decimal: `digits * 10 ^ exponent`. -/
structure Digits where
  digits : Nat
  exponent : Int
deriving DecidableEq, Repr, Inhabited

/-- A fraction times a power of ten, as a fraction. -/
def scaleFraction (num den : Nat) (exponent : Int) : Nat × Nat :=
  match exponent with
  | .ofNat n => (num * Nat.pow 10 n, den)
  | .negSucc n => (num, den * Nat.pow 10 (n + 1))

/-- Compares fractions. -/
def fractionLe (a b : Nat × Nat) : Bool := a.1 * b.2 ≤ b.1 * a.2

/-- The fractions that read back as a double: from the first to the second, the ends included or
not. -/
structure Interval where
  low : Nat × Nat
  high : Nat × Nat
  closed : Bool

/-- Whether a fraction lies in an interval. -/
def Interval.contains (i : Interval) (x : Nat × Nat) : Bool :=
  if i.closed then fractionLe i.low x && fractionLe x i.high
  else !fractionLe x i.low && !fractionLe i.high x

/-- The interval around a double that is not zero. Below a power of two the doubles are closer to
each other than above it. -/
def intervalOf (mantissa : Nat) (exponent : Int) : Interval :=
  let isPower := mantissa == Nat.pow 2 (mantissaBits - 1) && leastExponent < exponent
  { low := shiftFraction (4 * mantissa - (if isPower then 1 else 2)) 4 exponent
    high := shiftFraction (4 * mantissa + 2) 4 exponent
    closed := mantissa % 2 == 0 }

/-- The exponent of the greatest power of ten that is not above a positive fraction, given a guess
that is at most two off. -/
def floorLog10 (num den : Nat) : Int :=
  let guess : Int := (floorLog2 num den * 30103) / 100000
  let isAbove (k : Int) : Bool :=
    let (a, b) := scaleFraction num den (-k)
    a < b
  if isAbove guess then guess - 1 else if isAbove (guess + 1) then guess else guess + 1

/-- How far apart two fractions are, as a fraction. -/
def distance (a b : Nat × Nat) : Nat × Nat :=
  let x := a.1 * b.2
  let y := b.1 * a.2
  (max x y - min x y, a.2 * b.2)

/-- The decimal with the given number of digits that reads back as the value, the nearer of two. -/
def withDigits? (i : Interval) (value : Nat × Nat) (scale : Int) : Option Digits :=
  let (a, b) := scaleFraction value.1 value.2 (-scale)
  let below := a / b
  let fractionOf (n : Nat) := scaleFraction n 1 scale
  let hits (n : Nat) : Bool := 0 < n && i.contains (fractionOf n)
  match hits below, hits (below + 1) with
  | true, false => some ⟨below, scale⟩
  | false, true => some ⟨below + 1, scale⟩
  | false, false => none
  | true, true =>
    let d := distance value (fractionOf below)
    let d' := distance value (fractionOf (below + 1))
    if fractionLe d d' && (!fractionLe d' d || below % 2 == 0) then some ⟨below, scale⟩
    else some ⟨below + 1, scale⟩

/-- Tries more and more digits. -/
def searchDigits (i : Interval) (value : Nat × Nat) (top : Int) : Nat → Nat → Digits
  | 0, count =>
    let (a, b) := scaleFraction value.1 value.2 (count - top)
    ⟨a / b, top - count⟩
  | fuel + 1, count =>
    match withDigits? i value (top - count) with
    | some found => found
    | none => searchDigits i value top fuel (count + 1)

/-- Drops zeros at the end; `fuel` bounds their number. -/
def dropZeros : Nat → Digits → Digits
  | 0, d => d
  | fuel + 1, d =>
    if d.digits % 10 == 0 && d.digits != 0 then dropZeros fuel ⟨d.digits / 10, d.exponent + 1⟩
    else d

/-- The shortest decimal that reads back as the double with the given parts, which is not zero. -/
def shortest (mantissa : Nat) (exponent : Int) : Digits :=
  let value := shiftFraction mantissa 1 exponent
  dropZeros 20
    (searchDigits (intervalOf mantissa exponent) value (floorLog10 value.1 value.2) 17 0)

/-- A decimal without an exponent; a point is written only before digits. -/
def Digits.plain (d : Digits) : List Char :=
  let digits := Nat.toDigits 10 d.digits
  match d.exponent with
  | .ofNat n => digits ++ List.replicate n '0'
  | .negSucc n =>
    let places := n + 1
    if digits.length ≤ places then
      '0' :: '.' :: List.replicate (places - digits.length) '0' ++ digits
    else digits.take (digits.length - places) ++ '.' :: digits.drop (digits.length - places)

/-- A whole number with its sign if it is negative. -/
def writeInt (n : Int) : List Char :=
  match n with
  | .ofNat n => Nat.toDigits 10 n
  | .negSucc n => '-' :: Nat.toDigits 10 (n + 1)

/-- A decimal with a point, or with an exponent below 10^-5 and from 10^16 on. -/
def Digits.scientific (d : Digits) : List Char :=
  let digits := Nat.toDigits 10 d.digits
  let point := digits.length + d.exponent
  if 0 ≤ d.exponent && point ≤ 16 then d.plain ++ ['.', '0']
  else if -5 < point && point ≤ 16 then d.plain
  else
    let fraction := match digits.drop 1 with
      | [] => []
      | rest => '.' :: rest
    digits.take 1 ++ fraction ++ 'e' :: writeInt (point - 1)

/-- A sign if a number is negative. -/
def sign (isNegative : Bool) : List Char := if isNegative then ['-'] else []

namespace Double

/-- A double as it is shown: never with an exponent. -/
def plain : Double → List Char
  | .nan => "NaN".toList
  | .infinite isNegative => sign isNegative ++ "inf".toList
  | .finite isNegative mantissa exponent =>
    sign isNegative ++ (if mantissa == 0 then ['0'] else (shortest mantissa exponent).plain)

/-- A finite double as data: always with a point or an exponent. -/
def scientific : Double → List Char
  | .finite isNegative mantissa exponent =>
    sign isNegative ++
      (if mantissa == 0 then "0.0".toList else (shortest mantissa exponent).scientific)
  | d => d.plain

end Double

end Galley.Decimal
