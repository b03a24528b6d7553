/-!
Double-precision numbers as exact values: a sign, a whole number and a power of two. Any fraction
has a nearest such number; of two that are equally near, the one with the even whole number is
taken.
-/

set_option autoImplicit false
set_option relaxedAutoImplicit false

namespace Galley.Decimal

/-- A quotient rounded to the nearest whole number, and to the even one if two are equally near. -/
def roundHalfEven (num den : Nat) : Nat :=
  let quotient := num / den
  let twice := 2 * (num % den)
  if den < twice || (twice == den && quotient % 2 == 1) then quotient + 1 else quotient

/-- A double-precision number. A finite one is `mantissa * 2 ^ exponent`, up to its sign. -/
inductive Double where
  | nan
  | infinite (isNegative : Bool)
  | finite (isNegative : Bool) (mantissa : Nat) (exponent : Int)
deriving DecidableEq, Repr, Inhabited

/-- Bits of a mantissa. -/
def mantissaBits : Nat := 53

/-- The least exponent. -/
def leastExponent : Int := -1074

/-- The greatest exponent. -/
def greatestExponent : Int := 971

/-- A fraction times a power of two, as a fraction. -/
def shiftFraction (num den : Nat) (exponent : Int) : Nat × Nat :=
  match exponent with
  | .ofNat n => (num * Nat.pow 2 n, den)
  | .negSucc n => (num, den * Nat.pow 2 (n + 1))

/-- The exponent of the greatest power of two that is not above a positive fraction. -/
def floorLog2 (num den : Nat) : Int :=
  let guess : Int := (Nat.log2 num : Int) - (Nat.log2 den : Int)
  let (a, b) := shiftFraction num den (-guess)
  if b ≤ a then guess else guess - 1

/-- The double nearest to a fraction. -/
def Double.nearest (isNegative : Bool) (num den : Nat) : Double :=
  if num == 0 || den == 0 then .finite isNegative 0 leastExponent
  else
    let exponent := max leastExponent (floorLog2 num den - (mantissaBits - 1 : Nat))
    let (a, b) := shiftFraction num den (-exponent)
    let mantissa := roundHalfEven a b
    let (mantissa, exponent) :=
      if mantissa == Nat.pow 2 mantissaBits then (mantissa / 2, exponent + 1)
      else (mantissa, exponent)
    if greatestExponent < exponent then .infinite isNegative
    else .finite isNegative mantissa exponent

namespace Double

/-- Whether a number is zero, of either sign. -/
def isZero : Double → Bool
  | .finite _ 0 _ => true
  | _ => false

/-- Whether a number is neither infinite nor not a number. -/
def isFinite : Double → Bool
  | .finite .. => true
  | _ => false

/-- The size of a finite number as a fraction. -/
def fraction : Double → Nat × Nat
  | .finite _ mantissa exponent => shiftFraction mantissa 1 exponent
  | _ => (0, 1)

end Double

/-- A quotient of whole numbers in double precision, rounded to the nearest whole number, a half
upwards. -/
def roundedQuotient (num den : Nat) : Nat :=
  let (a, b) := (Double.nearest false num 1).fraction
  let (c, d) := (Double.nearest false a (b * den)).fraction
  (2 * c + d) / (2 * d)

end Galley.Decimal
