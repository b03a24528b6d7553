import Galley.Decimal.Read
import Galley.Yaml.Fault
import Galley.Yaml.Value

/-!
The values of scalars. A plain scalar is empty, a truth value, a whole number, a number or a text,
the first of these that it can be; its tag can ask for one of them. Whole numbers are written in
one of four bases and fit into 64 bits.
-/

set_option autoImplicit false
set_option relaxedAutoImplicit false

namespace Galley.Yaml

open Decimal (Double)

/-- The scalars that stand for no value. -/
def isNullWord (s : List Char) : Bool :=
  ["null", "Null", "NULL", "~"].any (·.toList == s)

/-- The truth value that a scalar stands for. -/
def bool? (s : List Char) : Option Bool :=
  if ["true", "True", "TRUE"].any (·.toList == s) then some true
  else if ["false", "False", "FALSE"].any (·.toList == s) then some false
  else none

/-- Drops a sign. -/
def dropSign : List Char → List Char
  | '-' :: rest => rest
  | '+' :: rest => rest
  | s => s

/-- Digits with zeros in front, which are a text. -/
def isPadded (s : List Char) : Bool :=
  match dropSign s with
  | '0' :: c :: rest => (c :: rest).all Text.isDigit
  | _ => false

/-- Digits in a base that is given by its mark. -/
def digits? (base : Nat) (isBaseDigit : Char → Bool) (s : List Char) : Option Nat :=
  if s.isEmpty || !s.all isBaseDigit then none else some (Text.readDigits base s)

/-- Binary digits. -/
def isBinaryDigit (c : Char) : Bool := c == '0' || c == '1'

/-- Octal digits. -/
def isOctalDigit (c : Char) : Bool := '0' ≤ c && c ≤ '7'

/-- A number after the mark of its base. -/
def marked? : List Char → Option Nat
  | '0' :: 'x' :: rest => digits? 16 Text.isHexDigit rest
  | '0' :: 'o' :: rest => digits? 8 isOctalDigit rest
  | '0' :: 'b' :: rest => digits? 2 isBinaryDigit rest
  | _ => none

/-- A whole number with its sign, of any size. -/
def integer? (s : List Char) : Option Int :=
  let decimal? (digits : List Char) : Option Nat :=
    if isPadded s then none else digits? 10 Text.isDigit digits
  match s with
  | '-' :: rest => (marked? rest <|> decimal? rest).map fun n => -(n : Int)
  | '+' :: rest => (marked? rest <|> decimal? rest).map (·)
  | rest => (marked? rest <|> decimal? rest).map (·)

/-- What a whole number comes to: too large for a value, or too large for a whole number. -/
inductive Fit where
  | fits
  | tooLarge
  | beyond
deriving DecidableEq, Repr, Inhabited

/-- Whether a whole number is a value. One that fits into 128 bits only is none. -/
def fit (n : Int) : Fit :=
  if -0x8000000000000000 ≤ n && n < 0x10000000000000000 then .fits
  else if -0x80000000000000000000000000000000 ≤ n && n < 0x100000000000000000000000000000000 then
    .tooLarge
  else .beyond

/-- A number. -/
def number? (s : List Char) : Option Double :=
  let unsigned := match s with
    | '+' :: rest => rest
    | s => s
  let word (names : List String) (s : List Char) : Bool := names.any (·.toList == s)
  if s.head? == some '+' && (unsigned.head? == some '+' || unsigned.head? == some '-') then none
  else if word [".inf", ".Inf", ".INF"] unsigned then some (.infinite false)
  else if word ["-.inf", "-.Inf", "-.INF"] s then some (.infinite true)
  else if word [".nan", ".NaN", ".NAN"] s then some .nan
  else (Decimal.double? unsigned).filter Double.isFinite

/-- The whole number in a scalar, unless no whole number is that large. -/
def wholeValue? (s : List Char) : Option (Except Fault Value) :=
  match integer? s with
  | none => none
  | some n =>
    match fit n with
    | .fits => some (.ok (.integer n))
    | .tooLarge => some (.error .integerRange)
    | .beyond => none

/-- The value of a plain scalar. -/
def plainValue (s : List Char) : Except Fault Value :=
  if s.isEmpty || isNullWord s then .ok .null
  else
    match bool? s, wholeValue? s with
    | some value, _ => .ok (.bool value)
    | none, some result => result
    | none, none =>
      match if isPadded s then none else number? s with
      | some value => .ok (.number value)
      | none => .ok (.text s)

/-- The stem of the tags that ask for a kind of value. -/
def coreTag (name : String) : List Char := "tag:yaml.org,2002:".toList ++ name.toList

/-- The value of a scalar whose tag is not its own. -/
def scalarValue (tag : Option (List Char)) (isPlain : Bool) (s : List Char) :
    Except Fault Value :=
  match tag with
  | none => if isPlain then plainValue s else .ok (.text s)
  | some tag =>
    if tag == coreTag "bool" then
      ((bool? s).map fun value => .ok (.bool value)).getD (.error .tagMismatch)
    else if tag == coreTag "int" then (wholeValue? s).getD (.error .tagMismatch)
    else if tag == coreTag "float" then
      ((number? s).map fun value => .ok (.number value)).getD (.error .tagMismatch)
    else if tag == coreTag "null" then
      if isNullWord s then .ok .null else .error .tagMismatch
    else .ok (.text s)

end Galley.Yaml
