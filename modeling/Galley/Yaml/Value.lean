import Galley.Decimal.Double

/-!
The values of a metadata block. Two mappings are the same if they have the same entries, in any
order; whole numbers differ from all others.
-/

set_option autoImplicit false
set_option relaxedAutoImplicit false

namespace Galley.Yaml

open Decimal (Double)

/-- A value. -/
inductive Value where
  | null
  | bool (value : Bool)
  | integer (value : Int)
  | number (value : Double)
  | text (value : List Char)
  | sequence (items : List Value)
  | mapping (entries : List (Value × Value))
  | tagged (tag : List Char) (value : Value)
deriving Repr, Inhabited

/-- Whether two numbers are the same: zeros are, whatever their signs. -/
def sameNumber (a b : Double) : Bool := a == b || (a.isZero && b.isZero)

/-- Whether two values are the same; `depth` bounds how far down they are compared. -/
def Value.same : Nat → Value → Value → Bool
  | 0, _, _ => false
  | depth + 1, v, w =>
    match v, w with
    | .null, .null => true
    | .bool a, .bool b => a == b
    | .integer a, .integer b => a == b
    | .number a, .number b => sameNumber a b
    | .text a, .text b => a == b
    | .sequence a, .sequence b => a.length == b.length && (a.zip b).all fun (x, y) => same depth x y
    | .mapping a, .mapping b =>
      a.length == b.length &&
        a.all fun (k, x) => b.any fun (l, y) => same depth k l && same depth x y
    | .tagged s x, .tagged t y => s == t && same depth x y
    | _, _ => false

end Galley.Yaml
