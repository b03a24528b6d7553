import Galley.Decimal.Shortest
import Galley.Text.Quoted

/-!
Data as it is exchanged: values, lists, and records whose fields are in the order of their names.
Where data of another kind is asked for, the misfit says what was found.
-/

set_option autoImplicit false
set_option relaxedAutoImplicit false

namespace Galley

/-- A piece of data. -/
inductive Data where
  | null
  | bool (value : Bool)
  | integer (value : Int)
  | number (value : Decimal.Double)
  | text (value : List Char)
  | list (items : List Data)
  | record (fields : List (List Char × Data))
deriving Repr, Inhabited

namespace Data

/-- A truth value as a text. -/
def boolText (value : Bool) : List Char := if value then "true".toList else "false".toList

/-- Puts a field into a record. A later value of a name takes the place of an earlier one. -/
def putField (name : List Char) (value : Data) :
    List (List Char × Data) → List (List Char × Data)
  | [] => [(name, value)]
  | field :: rest =>
    if name = field.1 then (name, value) :: rest
    else if name < field.1 then (name, value) :: field :: rest
    else field :: putField name value rest

/-- A record of fields in any order. -/
def ofFields (fields : List (List Char × Data)) : Data :=
  .record (fields.foldl (fun done (name, value) => putField name value done) [])

/-- Whether data is no value at all. -/
def isNull : Data → Bool
  | .null => true
  | _ => false

/-- What data is, as misfits name it. -/
def describe : Data → List Char
  | .null => "null".toList
  | .bool value => "boolean \x60".toList ++ boolText value ++ ['\x60']
  | .integer value => "integer \x60".toList ++ Decimal.writeInt value ++ ['\x60']
  | .number value => "floating point \x60".toList ++ value.scientific ++ ['\x60']
  | .text value => "string ".toList ++ Text.quoted value
  | .list _ => "sequence".toList
  | .record _ => "map".toList

end Data

/-- Why data is not what was asked for. -/
inductive Misfit where
  | kind (found : Data) (expected : String)
  | range (found : Int) (expected : String)
  /-- A list with more items than there are fields. -/
  | length (count : Nat)
  | duplicate (name : List Char)
deriving Repr, Inhabited

/-- The text of a misfit. -/
def Misfit.message : Misfit → List Char
  | .kind found expected =>
    "invalid type: ".toList ++ found.describe ++ ", expected ".toList ++ expected.toList
  | .range found expected =>
    "invalid value: ".toList ++ (Data.integer found).describe ++ ", expected ".toList ++
      expected.toList
  | .length count =>
    "invalid length ".toList ++ Nat.toDigits 10 count ++
      ", expected fewer elements in array".toList
  | .duplicate name => "duplicate field \x60".toList ++ name ++ ['\x60']

end Galley
