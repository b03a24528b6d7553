import Galley.Data

/-!
Reading records into structures. A field has a name, and can have further ones; a field that is
missing keeps its default, and one that is not known is passed. A list gives the fields in order.
-/

set_option autoImplicit false
set_option relaxedAutoImplicit false

namespace Galley

/-- A truth value. -/
def Data.asBool : Data → Except Misfit Bool
  | .bool value => .ok value
  | d => .error (.kind d "a boolean")

/-- A text; `what` says which kind of text is asked for. -/
def Data.asTextOf (what : String) : Data → Except Misfit (List Char)
  | .text value => .ok value
  | d => .error (.kind d what)

/-- A text. -/
def Data.asText (d : Data) : Except Misfit (List Char) := d.asTextOf "a string"

/-- Texts in a list. -/
def Data.asTexts : Data → Except Misfit (List (List Char))
  | .list items => items.mapM Data.asText
  | d => .error (.kind d "a sequence")

/-- A whole number of 32 bits. -/
def Data.asWord : Data → Except Misfit Nat
  | .integer value =>
    if 0 ≤ value && value < 0x100000000 then .ok value.toNat else .error (.range value "u32")
  | d => .error (.kind d "u32")

/-- A field of a structure. -/
structure Field (σ : Type) where
  /-- The name that misfits give. -/
  name : List Char
  others : List (List Char)
  /-- Sets the field. -/
  read : σ → Data → Except Misfit σ

/-- A field with a reader for its value. -/
def Field.of {σ α : Type} (names : List String) (value : Data → Except Misfit α)
    (set : σ → α → σ) : Field σ where
  name := (names.headD "").toList
  others := (names.drop 1).map String.toList
  read s d := (value d).map (set s)

/-- Whether a field has a name. -/
def Field.hasName {σ : Type} (f : Field σ) (name : List Char) : Bool :=
  f.name == name || f.others.contains name

/-- The fields of a structure, in order. -/
structure Schema (σ : Type) where
  /-- What misfits call the structure. -/
  title : String
  default : σ
  fields : List (Field σ)

namespace Schema

/-- Reads fields by their names; `seen` holds the names of those that were read. -/
def readRecord {σ : Type} (schema : Schema σ) :
    List (List Char) → σ → List (List Char × Data) → Except Misfit σ
  | _, s, [] => .ok s
  | seen, s, (name, value) :: rest =>
    match schema.fields.find? (·.hasName name) with
    | none => readRecord schema seen s rest
    | some field =>
      if seen.contains field.name then .error (.duplicate field.name)
      else
        match field.read s value with
        | .ok s => readRecord schema (field.name :: seen) s rest
        | .error misfit => .error misfit

/-- Reads fields in order. -/
def readList {σ : Type} : List (Field σ) → σ → List Data → Except Misfit σ
  | field :: fields, s, value :: rest =>
    match field.read s value with
    | .ok s => readList fields s rest
    | .error misfit => .error misfit
  | _, s, _ => .ok s

/-- Reads a structure. -/
def read {σ : Type} (schema : Schema σ) : Data → Except Misfit σ
  | .record fields => schema.readRecord [] schema.default fields
  | .list items =>
    match readList schema.fields schema.default items with
    | .error misfit => .error misfit
    | .ok s =>
      if schema.fields.length < items.length then .error (.length items.length) else .ok s
  | d => .error (.kind d schema.title)

end Schema

end Galley
