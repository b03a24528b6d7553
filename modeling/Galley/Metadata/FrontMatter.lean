import Galley.Data.Schema
import Galley.Metadata.Fence
import Galley.Yaml.Value.Reading

/-!
What the metadata of a post says. The block is a mapping, or empty; entries without a value are
left out, and scalars at the top, or in lists there, count as texts. Of it come the title, the
date, the tags and the summary.
-/

set_option autoImplicit false
set_option relaxedAutoImplicit false

namespace Galley.Metadata

/-- The metadata of a post. -/
structure FrontMatter where
  title : List Char := []
  date : List Char := []
  tags : List (List Char) := []
  summary : List Char := []
deriving DecidableEq, Repr, Inhabited

/-- What metadata is read from. -/
def FrontMatter.schema : Schema FrontMatter where
  title := "struct FrontMatter"
  default := {}
  fields :=
    [.of ["title"] Data.asText fun m title => { m with title },
      .of ["date"] Data.asText fun m date => { m with date },
      .of ["tags"] Data.asTexts fun m tags => { m with tags },
      .of ["summary"] Data.asText fun m summary => { m with summary }]

/-- Why a block is not read. -/
inductive BlockFault where
  | yaml (fault : Yaml.Fault)
  | keyNotText
  | keyNotFinite
  | misfit (cause : Misfit)
deriving Repr, Inhabited

/-- The text of a fault. -/
def BlockFault.message : BlockFault → List Char
  | .yaml fault => fault.message.toList
  | .keyNotText => "key must be a string".toList
  | .keyNotFinite => "float key must be finite".toList
  | .misfit cause => cause.message

/-- Why the metadata of a text is not read. -/
inductive MetadataError where
  | unterminated
  | parse (fault : BlockFault)
  | rootType
deriving Repr, Inhabited

/-- The text of an error. -/
def MetadataError.message : MetadataError → List Char
  | .unterminated => "Unterminated YAML frontmatter block: expected closing '---'".toList
  | .parse fault => "Frontmatter parse error: ".toList ++ fault.message
  | .rootType => "Frontmatter must be a YAML mapping at the top level".toList

/-- The name of a field. -/
def fieldName : Yaml.Value → Except BlockFault (List Char)
  | .text value => .ok value
  | .bool value => .ok (Data.boolText value)
  | .integer value => .ok (Decimal.writeInt value)
  | .number value => if value.isFinite then .ok value.scientific else .error .keyNotFinite
  | .null | .sequence _ | .mapping _ | .tagged _ _ => .error .keyNotText

/-- The name of the field that holds a tagged value. -/
def tagName (tag : List Char) : List Char :=
  '!' :: (match tag with
    | '!' :: c :: rest => c :: rest
    | tag => tag)

mutual

/-- The data that a value stands for; numbers that are not finite are none. -/
def dataOf : Yaml.Value → Except BlockFault Data
  | .null => .ok .null
  | .bool value => .ok (.bool value)
  | .integer value => .ok (.integer value)
  | .number value => .ok (if value.isFinite then .number value else .null)
  | .text value => .ok (.text value)
  | .sequence items => do return .list (← dataOfItems items)
  | .mapping entries => do return .ofFields (← dataOfEntries entries)
  | .tagged tag value => do return .record [(tagName tag, ← dataOf value)]

/-- The data that items stand for. -/
def dataOfItems : List Yaml.Value → Except BlockFault (List Data)
  | [] => .ok []
  | item :: rest => do
    let d ← dataOf item
    return d :: (← dataOfItems rest)

/-- The fields that entries stand for. -/
def dataOfEntries : List (Yaml.Value × Yaml.Value) → Except BlockFault (List (List Char × Data))
  | [] => .ok []
  | (key, value) :: rest => do
    let name ← fieldName key
    let d ← dataOf value
    return (name, d) :: (← dataOfEntries rest)

end

mutual

/-- Data with its scalars, and those in its lists, as texts. -/
def asTexts : Data → Data
  | .bool value => .text (Data.boolText value)
  | .integer value => .text (Decimal.writeInt value)
  | .number value => .text value.scientific
  | .list items => .list (itemsAsTexts items)
  | d => d

/-- Items with their scalars as texts. -/
def itemsAsTexts : List Data → List Data
  | [] => []
  | d :: rest => asTexts d :: itemsAsTexts rest

end

/-- The fields of a block, without those that have no value. -/
def cleanFields (fields : List (List Char × Data)) : List (List Char × Data) :=
  (fields.filter fun field => !field.2.isNull).map fun (name, value) => (name, asTexts value)

/-- The fields that a block of data says. -/
def fieldsOf : Data → Except MetadataError (List (List Char × Data))
  | .null => .ok []
  | .record fields => .ok (cleanFields fields)
  | _ => .error .rootType

/-- The fields of a block. -/
def readBlock (block : List Char) : Except MetadataError (List (List Char × Data)) :=
  if Text.isBlankText block then .ok []
  else
    match Yaml.read block with
    | .error fault => .error (.parse (.yaml fault))
    | .ok value =>
      match dataOf value with
      | .error fault => .error (.parse fault)
      | .ok d => fieldsOf d

/-- A text whose metadata block was read. -/
structure Extraction where
  fields : List (List Char × Data) := []
  body : List Char
deriving Repr, Inhabited

/-- Reads the metadata block of a text. -/
def extract (s : List Char) : Except MetadataError Extraction :=
  match locate s with
  | .absent => .ok { body := s }
  | .unterminated => .error .unterminated
  | .found block body => (readBlock block).map fun fields => { fields, body }

/-- The metadata that fields give. -/
def frontMatter (fields : List (List Char × Data)) : Except MetadataError FrontMatter :=
  match FrontMatter.schema.read (.record fields) with
  | .ok matter => .ok matter
  | .error misfit => .error (.parse (.misfit misfit))

/-- Where the body of a text starts, in bytes. -/
def bodyStart (s : List Char) (extraction : Extraction) : Nat :=
  byteCount s - byteCount extraction.body

/-- The metadata and the body of a text. -/
def split (s : List Char) : Except MetadataError (FrontMatter × List Char) := do
  let extraction ← extract s
  return (← frontMatter extraction.fields, extraction.body)

end Galley.Metadata
