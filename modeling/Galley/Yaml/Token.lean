/-!
The tokens of a metadata block: directives and marks of documents, the starts and ends of
collections, indicators, and scalars with their anchors and tags.
-/

set_option autoImplicit false
set_option relaxedAutoImplicit false

namespace Galley.Yaml

/-- A token. -/
inductive Token where
  | version (major minor : Nat)
  | tagHandle (handle stem : List Char)
  | documentStart
  | documentEnd
  | blockSequence
  | blockMapping
  | blockEnd
  | flowSequence
  | flowSequenceEnd
  | flowMapping
  | flowMappingEnd
  | entry
  | flowEntry
  | key
  | value
  | alias (name : List Char)
  | anchor (name : List Char)
  | tag (handle suffix : List Char)
  | scalar (isPlain : Bool) (text : List Char)
deriving DecidableEq, Repr, Inhabited

end Galley.Yaml
