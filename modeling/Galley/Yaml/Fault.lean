/-!
What can be wrong with a metadata block.
-/

set_option autoImplicit false
set_option relaxedAutoImplicit false

namespace Galley.Yaml

/-- Why a text is not read. -/
inductive Fault where
  /-- A character that may not stand in a text at all. -/
  | control
  /-- A character that starts nothing. -/
  | unexpectedCharacter
  /-- A text that should be a key and has no colon after it. -/
  | missingColon
  /-- An entry or a key where none may start. -/
  | misplacedIndicator
  | tab
  | directive
  | anchor
  | tag
  | blockHeader
  | unclosedQuote
  | escape
  /-- A colon before an indicator in a collection between brackets. -/
  | unexpectedColon
  /-- A document that does not start where it should. -/
  | documentStart
  /-- A node without content. -/
  | missingContent
  /-- A collection that goes on with something else than an entry. -/
  | missingEntry
  | undefinedTag
  | unknownAnchor
  /-- Collections in collections beyond the limit. -/
  | tooDeep
  /-- Aliases that stand for more than the limit. -/
  | tooManyAliases
  | severalDocuments
  | duplicateKey
  /-- A number that no value can hold. -/
  | integerRange
  /-- A value that is not what its tag says. -/
  | tagMismatch
deriving DecidableEq, Repr, Inhabited

/-- The text of a fault. -/
def Fault.message : Fault → String
  | .control => "control characters are not allowed"
  | .unexpectedCharacter => "found a character that cannot start any token"
  | .missingColon => "could not find the expected colon after a key"
  | .misplacedIndicator => "an entry or a key is not allowed here"
  | .tab => "found a tab that violates indentation"
  | .directive => "found a directive that is not known"
  | .anchor => "did not find the name of an anchor"
  | .tag => "did not find the rest of a tag"
  | .blockHeader => "did not find the end of the line after a block indicator"
  | .unclosedQuote => "a quoted text is not closed"
  | .escape => "found an escape that is not known"
  | .unexpectedColon => "found an unexpected colon"
  | .documentStart => "did not find the expected start of a document"
  | .missingContent => "did not find the expected content of a node"
  | .missingEntry => "did not find the expected entry of a collection"
  | .undefinedTag => "found an undefined tag handle"
  | .unknownAnchor => "unknown anchor"
  | .tooDeep => "recursion limit exceeded"
  | .tooManyAliases => "repetition limit exceeded"
  | .severalDocuments => "more than one document"
  | .duplicateKey => "duplicate entry in a mapping"
  | .integerRange => "integer out of range"
  | .tagMismatch => "a value does not fit its tag"

end Galley.Yaml
