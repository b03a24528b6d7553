import Galley.Markdown.Block

/-!
Loose and tight lists. An item is spread if a blank line stands in it, and a list is spread if one
stands between its items; a blank line that only ends an empty item or an empty line of a quote does
not count.
-/

set_option autoImplicit false
set_option relaxedAutoImplicit false

namespace Galley.Markdown

variable {α : Type}

/-- Whether an item with the given blocks is spread. -/
def isSpreadItem (children : List (Block α)) : Bool :=
  (children.dropWhile Block.isBlank).any Block.isBlank

/-- Whether a block is a quote that ends with an empty line. -/
def endsWithEmptyQuote (block : Block α) : Bool :=
  match block with
  | .quote _ children => (children.getLast?).all Block.isEnding
  | _ => false

/-- Whether a blank line after a block of a list leaves the list tight. -/
def excusesBlank (block : Block α) : Bool :=
  match block with
  | .item _ _ children => (children.getLast?).all endsWithEmptyQuote
  | _ => false

/-- Whether a blank line stands between items; `excused` says that one right here does not count. -/
def hasBlankBetween (excused : Bool) : List (Block α) → Bool
  | [] => false
  | .blank _ :: rest => !excused || hasBlankBetween false rest
  | block :: rest => hasBlankBetween (excusesBlank block) rest

/-- Whether a list with the given blocks is spread. -/
def isSpreadList (children : List (Block α)) : Bool :=
  hasBlankBetween false children

/-- Whether an item with the given block is among blocks that make a list loose. -/
def isSpreadBlock (block : Block α) : Bool :=
  match block with
  | .item _ _ children => isSpreadItem children
  | _ => false

/-- Whether paragraphs in a list are set apart. -/
def isLoose (children : List (Block α)) : Bool :=
  isSpreadList children || children.any isSpreadBlock

end Galley.Markdown
