import Galley.Text.EntityTable

/-!
Character references: what a name or a number between `&` and `;` stands for.
-/

set_option autoImplicit false
set_option relaxedAutoImplicit false

namespace Galley.Text

/-- What a named reference stands for. The four that escaping writes come first; the rest is
looked up. -/
def namedReference? (name : List Char) : Option (List Char) :=
  if name = ['a', 'm', 'p'] then some ['&']
  else if name = ['l', 't'] then some ['<']
  else if name = ['g', 't'] then some ['>']
  else if name = ['q', 'u', 'o', 't'] then some ['"']
  else entityTable[String.ofList name]?

/-- Whether a number is the code of a character: at most U+10FFFF and no surrogate. -/
def isScalar (code : Nat) : Bool :=
  code < 0xD800 || (0xE000 ≤ code && code ≤ 0x10FFFF)

end Galley.Text
