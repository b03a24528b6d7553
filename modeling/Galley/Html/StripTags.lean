import Galley.Text.Ascii

/-!
Removing tags from markup. A tag is `<`, maybe a slash, a letter, and all up to the next `>`; a `<`
that starts no tag stays where it is.
-/

set_option autoImplicit false
set_option relaxedAutoImplicit false

namespace Galley.Html

/-- What follows the next `>`. -/
def afterClose : List Char → Option (List Char)
  | [] => none
  | c :: rest => if c = '>' then some rest else afterClose rest

/-- What follows the tag that a text after `<` goes on with, if it does. -/
def afterTag? : List Char → Option (List Char)
  | '/' :: c :: rest => if Text.isLetter c then afterClose rest else none
  | c :: rest => if Text.isLetter c then afterClose rest else none
  | [] => none

/-- Removes tags, after dropping `skip` characters. -/
def stripTagsFrom : Nat → List Char → List Char
  | _, [] => []
  | skip + 1, _ :: rest => stripTagsFrom skip rest
  | 0, c :: rest =>
    if c = '<' then
      match afterTag? rest with
      | some after => stripTagsFrom (rest.length - after.length) rest
      | none => c :: stripTagsFrom 0 rest
    else c :: stripTagsFrom 0 rest

/-- Removes every tag, keeping the text between them. -/
def stripTags (s : List Char) : List Char := stripTagsFrom 0 s

end Galley.Html
