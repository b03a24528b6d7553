import Galley.Text.Entity

/-!
Escaping text for HTML and reading escaped text back. Text content escapes `&`, `<` and `>`;
attribute values escape the double quote as well. Reading replaces every reference that is closed
by a semicolon and stands for something; all else is left alone.
-/

set_option autoImplicit false
set_option relaxedAutoImplicit false

namespace Galley.Text

/-- One character of text content. -/
def escapeTextChar (c : Char) : List Char :=
  if c = '&' then ['&', 'a', 'm', 'p', ';']
  else if c = '<' then ['&', 'l', 't', ';']
  else if c = '>' then ['&', 'g', 't', ';']
  else [c]

/-- One character of a double-quoted attribute value. -/
def escapeAttributeChar (c : Char) : List Char :=
  if c = '"' then ['&', 'q', 'u', 'o', 't', ';'] else escapeTextChar c

/-- Text content. -/
def escapeText (s : List Char) : List Char :=
  s.flatMap escapeTextChar

/-- A double-quoted attribute value. -/
def escapeAttribute (s : List Char) : List Char :=
  s.flatMap escapeAttributeChar

/-- The character that a number stands for: none for zero, for surrogates and beyond U+10FFFF. -/
def numberedChar? (code : Nat) : Option Char :=
  if code != 0 && isScalar code then some (Char.ofNat code) else none

/-- The character that the text between `&` and `;` stands for. A named reference for two
characters counts as its first. -/
def referenceChar? : List Char → Option Char
  | '#' :: 'x' :: digits | '#' :: 'X' :: digits =>
    if digits.isEmpty || !digits.all isHexDigit then none
    else numberedChar? (readDigits 16 digits)
  | '#' :: digits =>
    if digits.isEmpty || !digits.all isDigit then none
    else numberedChar? (readDigits 10 digits)
  | name => (namedReference? name).bind List.head?

/-- The reference right after an `&`, with the number of characters it takes there. -/
def reference? (s : List Char) : Option (Char × Nat) :=
  let body := s.takeWhile fun c => c != ';' && c != '&'
  match s.drop body.length with
  | ';' :: _ => (referenceChar? body).map fun c => (c, body.length + 1)
  | _ => none

/-- Replaces references, after dropping `skip` characters. -/
def unescapeFrom : Nat → List Char → List Char
  | _, [] => []
  | skip + 1, _ :: rest => unescapeFrom skip rest
  | 0, c :: rest =>
    if c = '&' then
      match reference? rest with
      | some (d, width) => d :: unescapeFrom width rest
      | none => '&' :: unescapeFrom 0 rest
    else c :: unescapeFrom 0 rest

/-- Replaces every reference by what it stands for. -/
def unescape (s : List Char) : List Char :=
  unescapeFrom 0 s

end Galley.Text
