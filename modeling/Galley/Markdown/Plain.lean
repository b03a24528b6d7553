import Galley.Markdown.Source
import Galley.Text.Blank
import Galley.Text.Casing
import Galley.Text.Entity
import Galley.Text.Punctuation

/-!
Text in which only backslash escapes and character references have a meaning: labels, link
targets, titles and the words after a fence. Labels are compared by their identifiers, which do not
depend on case or on the amount of white space.
-/

set_option autoImplicit false
set_option relaxedAutoImplicit false

namespace Galley.Markdown

/-- Whether a code stands for itself in a numeric reference; the others, mostly controls and
noncharacters, are shown as the replacement character. -/
def isReferableCode (code : Nat) : Bool :=
  Text.isScalar code && !(code < 9) && code != 0x0B && !(0x0E ≤ code && code < 0x20) &&
    !(0x7F ≤ code && code < 0xA0) && !(0xFDD0 ≤ code && code < 0xFDF0) &&
    !(code % 0x10000 == 0xFFFE) && !(code % 0x10000 == 0xFFFF)

/-- What a numeric reference stands for. -/
def numericReference (base : Nat) (digits : List Char) : Char :=
  let code := Text.readDigits base digits
  if isReferableCode code then Char.ofNat code else Char.ofNat 0xFFFD

/-- A run of characters of a class, at least one and at most `limit`, closed by a semicolon. -/
def closedRun (isMember : Char → Bool) (limit : Nat) (s : List Char) : Option (List Char) :=
  let run := s.takeWhile isMember
  if run.isEmpty || limit < run.length then none
  else
    match s.drop run.length with
    | ';' :: _ => some run
    | _ => none

/-- The reference after an ampersand: what it stands for and how many characters it takes. -/
def characterReference? : List Char → Option (List Char × Nat)
  | '#' :: 'x' :: rest | '#' :: 'X' :: rest =>
    (closedRun Text.isHexDigit 6 rest).map fun run => ([numericReference 16 run], run.length + 3)
  | '#' :: rest =>
    (closedRun Text.isDigit 7 rest).map fun run => ([numericReference 10 run], run.length + 2)
  | rest =>
    (closedRun Text.isAlnum 31 rest).bind fun run =>
      (Text.namedReference? run).map fun value => (value, run.length + 1)

/-- Replaces escapes and references, after dropping `skip` characters. -/
def plainTextFrom : Nat → List Char → List Char
  | _, [] => []
  | skip + 1, _ :: rest => plainTextFrom skip rest
  | 0, c :: rest =>
    if c == '\\' then
      match rest with
      | d :: _ =>
        if Text.isAsciiPunctuation d then d :: plainTextFrom 1 rest else c :: plainTextFrom 0 rest
      | [] => [c]
    else if c == '&' then
      match characterReference? rest with
      | some (value, width) => value ++ plainTextFrom width rest
      | none => c :: plainTextFrom 0 rest
    else c :: plainTextFrom 0 rest

/-- The text without its escapes and with its references replaced. -/
def plainText (s : List Char) : List Char :=
  plainTextFrom 0 s

/-- White space that labels may differ in. -/
def isLabelSpace (c : Char) : Bool :=
  c == '\t' || c == '\n' || c == '\r' || c == ' '

/-- The identifier of a label: its words joined by single blanks, in lower and then in upper case,
so that letters with several capitals agree. -/
def identifier (label : List Char) : List Char :=
  Text.upper (Text.lower ([' '].intercalate (Text.wordsBy isLabelSpace label)))

end Galley.Markdown
