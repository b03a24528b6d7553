import Galley.Html.StripTags
import Galley.Slug
import Galley.Text.Escape

/-!
The outline of a page: its headings of the second and third level, found in the markup itself, so
that headings of raw markup are seen as well. A heading must be closed on the line on which its tag
ends. An identifier is used if it is the first attribute, or else it is made from the text.
-/

set_option autoImplicit false
set_option relaxedAutoImplicit false

namespace Galley.Html

/-- An entry of an outline. -/
structure Heading where
  id : List Char
  text : List Char
  level : Nat
deriving DecidableEq, Repr, Inhabited

/-- The start tag of a heading: its level, its identifier, and what follows the tag. -/
structure HeadingOpen where
  level : Nat
  id : Option (List Char)
  rest : List Char

/-- The level that a character stands for. -/
def outlineLevel? (c : Char) : Option Nat :=
  if c = '2' then some 2 else if c = '3' then some 3 else none

/-- An identifier as the first attribute, and what follows it. -/
def firstId? (s : List Char) : Option (List Char × List Char) :=
  match s, s.dropWhile Text.isBlank with
  | c :: _, i :: d :: '=' :: '"' :: rest =>
    if Text.isBlank c && i.toLower == 'i' && d.toLower == 'd' then
      match rest.dropWhile (· != '"') with
      | _ :: after => some (rest.takeWhile (· != '"'), after)
      | [] => none
    else none
  | _, _ => none

/-- The start tag of a heading at the front of a text. An identifier that no end of the tag follows
is no identifier. -/
def headingOpen? : List Char → Option HeadingOpen
  | '<' :: h :: n :: rest =>
    if h = 'h' ∨ h = 'H' then
      (outlineLevel? n).bind fun level =>
        let withId := (firstId? rest).bind fun (id, after) =>
          (afterClose after).map fun after => (⟨level, some id, after⟩ : HeadingOpen)
        match withId with
        | some found => some found
        | none => (afterClose rest).map fun after => ⟨level, none, after⟩
    else none
  | _ => none

/-- Characters that end a line of markup. -/
def isLineEnd (c : Char) : Bool :=
  c == '\n' || c == '\r' || c.toNat == 0x2028 || c.toNat == 0x2029

/-- The end tag of a heading, in lower case. -/
def headingClose (level : Nat) : List Char :=
  ['<', '/', 'h', if level = 2 then '2' else '3', '>']

/-- What stands between the tags of a heading, if it is closed on the same line. -/
def headingInner? (level : Nat) : List Char → Option (List Char)
  | [] => none
  | c :: rest =>
    if isLineEnd c then none
    else if Text.asciiLower ((c :: rest).take 5) = headingClose level then some []
    else (headingInner? level rest).map (c :: ·)

/-- The text of a heading: without tags and the blanks around it, and with references replaced. -/
def headingText (inner : List Char) : List Char :=
  Text.unescape (Text.trim (stripTags inner))

/-- The identifier that a heading asks for. -/
def headingCandidate (id : Option (List Char)) (text : List Char) : List Char :=
  match id.map Text.unescape with
  | some (c :: rest) => c :: rest
  | _ => headingId text

/-- The headings of a text, after dropping `skip` characters. Headings without text are passed
over. -/
def headingsFrom : Nat → Slugger → List Char → List Heading
  | _, _, [] => []
  | skip + 1, slugger, _ :: rest => headingsFrom skip slugger rest
  | 0, slugger, c :: rest =>
    match headingOpen? (c :: rest) with
    | none => headingsFrom 0 slugger rest
    | some opening =>
      match headingInner? opening.level opening.rest with
      | none => headingsFrom 0 slugger rest
      | some inner =>
        let skip := rest.length - opening.rest.length + inner.length + 5
        let text := headingText inner
        if text.isEmpty then headingsFrom skip slugger rest
        else
          let (slugger, id) := slugger.claim (headingCandidate opening.id text)
          ⟨id, text, opening.level⟩ :: headingsFrom skip slugger rest

/-- The outline of a page. -/
def outline (html : List Char) : List Heading :=
  headingsFrom 0 .empty html

end Galley.Html
