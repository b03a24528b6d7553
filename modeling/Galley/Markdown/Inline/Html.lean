import Galley.Markdown.Source
import Galley.Text.Entity

/-!
Raw HTML in text: tags, comments, declarations, instructions and character data sections. Each
reader takes the glyphs after what it has passed and gives the glyphs after the `>` that ends the
construct, or nothing.
-/

set_option autoImplicit false
set_option relaxedAutoImplicit false

namespace Galley.Markdown

/-- Characters of tag names after the first. -/
def isTagNameChar (c : Char) : Bool := Text.isAlnum c || c == '-'

/-- Characters that start the name of an attribute. -/
def startsAttributeName (c : Char) : Bool := Text.isLetter c || c == ':' || c == '_'

/-- Characters of attribute names. -/
def isAttributeNameChar (c : Char) : Bool :=
  Text.isAlnum c || c == '-' || c == '.' || c == ':' || c == '_'

/-- Goes past the first place where the characters `mark` stand in a row. -/
def htmlPast (mark : List Char) : List Glyph → Option (List Glyph)
  | [] => none
  | g :: rest =>
    if ((g :: rest).take mark.length).map (·.char) == mark then
      some ((g :: rest).drop mark.length)
    else htmlPast mark rest

/-- A comment after `<!--`. It may be over at once, by `>` or `->`. -/
def htmlComment (gs : List Glyph) : Option (List Glyph) :=
  match gs.map (·.char) with
  | '>' :: _ => some (gs.drop 1)
  | '-' :: '>' :: _ => some (gs.drop 2)
  | _ => htmlPast ['-', '-', '>'] gs

/-- Where in a tag the reader stands. -/
inductive HtmlTagState where
  /-- Between attributes. -/
  | between
  /-- In the name of an attribute. -/
  | name
  /-- After the name of an attribute. -/
  | afterName
  /-- Before the value of an attribute. -/
  | beforeValue
  /-- In a value between the given quotes. -/
  | quoted (quote : Char)
  /-- Right after a quoted value. -/
  | afterQuoted
  /-- In a value without quotes. -/
  | unquoted
  /-- After a slash, where only the end may follow. -/
  | slashed

/-- What a character between attributes leads to: an end, another state, or nothing. -/
def htmlBetween (g : Glyph) : Option (Option HtmlTagState) :=
  if g.isSpaceOrEol then some (some .between)
  else if g.char == '/' then some (some .slashed)
  else if g.char == '>' then some none
  else if startsAttributeName g.char then some (some .name)
  else none

/-- What a character after the name of an attribute leads to. -/
def htmlAfterName (g : Glyph) : Option (Option HtmlTagState) :=
  if g.isSpaceOrEol then some (some .afterName)
  else if g.char == '=' then some (some .beforeValue)
  else htmlBetween g

/-- One step through a tag: `none` if the tag is broken, `some none` at its end. -/
def htmlTagStep (state : HtmlTagState) (g : Glyph) : Option (Option HtmlTagState) :=
  match state with
  | .between => htmlBetween g
  | .name => if isAttributeNameChar g.char then some (some .name) else htmlAfterName g
  | .afterName => htmlAfterName g
  | .beforeValue =>
    if g.isSpaceOrEol then some (some .beforeValue)
    else if g.char == '"' || g.char == '\'' then some (some (.quoted g.char))
    else if g.char == '<' || g.char == '=' || g.char == '>' || g.char == '\x60' then none
    else some (some .unquoted)
  | .quoted quote => if g.char == quote then some (some .afterQuoted) else some (some state)
  | .afterQuoted =>
    if g.isSpaceOrEol || g.char == '>' || g.char == '/' then htmlBetween g else none
  | .unquoted =>
    if g.char == '"' || g.char == '\'' || g.char == '<' || g.char == '=' || g.char == '\x60' then
      none
    else if g.isSpaceOrEol || g.char == '/' || g.char == '>' then htmlBetween g
    else some (some .unquoted)
  | .slashed => if g.char == '>' then some none else none

/-- The rest of an opening tag. -/
def htmlTagRest (state : HtmlTagState) : List Glyph → Option (List Glyph)
  | [] => none
  | g :: rest =>
    match htmlTagStep state g with
    | none => none
    | some none => some rest
    | some (some state) => htmlTagRest state rest

/-- An opening tag from its second character on. -/
def htmlOpeningTag : List Glyph → Option (List Glyph)
  | [] => none
  | g :: rest =>
    if isTagNameChar g.char then htmlOpeningTag rest
    else if g.isSpaceOrEol || g.char == '/' || g.char == '>' then htmlTagRest .between (g :: rest)
    else none

/-- A closing tag after its slash and first letter. -/
def htmlClosingTag (gs : List Glyph) : Option (List Glyph) :=
  match (gs.dropWhile fun g => isTagNameChar g.char).dropWhile Glyph.isSpaceOrEol with
  | g :: rest => if g.char == '>' then some rest else none
  | [] => none

/-- A declaration, a comment or a character data section, after `<!`. -/
def htmlDeclaration : List Glyph → Option (List Glyph)
  | [] => none
  | g :: rest =>
    if g.char == '-' then
      match rest with
      | ⟨'-', _, _, _, _⟩ :: rest => htmlComment rest
      | _ => none
    else if g.char == '[' then
      if (rest.take 6).map (·.char) == ['C', 'D', 'A', 'T', 'A', '['] then
        htmlPast [']', ']', '>'] (rest.drop 6)
      else none
    else if Text.isLetter g.char then htmlPast ['>'] rest
    else none

/-- Raw HTML after its `<`: the glyphs that follow it. -/
def htmlText : List Glyph → Option (List Glyph)
  | [] => none
  | g :: rest =>
    if g.char == '!' then htmlDeclaration rest
    else if g.char == '/' then
      match rest with
      | h :: rest => if Text.isLetter h.char then htmlClosingTag rest else none
      | [] => none
    else if g.char == '?' then htmlPast ['?', '>'] rest
    else if Text.isLetter g.char then htmlOpeningTag rest
    else none

/-- The text of raw HTML: on each further line, up to `indent` leading blanks are dropped. -/
def htmlValue (indent left : Nat) (before : List Glyph) : List Glyph → List Char
  | [] => glyphText before.reverse
  | g :: rest =>
    if g.isEol then htmlValue indent indent (g :: before) rest
    else if g.isSpace && 0 < left then htmlValue indent (left - 1) before rest
    else htmlValue indent 0 (g :: before) rest

end Galley.Markdown
