import Galley.Markdown.Fault
import Galley.Text.Blank
import Galley.Text.Identifier

/-!
Component tags and expressions. A tag is read glyph by glyph, and so is an expression, which ends
at the brace that balances its first one. Both may run over several lines; a reader that comes to
the end of what it was given reports that it is starved, and says what it would mean if nothing
followed.
-/

set_option autoImplicit false
set_option relaxedAutoImplicit false

namespace Galley.Markdown

/-- What reading a construct comes to. -/
inductive Scan (α : Type) where
  /-- The construct is there, and `rest` follows it. -/
  | done (value : α) (rest : List Glyph)
  /-- Something else is there. -/
  | refused
  /-- The construct is there and is wrong. -/
  | fault (fault : Fault)
  /-- More is needed. At the end of a document that is a fault, or else a refusal. -/
  | starved (inExpression : Bool) (atEnd : Option (Point → Fault))

namespace Scan

variable {α β : Type}

/-- Goes on after a construct that is there. -/
def andThen (scan : Scan α) (next : α → List Glyph → Scan β) : Scan β :=
  match scan with
  | .done value rest => next value rest
  | .refused => .refused
  | .fault f => .fault f
  | .starved inExpression atEnd => .starved inExpression atEnd

/-- Changes the value of a construct that is there. -/
def map (f : α → β) (scan : Scan α) : Scan β :=
  scan.andThen fun value rest => .done (f value) rest

end Scan

/-- An attribute of a component tag. -/
inductive Attribute where
  /-- A name, with a quoted value or none. -/
  | literal (name : List Char) (value : Option (List Char))
  /-- A name with an expression for its value. -/
  | computed (name : List Char) (value : List Char)
  /-- An expression that stands for attributes. -/
  | spread (value : List Char)
deriving DecidableEq, Repr, Inhabited

/-- A component tag. A fragment has no name. -/
structure Tag where
  span : Span
  name : Option (List Char)
  /-- The place of the slash before the name. -/
  closing : Option Point
  /-- The place of the first attribute. -/
  firstAttribute : Option Point
  /-- The place of the slash before the end. -/
  selfClosing : Option Point
  attributes : List Attribute
deriving Repr, Inhabited

/-- A tag without its attributes, as faults show it. -/
def Tag.abbreviated (tag : Tag) : String :=
  let slash := if tag.closing.isSome then "/" else ""
  "<" ++ slash ++ String.ofList (tag.name.getD []) ++ ">"

/-- Characters that can start a name in a tag. -/
def startsTagName (c : Char) : Bool :=
  c == '$' || c == '_' || Text.startsIdentifier c

/-- Characters that can continue a name in a tag. -/
def continuesTagName (c : Char) : Bool :=
  startsTagName c || c == '-' || c.toNat == 0x200C || c.toNat == 0x200D ||
    Text.continuesIdentifier c

/-- Columns of indentation that are dropped from each further line of an expression. -/
def expressionIndent : Nat := 4

/-- The rest of an expression up to its closing brace, as glyphs in reverse. `depth` counts braces
that were opened inside, and `indent` the columns that may still be dropped. -/
def scanExpressionRest (depth indent : Nat) (before : List Glyph) :
    List Glyph → Scan (List Glyph)
  | [] =>
    .starved true (some fun point =>
      Fault.early point "in expression" "a corresponding closing brace for \x60\x7b\x60")
  | g :: rest =>
    if g.isEol then scanExpressionRest depth expressionIndent (g :: before) rest
    else if g.isSpace && 0 < indent then scanExpressionRest depth (indent - 1) before rest
    else if g.char == '\x7b' then scanExpressionRest (depth + 1) 0 (g :: before) rest
    else if g.char == '\x7d' then
      match depth with
      | 0 => .done before rest
      | depth + 1 => scanExpressionRest depth 0 (g :: before) rest
    else scanExpressionRest depth 0 (g :: before) rest

/-- An expression, after its opening brace. -/
def scanExpression (gs : List Glyph) : Scan (List Char) :=
  (scanExpressionRest 0 0 [] gs).map fun before => glyphText before.reverse

/-- White space inside a tag, line endings included. A tag that ends here is no tag. -/
def scanTagSpace : List Glyph → Scan Unit
  | [] => .starved false none
  | g :: rest =>
    if Text.isBlank g.char then scanTagSpace rest else .done () (g :: rest)

/-- Where a name stands in a tag, for the faults. -/
structure NamePlace where
  before : String
  inside : String
  after : String
  start : String
  continuation : String
  following : String
  /-- Characters that end the name, other than white space. -/
  stops : List Char

private def letterSuchAs : String := "such as a letter, \x60$\x60, or \x60_\x60"

private def nameCharacters : String :=
  "a name character such as letters, digits, \x60$\x60, or \x60_\x60; " ++
    "whitespace before attributes; or the end of the tag"

private def attributeStart : String :=
  s!"a character that can start an attribute name, {letterSuchAs}; " ++
    "whitespace before attributes; or the end of the tag"

private def attributeStartOrValue : String :=
  s!"a character that can start an attribute name, {letterSuchAs}; " ++
    "\x60=\x60 to initialize a value; or the end of the tag"

private def attributeCharacters : String :=
  "an attribute name character such as letters, digits, \x60$\x60, or \x60_\x60; " ++
    "\x60=\x60 to initialize a value; whitespace before attributes; or the end of the tag"

/-- The name itself, or its first part. -/
def NamePlace.primary : NamePlace where
  before := "before name"
  inside := "in name"
  after := "after name"
  start := s!"a character that can start a name, {letterSuchAs}"
  continuation := nameCharacters
  following := attributeStart
  stops := ['.', '/', ':', '>', '\x7b']

/-- A part of the name after a dot. -/
def NamePlace.member : NamePlace where
  before := "before member name"
  inside := "in member name"
  after := "after member name"
  start := attributeStart
  continuation := nameCharacters
  following := attributeStart
  stops := ['.', '/', '>', '\x7b']

/-- The part of the name after a colon. -/
def NamePlace.localName : NamePlace where
  before := "before local name"
  inside := "in local name"
  after := "after local name"
  start := s!"a character that can start a name, {letterSuchAs}"
  continuation := nameCharacters
  following := attributeStart
  stops := ['/', '>', '\x7b']

/-- The name of an attribute, or its first part. -/
def NamePlace.attribute : NamePlace where
  before := "before attribute name"
  inside := "in attribute name"
  after := "after attribute name"
  start := attributeStart
  continuation := attributeCharacters
  following := attributeStartOrValue
  stops := ['/', ':', '=', '>', '\x7b']

/-- The part of an attribute's name after a colon. -/
def NamePlace.localAttribute : NamePlace where
  before := "before local attribute name"
  inside := "in local attribute name"
  after := "after local attribute name"
  start := attributeStartOrValue
  continuation := attributeCharacters
  following := attributeStartOrValue
  stops := ['/', '=', '>', '\x7b']

private def linkNote : String := " (note: to create a link in MDX, use \x60[text](url)\x60)"

private def commentNote : String :=
  " (note: JS comments in JSX tags are not supported in MDX)"

/-- A name from its second character on. -/
def scanNameRest (place : NamePlace) (before : List Char) : List Glyph → Scan (List Char)
  | [] => .done before.reverse []
  | g :: rest =>
    if Text.isBlank g.char || place.stops.contains g.char then .done before.reverse (g :: rest)
    else if continuesTagName g.char then scanNameRest place (g.char :: before) rest
    else
      let note := if g.char == '@' && place.continuation == nameCharacters then linkNote else ""
      .fault (Fault.character g.point g.char place.inside (place.continuation ++ note))

/-- A name and the white space after it. `note` adds a hint to the fault of a wrong first
character. -/
def scanName (place : NamePlace) (note : Char → String) : List Glyph → Scan (List Char)
  | [] => .starved false none
  | g :: rest =>
    if startsTagName g.char then
      (scanNameRest place [g.char] rest).andThen fun name rest =>
        (scanTagSpace rest).map fun _ => name
    else .fault (Fault.character g.point g.char place.before (place.start ++ note g.char))

/-- Checks that what follows a name can follow it. -/
def checkAfterName (place : NamePlace) : List Glyph → Scan Unit
  | [] => .starved false none
  | g :: rest =>
    if g.char == '/' || g.char == '>' || g.char == '\x7b' || startsTagName g.char then
      .done () (g :: rest)
    else .fault (Fault.character g.point g.char place.after place.following)

/-- The further parts of a name, after dots; `fuel` bounds their number. -/
def scanMembers (fuel : Nat) (name : List Char) (place : NamePlace) :
    List Glyph → Scan (List Char)
  | [] => .starved false none
  | g :: rest =>
    match fuel with
    | 0 => .refused
    | fuel + 1 =>
      if g.char == '.' then
        (scanTagSpace rest).andThen fun _ rest =>
          (scanName .member (fun _ => "") rest).andThen fun part rest =>
            scanMembers fuel (name ++ '.' :: part) .member rest
      else (checkAfterName place (g :: rest)).map fun _ => name

/-- Digits and signs after a colon hint at a link. -/
def localNameNote (c : Char) : String :=
  if c == '+' || ('/' ≤ c && c ≤ '9') then linkNote else ""

/-- The name of a tag with the white space after it. -/
def scanTagName (note : Char → String) (gs : List Glyph) : Scan (List Char) :=
  (scanName .primary note gs).andThen fun name rest =>
    match rest with
    | ⟨':', _, _, _, _⟩ :: rest =>
      (scanTagSpace rest).andThen fun _ rest =>
        (scanName .localName localNameNote rest).andThen fun part rest =>
          (checkAfterName .localName rest).map fun _ => name ++ ':' :: part
    | rest => scanMembers rest.length name .primary rest

/-- A quoted value after its opening quote, in reverse. `skipping` says that a line has just begun,
whose white space is dropped. -/
def scanQuoted (quote : Char) (skipping : Bool) (before : List Glyph) :
    List Glyph → Scan (List Glyph)
  | [] =>
    if skipping then .starved false none
    else
      .starved false (some fun point =>
        Fault.early point "in attribute value"
          s!"a corresponding closing quote {describeChar quote}")
  | g :: rest =>
    if g.isEol then scanQuoted quote true (g :: before) rest
    else if skipping && Text.isBlank g.char then scanQuoted quote true before rest
    else if g.char == quote then .done before rest
    else scanQuoted quote false (g :: before) rest

/-- The value of an attribute after the equals sign and white space. -/
def scanAttributeValue (name : List Char) : List Glyph → Scan Attribute
  | [] => .starved false none
  | g :: rest =>
    if g.char == '"' || g.char == '\'' then
      (scanQuoted g.char false [] rest).map fun before =>
        .literal name (some (glyphText before.reverse))
    else if g.char == '\x7b' then (scanExpression rest).map (.computed name)
    else
      let note :=
        if g.char == '<' then
          " (note: to use an element or fragment as a prop value in MDX, " ++
            "use \x60\x7b<element />\x7d\x60)"
        else ""
      .fault (Fault.character g.point g.char "before attribute value"
        ("a character that can start an attribute value, such as \x60\"\x60, \x60'\x60, or " ++
          "\x60\x7b\x60" ++ note))

/-- A value if an equals sign is there, or else none; white space after it is passed over. -/
def scanOptionalValue (place : NamePlace) (name : List Char) : List Glyph → Scan Attribute
  | [] => .starved false none
  | g :: rest =>
    if g.char == '=' then
      (scanTagSpace rest).andThen fun _ rest =>
        (scanAttributeValue name rest).andThen fun attr rest =>
          (scanTagSpace rest).map fun _ => attr
    else (checkAfterName place (g :: rest)).map fun _ => .literal name none

/-- An attribute that starts with a name, with the white space after it. -/
def scanNamedAttribute (gs : List Glyph) : Scan Attribute :=
  (scanName .attribute (fun _ => "") gs).andThen fun name rest =>
    match rest with
    | ⟨':', _, _, _, _⟩ :: rest =>
      (scanTagSpace rest).andThen fun _ rest =>
        (scanName .localAttribute (fun _ => "") rest).andThen fun part rest =>
          scanOptionalValue .localAttribute (name ++ ':' :: part) rest
    | rest => scanOptionalValue .attribute name rest

/-- The attributes and the end of a tag; `fuel` bounds the number of attributes. -/
def scanAttributes (fuel : Nat) (tag : Tag) : List Glyph → Scan Tag
  | [] => .starved false none
  | g :: rest =>
    match fuel with
    | 0 => .refused
    | fuel + 1 =>
      let marked := { tag with firstAttribute := tag.firstAttribute <|> some g.point }
      if g.char == '>' then
        .done { tag with
          span := { tag.span with stop := g.next }
          attributes := tag.attributes.reverse } rest
      else if g.char == '/' then
        (scanTagSpace rest).andThen fun _ rest =>
          match rest with
          | [] => .starved false none
          | h :: rest =>
            if h.char == '>' then
              .done { tag with
                span := { tag.span with stop := h.next }
                selfClosing := some g.point
                attributes := tag.attributes.reverse } rest
            else
              let note := if h.char == '*' || h.char == '/' then commentNote else ""
              .fault (Fault.character h.point h.char "after self-closing slash"
                ("\x60>\x60 to end the tag" ++ note))
      else if g.char == '\x7b' then
        (scanExpression rest).andThen fun value rest =>
          (scanTagSpace rest).andThen fun _ rest =>
            scanAttributes fuel { marked with attributes := .spread value :: tag.attributes } rest
      else
        (scanNamedAttribute (g :: rest)).andThen fun attr rest =>
          scanAttributes fuel { marked with attributes := attr :: tag.attributes } rest

/-- A tag after its `<`, at the name or the end of a fragment. -/
def scanTagBody (tag : Tag) (note : Char → String) : List Glyph → Scan Tag
  | [] => .starved false none
  | g :: rest =>
    if g.char == '>' then .done { tag with span := { tag.span with stop := g.next } } rest
    else
      (scanTagName note (g :: rest)).andThen fun name rest =>
        scanAttributes (rest.length + 1) { tag with name := some name } rest

/-- A tag after its `<`, which stands at `start`. -/
def scanTag (start : Point) : List Glyph → Scan Tag
  | [] => .starved false none
  | g :: rest =>
    let tag : Tag :=
      { span := ⟨start, start⟩, name := none, closing := none, firstAttribute := none
        selfClosing := none, attributes := [] }
    if g.isSpaceOrEol then .refused
    else
      (scanTagSpace (g :: rest)).andThen fun _ rest =>
        match rest with
        | [] => .starved false none
        | g :: rest =>
          if g.char == '/' then
            (scanTagSpace rest).andThen fun _ rest =>
              scanTagBody { tag with closing := some g.point }
                (fun c => if c == '*' || c == '/' then commentNote else "") rest
          else
            scanTagBody tag
              (fun c =>
                if c == '!' then
                  " (note: to create a comment in MDX, use \x60\x7b/* text */\x7d\x60)"
                else "") (g :: rest)

end Galley.Markdown
