import Galley.Markdown.Source
import Galley.Text.Ascii

/-!
Blocks of raw HTML. What a line starts with decides where the block ends: tags of verbatim elements,
comments, instructions, declarations and character data end on the line with their closing mark,
and the tags of block elements, or any tag that fills a line, end before a blank line.
-/

set_option autoImplicit false
set_option relaxedAutoImplicit false

namespace Galley.Markdown

/-- The kinds of HTML blocks. -/
inductive HtmlKind where
  | verbatim
  | comment
  | instruction
  | declaration
  | characterData
  | element
  | wholeTag
deriving DecidableEq, Repr, Inhabited

/-- Whether a block of a kind ends before a blank line. -/
def HtmlKind.endsAtBlank : HtmlKind → Bool
  | .element | .wholeTag => true
  | _ => false

/-- Elements whose content is taken as it is. -/
def verbatimElements : List String := ["pre", "script", "style", "textarea"]

/-- Elements that count as blocks. -/
def blockElements : List String :=
  ["address", "article", "aside", "base", "basefont", "blockquote", "body", "caption", "center",
    "col", "colgroup", "dd", "details", "dialog", "dir", "div", "dl", "dt", "fieldset",
    "figcaption", "figure", "footer", "form", "frame", "frameset", "h1", "h2", "h3", "h4", "h5",
    "h6", "head", "header", "hr", "html", "iframe", "legend", "li", "link", "main", "menu",
    "menuitem", "nav", "noframes", "ol", "optgroup", "option", "p", "param", "search", "section",
    "summary", "table", "tbody", "td", "tfoot", "th", "thead", "title", "tr", "track", "ul"]

/-- Whether a name, whatever its case, is among the given ones. -/
def nameAmong (names : List String) (name : List Char) : Bool :=
  names.contains (String.ofList (Text.asciiLower name))

/-- Whether a line closes a verbatim element. -/
def closesVerbatim : List Char → Bool
  | [] => false
  | c :: rest =>
    let here := match c, rest with
      | '<', '/' :: after =>
        let name := after.takeWhile Text.isLetter
        (after.drop name.length).head? == some '>' && nameAmong verbatimElements name
      | _, _ => false
    here || closesVerbatim rest

/-- How far the closing mark of a block has come. -/
inductive Closing where
  | none
  | half
  | ready
deriving DecidableEq, Repr

/-- The start of a closing mark. -/
def Closing.start (kind : HtmlKind) (c : Char) : Closing :=
  match kind with
  | .comment => if c == '-' then .half else .none
  | .instruction => if c == '?' then .ready else .none
  | .characterData => if c == ']' then .half else .none
  | _ => .none

/-- Whether a line closes a block that is no element, given how far its mark has come. -/
def closesMarked (kind : HtmlKind) (closing : Closing) : List Char → Bool
  | [] => false
  | c :: rest =>
    match closing with
    | .none =>
      if kind == .declaration && c == '>' then true
      else closesMarked kind (Closing.start kind c) rest
    | .half =>
      if Closing.start kind c == .half then closesMarked kind .ready rest
      else closesMarked kind (Closing.start kind c) rest
    | .ready =>
      if c == '>' then true
      else if c == '-' && kind == .comment then closesMarked kind .ready rest
      else closesMarked kind (Closing.start kind c) rest

/-- Whether a line closes a block of a kind. -/
def HtmlKind.closes (kind : HtmlKind) (line : List Char) : Bool :=
  match kind with
  | .verbatim => closesVerbatim line
  | .element | .wholeTag => false
  | _ => closesMarked kind .none line

/-- Where in a tag that fills a line the reader stands. -/
inductive WholeTag where
  | beforeAttribute
  | attribute
  | afterAttribute
  | beforeValue
  | quoted (quote : Char)
  | afterQuoted
  | unquoted
  | beforeEnd
  | afterEnd

/-- One step between attributes. -/
def WholeTag.between (c : Char) : Option WholeTag :=
  if c == '/' then some .beforeEnd
  else if Text.isLetter c || c == ':' || c == '_' then some .attribute
  else if c == ' ' || c == '\t' then some .beforeAttribute
  else if c == '>' then some .afterEnd
  else none

/-- One step after the name of an attribute. -/
def WholeTag.afterName (c : Char) : Option WholeTag :=
  if c == '=' then some .beforeValue
  else if c == ' ' || c == '\t' then some .afterAttribute
  else WholeTag.between c

/-- One step through a tag that fills a line. -/
def WholeTag.step (state : WholeTag) (c : Char) : Option WholeTag :=
  match state with
  | .beforeAttribute => WholeTag.between c
  | .attribute =>
    if Text.isAlnum c || c == '-' || c == '.' || c == ':' || c == '_' then some .attribute
    else WholeTag.afterName c
  | .afterAttribute => WholeTag.afterName c
  | .beforeValue =>
    if c == '<' || c == '=' || c == '>' || c == '\x60' then none
    else if c == '"' || c == '\'' then some (.quoted c)
    else if c == ' ' || c == '\t' then some .beforeValue
    else some .unquoted
  | .quoted quote => if c == quote then some .afterQuoted else some (.quoted quote)
  | .afterQuoted =>
    if c == '/' || c == '>' || c == ' ' || c == '\t' then WholeTag.between c else none
  | .unquoted =>
    if c == ' ' || c == '\t' || c == '/' || c == '>' then WholeTag.afterName c
    else if c == '"' || c == '\'' || c == '<' || c == '=' || c == '\x60' then WholeTag.afterName c
    else some .unquoted
  | .beforeEnd => if c == '>' then some .afterEnd else none
  | .afterEnd => if c == ' ' || c == '\t' then some .afterEnd else none

/-- Whether the rest of a line is the rest of one tag. -/
def WholeTag.accepts (state : WholeTag) : List Char → Bool
  | [] => match state with
    | .afterEnd => true
    | _ => false
  | c :: rest =>
    match state.step c with
    | some state => state.accepts rest
    | none => false

/-- Whether a closing tag, after its name, fills the rest of a line. -/
def closingTagEnds (rest : List Char) : Bool :=
  match rest.dropWhile fun c => c == ' ' || c == '\t' with
  | '>' :: after => after.all fun c => c == ' ' || c == '\t'
  | _ => false

/-- The kind of block that a tag starts, given after its `<` and slash. -/
def htmlTagKind? (allowsWhole isClosing : Bool) (s : List Char) : Option HtmlKind :=
  let name := s.takeWhile fun c => Text.isAlnum c || c == '-'
  let rest := s.drop name.length
  let ends := match rest with
    | [] => true
    | c :: _ => c == ' ' || c == '\t' || c == '/' || c == '>'
  let slash := rest.head? == some '/'
  if !ends then none
  else if !slash && !isClosing && nameAmong verbatimElements name then some .verbatim
  else if nameAmong blockElements name then
    if slash && rest[1]? != some '>' then none else some .element
  else if !allowsWhole then none
  else if isClosing then if closingTagEnds rest then some .wholeTag else none
  else if WholeTag.beforeAttribute.accepts rest then some .wholeTag
  else none

/-- The HTML block that a line starts, after its leading blanks: its kind, and whether it ends on
the same line. `allowsWhole` says that any tag that fills the line will do. -/
def htmlBlock? (allowsWhole : Bool) : List Char → Option (HtmlKind × Bool)
  | '<' :: '!' :: '-' :: '-' :: rest => some (.comment, closesMarked .comment .ready rest)
  | '<' :: '!' :: '[' :: 'C' :: 'D' :: 'A' :: 'T' :: 'A' :: '[' :: rest =>
    some (.characterData, closesMarked .characterData .none rest)
  | '<' :: '!' :: c :: rest =>
    if Text.isLetter c then some (.declaration, closesMarked .declaration .none rest) else none
  | '<' :: '?' :: rest => some (.instruction, closesMarked .instruction .ready rest)
  | '<' :: '/' :: c :: rest =>
    if Text.isLetter c then (htmlTagKind? allowsWhole true (c :: rest)).map fun k => (k, false)
    else none
  | '<' :: c :: rest =>
    if Text.isLetter c then
      (htmlTagKind? allowsWhole false (c :: rest)).map fun k =>
        (k, k == .verbatim && closesVerbatim rest)
    else none
  | _ => none

end Galley.Markdown
