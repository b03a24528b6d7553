import Galley.Markdown.Inline
import Galley.Text.Blank
import Galley.Text.Casing
import Galley.Text.Punctuation

/-!
Links that show their own address. In angle brackets stands any address with a scheme, or one for
mail. Without marks, addresses of the web and of mail are found by their form; punctuation at
their end, and brackets that they did not open, are left outside.
-/

set_option autoImplicit false
set_option relaxedAutoImplicit false

namespace Galley.Markdown

/-- Letters, digits and signs of the part of a mail address before the at sign. -/
def isMailChar (c : Char) : Bool :=
  ('#' ≤ c && c ≤ '\'') || c == '*' || c == '+' || ('-' ≤ c && c ≤ '9') || c == '=' || c == '?' ||
    ('A' ≤ c && c ≤ 'Z') || ('^' ≤ c && c ≤ '~')

/-- The domain of a mail address in angle brackets, up to the bracket. `size` counts the characters
of the current label, and `dash` says that it ends in a dash so far. -/
def mailDomain (size : Nat) (dash : Bool) : List Glyph → Option (List Glyph)
  | [] => none
  | g :: rest =>
    if g.char == '.' && 0 < size && !dash then mailDomain 0 false rest
    else if g.char == '>' && 0 < size && !dash then some rest
    else if size < 63 && (Text.isAlnum g.char || (g.char == '-' && 0 < size)) then
      mailDomain (size + 1) (g.char == '-') rest
    else none

/-- A mail address in angle brackets, after its first character. -/
def mailAutolink : List Glyph → Option (List Glyph)
  | [] => none
  | g :: rest =>
    if g.char == '@' then mailDomain 0 false rest
    else if isMailChar g.char then mailAutolink rest
    else none

/-- The address after the colon of its scheme, up to the bracket. -/
def addressAutolink : List Glyph → Option (List Glyph)
  | [] => none
  | g :: rest =>
    if g.char == '>' then some rest
    else if g.char.toNat < 0x21 || g.char.toNat == 0x7F || g.char == '<' then none
    else addressAutolink rest

/-- The scheme of an address: two to thirty-two letters, digits and signs, then a colon. -/
def addressScheme (gs : List Glyph) : Option (List Glyph) :=
  let scheme := gs.takeWhile fun g =>
    Text.isAlnum g.char || g.char == '+' || g.char == '-' || g.char == '.'
  if scheme.length < 2 || 32 < scheme.length then none
  else
    match gs.drop scheme.length with
    | ⟨':', _, _, _, _⟩ :: rest => some rest
    | _ => none

/-- A link in angle brackets, after the first one: whether it is for mail, and what follows. -/
def autolink? : List Glyph → Option (Bool × List Glyph)
  | [] => none
  | g :: rest =>
    if Text.isLetter g.char then
      match addressScheme (g :: rest) with
      | some after => (addressAutolink after).map fun rest => (false, rest)
      | none => (mailAutolink (g :: rest)).map fun rest => (true, rest)
    else if g.char == '@' then none
    else (mailAutolink (g :: rest)).map fun rest => (true, rest)

/-- What follows an ampersand if that is a reference: letters and a semicolon. -/
def trailingReference (gs : List Glyph) : Option (List Glyph) :=
  let name := gs.takeWhile fun g => Text.isLetter g.char
  if name.isEmpty then none
  else
    match gs.drop name.length with
    | ⟨';', _, _, _, _⟩ :: rest => some rest
    | _ => none

/-- Punctuation that a bare link does not end with. -/
def isTrailing (c : Char) : Bool :=
  c == '!' || c == '"' || c == '\'' || c == ')' || c == '*' || c == ',' || c == '.' || c == ':' ||
    c == ';' || c == '?' || c == '_' || c == '~'

/-- Whether only trailing punctuation stands before the end of a bare link; `fuel` bounds its
length. -/
def trailEnds : Nat → List Glyph → Bool
  | 0, _ => true
  | _, [] => true
  | fuel + 1, g :: rest =>
    if isTrailing g.char then trailEnds fuel rest
    else if g.char == '&' then
      match trailingReference rest with
      | some after => trailEnds fuel after
      | none => false
    else if g.char == '<' then true
    else if g.char == ']' then
      match rest with
      | [] => true
      | h :: _ =>
        if h.isSpaceOrEol || h.char == '(' || h.char == '[' then true else trailEnds fuel rest
    else Text.isBlank g.char

/-- Whether a bare link ends before these glyphs, trailing punctuation left out. -/
def atTrail (gs : List Glyph) : Bool := trailEnds gs.length gs

/-- The path of a bare link: the glyphs after it. `opened` and `closed` count parentheses. -/
def linkPath (opened closed : Nat) : List Glyph → List Glyph
  | [] => []
  | g :: rest =>
    if g.char == '(' then linkPath (opened + 1) closed rest
    else if isTrailing g.char || g.char == '&' || g.char == '<' || g.char == ']' then
      let closed' := if g.char == ')' then closed + 1 else closed
      if atTrail (g :: rest) then
        if g.char == ')' && closed < opened then linkPath opened closed' rest else g :: rest
      else linkPath opened closed' rest
    else if Text.isBlank g.char then g :: rest
    else linkPath opened closed rest

/-- Characters of a domain other than dots, underscores and dashes. -/
def isDomainChar (c : Char) : Bool := !Text.isBlank c && !Text.isPunctuation c

/-- The domain of a bare link and its path: the glyphs after them. An underscore may not stand in
the last two parts of the domain: `inLast` and `inSecond` say whether one does so far. -/
def linkDomain (seen inLast inSecond : Bool) : List Glyph → Option (List Glyph)
  | [] => if seen && !inLast && !inSecond then some [] else none
  | g :: rest =>
    if g.char == '.' || g.char == '_' then
      if atTrail (g :: rest) then
        if seen && !inLast && !inSecond then some (linkPath 0 0 (g :: rest)) else none
      else if g.char == '_' then linkDomain seen true inSecond rest
      else linkDomain seen false inLast rest
    else if g.char == '-' then linkDomain seen inLast inSecond rest
    else if isDomainChar g.char then linkDomain true inLast inSecond rest
    else if seen && !inLast && !inSecond then some (linkPath 0 0 (g :: rest))
    else none

/-- A bare link that starts with its scheme. -/
def schemeLink? (gs : List Glyph) : Option (List Glyph) :=
  let scheme := gs.takeWhile fun g => Text.isLetter g.char
  let name := scheme.map (·.char.toLower)
  if name == ['h', 't', 't', 'p'] || name == ['h', 't', 't', 'p', 's'] then
    match gs.drop scheme.length with
    | ⟨':', _, _, _, _⟩ :: ⟨'/', _, _, _, _⟩ :: ⟨'/', _, _, _, _⟩ :: rest =>
      linkDomain false false false rest
    | _ => none
  else none

/-- A bare link that starts with `www`. -/
def wwwLink? (gs : List Glyph) : Option (List Glyph) :=
  if (gs.take 4).map (·.char.toLower) == ['w', 'w', 'w', '.'] && 4 < gs.length then
    linkDomain false false false gs
  else none

/-- Whether `www` may start a link after this character. -/
def allowsWww : Option Char → Bool
  | none => true
  | some c =>
    c == '\t' || c == '\n' || c == ' ' || c == '(' || c == '*' || c == '_' || c == '[' ||
      c == ']' || c == '~'

/-- Characters before the at sign of a bare mail address. -/
def isBareMailChar (c : Char) : Bool :=
  Text.isAlnum c || c == '+' || c == '-' || c == '.' || c == '_'

/-- The last characters of a class at the end of a text, given in reverse. -/
def backRun (isMember : Char → Bool) (before : List Glyph) : List Glyph :=
  before.takeWhile fun g => isMember g.char

/-- The scheme before a bare mail address, given what stands before it in reverse: how many glyphs
it takes, its colon included, and whether a path may follow. -/
def mailScheme (before : List Glyph) : Nat × Bool :=
  match before with
  | ⟨':', _, _, _, _⟩ :: rest =>
    let name := backRun Text.isAlnum rest
    let word := name.reverse.map (·.char.toLower)
    if word == ['x', 'm', 'p', 'p'] then (name.length + 1, true)
    else if word == ['m', 'a', 'i', 'l', 't', 'o'] then (name.length + 1, false)
    else (0, false)
  | _ => (0, false)

/-- The domain of a bare mail address after the at sign: how many glyphs it takes. `dot` says
whether there was a dot, and `letter` whether the last character is a letter. -/
def bareMailDomain (path : Bool) (taken : Nat) (dot letter : Bool) : List Glyph → Option Nat
  | [] => if dot && letter then some taken else none
  | g :: rest =>
    if Text.isAlnum g.char || g.char == '-' || g.char == '_' || (path && g.char == '/') then
      bareMailDomain path (taken + 1) dot (Text.isLetter g.char) rest
    else
      match rest with
      | h :: _ =>
        if g.char == '.' && Text.isAlnum h.char then
          bareMailDomain path (taken + 1) true false rest
        else if dot && letter then some taken else none
      | [] => if dot && letter then some taken else none

/-- Elements for plain text that may be empty. -/
def dataUnlessEmpty (gs : List Glyph) : List Inline :=
  if gs.isEmpty then [] else [.data gs]

/-- Cuts bare mail addresses out of plain text. `before` holds the glyphs since the last address in
reverse, and `skip` counts glyphs that an address has taken. -/
def mailLinksFrom (before : List Glyph) : Nat → List Glyph → List Inline
  | _, [] => dataUnlessEmpty before.reverse
  | skip + 1, _ :: rest => mailLinksFrom before skip rest
  | 0, g :: rest =>
    if g.char == '@' then
      let name := backRun isBareMailChar before
      let (width, path) := mailScheme (before.drop name.length)
      let slashed := (before.drop name.length).head?.any (·.char == '/')
      match bareMailDomain path 0 false false rest with
      | some length =>
        if name.isEmpty || slashed then mailLinksFrom (g :: before) 0 rest
        else
          let taken := name.length + width
          let address := (before.take taken).reverse ++ g :: rest.take length
          let scheme := if width == 0 then ['m', 'a', 'i', 'l', 't', 'o', ':'] else []
          dataUnlessEmpty (before.drop taken).reverse ++
            .bareLink scheme (glyphText address) :: mailLinksFrom [] length rest
      | none => mailLinksFrom (g :: before) 0 rest
    else mailLinksFrom (g :: before) 0 rest

/-- Cuts bare mail addresses out of plain text. -/
def mailLinks (gs : List Glyph) : List Inline :=
  mailLinksFrom [] 0 gs

end Galley.Markdown
