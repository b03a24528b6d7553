import Galley.Markdown.Plain

/-!
Definitions and the parts that they share with links: labels in brackets, destinations and titles.
Every reader takes glyphs and gives what it read with the glyphs after it, or nothing.
-/

set_option autoImplicit false
set_option relaxedAutoImplicit false

namespace Galley.Markdown

/-- The most bytes in a label. -/
def labelLimit : Nat := 999

/-- The most parentheses that may be open at once in the destination of a link. -/
def destinationDepth : Nat := 32

/-- A label after its opening bracket, in reverse; `size` counts bytes, `seen` says whether
anything but white space came, `escaped` whether a backslash stands right before. -/
def labelRest (size : Nat) (seen escaped : Bool) (before : List Glyph) :
    List Glyph → Option (List Glyph × List Glyph)
  | [] => none
  | g :: rest =>
    if escaped && (g.char == '[' || g.char == '\\' || g.char == ']') then
      labelRest (size + 1) seen false (g :: before) rest
    else if labelLimit < size || g.char == '[' then none
    else if g.char == ']' then if seen then some (before.reverse, rest) else none
    else if g.isEol then labelRest size seen false (g :: before) rest
    else
      labelRest (size + g.char.utf8Size) (seen || !g.isSpace) (g.char == '\\') (g :: before) rest

/-- A label: what stands between the brackets. -/
def label? : List Glyph → Option (List Glyph × List Glyph)
  | [] => none
  | g :: rest => if g.char == '[' then labelRest 0 false false [] rest else none

/-- Control characters of ASCII other than the null character. -/
def isControl (c : Char) : Bool :=
  (0 < c.toNat && c.toNat < 0x20) || c.toNat == 0x7F

/-- A destination in angle brackets, after the first bracket, in reverse. -/
def enclosedRest (escaped : Bool) (before : List Glyph) :
    List Glyph → Option (List Glyph × List Glyph)
  | [] => none
  | g :: rest =>
    if escaped && (g.char == '<' || g.char == '>' || g.char == '\\') then
      enclosedRest false (g :: before) rest
    else if g.isEol || g.char == '<' then none
    else if g.char == '>' then some (before.reverse, rest)
    else enclosedRest (g.char == '\\') (g :: before) rest

/-- A bare destination in reverse; `depth` counts open parentheses, at most `limit`. -/
def rawRest (limit : Option Nat) (depth : Nat) (escaped : Bool) (before : List Glyph) :
    List Glyph → Option (List Glyph × List Glyph)
  | [] => if depth == 0 then some (before.reverse, []) else none
  | g :: rest =>
    if escaped && (g.char == '(' || g.char == ')' || g.char == '\\') then
      rawRest limit depth false (g :: before) rest
    else if depth == 0 && (g.isSpaceOrEol || g.char == ')') then
      some (before.reverse, g :: rest)
    else if g.char == '(' then
      if limit.any (· ≤ depth) then none else rawRest limit (depth + 1) false (g :: before) rest
    else if isControl g.char || g.char == ' ' then none
    else if g.char == ')' then rawRest limit (depth - 1) false (g :: before) rest
    else rawRest limit depth (g.char == '\\') (g :: before) rest

/-- A destination, in angle brackets or bare. -/
def destination? (limit : Option Nat) : List Glyph → Option (List Char × List Glyph)
  | [] => none
  | g :: rest =>
    if g.char == '<' then
      (enclosedRest false [] rest).map fun (inside, rest) => (plainText (glyphText inside), rest)
    else if isControl g.char || g.char == ' ' || g.char == ')' then none
    else
      (rawRest limit 0 false [] (g :: rest)).map fun (inside, rest) =>
        (plainText (glyphText inside), rest)

/-- A title after its opening mark, in reverse; blanks at the start of a further line are dropped
while `skipping`. -/
def titleRest (mark : Char) (escaped skipping : Bool) (before : List Glyph) :
    List Glyph → Option (List Glyph × List Glyph)
  | [] => none
  | g :: rest =>
    if skipping && g.isSpace then titleRest mark false true before rest
    else if escaped && (g.char == '"' || g.char == '\'' || g.char == ')' || g.char == '\\') then
      titleRest mark false false (g :: before) rest
    else if g.char == mark then some (before.reverse, rest)
    else titleRest mark (g.char == '\\') g.isEol (g :: before) rest

/-- A title in quotes or parentheses. -/
def title? : List Glyph → Option (List Char × List Glyph)
  | [] => none
  | g :: rest =>
    if g.char == '"' || g.char == '\'' || g.char == '(' then
      let mark := if g.char == '(' then ')' else g.char
      (titleRest mark false false [] rest).map fun (inside, rest) =>
        (plainText (glyphText inside), rest)
    else none

/-- White space with at most one line ending in it: what follows, if there is any such space. -/
def spaceOrEol? (gs : List Glyph) : Option (List Glyph) :=
  match gs, dropSpaces gs with
  | [], _ => none
  | _ :: _, [] => some []
  | g :: _, h :: rest =>
    if h.isEol then some (dropSpaces rest)
    else if g.isSpace then some (h :: rest)
    else none

/-- Skips white space with at most one line ending in it. -/
def skipSpaceOrEol (gs : List Glyph) : List Glyph :=
  (spaceOrEol? gs).getD gs

/-- Whether a line ends here. -/
def atLineEnd : List Glyph → Bool
  | [] => true
  | g :: _ => g.isEol

/-- A definition of a label. -/
structure Definition where
  label : List Glyph
  url : List Char
  title : Option (List Char)
deriving Inhabited

/-- A title with the white space around it, if the line ends after it. -/
def definitionTitle? (gs : List Glyph) : Option (List Char × List Glyph) :=
  (spaceOrEol? gs).bind fun rest =>
    (title? rest).bind fun (title, rest) =>
      let rest := dropSpaces rest
      if atLineEnd rest then some (title, rest) else none

/-- A definition at the start of a block of text, up to the end of its last line. Before it stand
at most `indent` columns of blanks. -/
def definition? (indent : Nat) (gs : List Glyph) : Option (Definition × List Glyph) :=
  (label? (takeSpaces indent gs).2).bind fun (label, rest) =>
    match rest with
    | ⟨':', _, _, _, _⟩ :: rest =>
      (destination? none (skipSpaceOrEol rest)).bind fun (url, rest) =>
        match definitionTitle? rest with
        | some (title, rest) => some (⟨label, url, some title⟩, rest)
        | none =>
          let rest := dropSpaces rest
          if atLineEnd rest then some (⟨label, url, none⟩, rest) else none
    | _ => none

end Galley.Markdown
