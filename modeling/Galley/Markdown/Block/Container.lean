import Galley.Markdown.Block.Leaf

/-!
Containers: quotes, list items and footnotes. A container starts with a mark of its own, and each
further line shows that it continues it, by the mark of a quote or by indentation.
-/

set_option autoImplicit false
set_option relaxedAutoImplicit false

namespace Galley.Markdown

/-- An open container. An item remembers the columns that its lines are indented by, and whether
its first line is blank so far. -/
inductive Container where
  | quote
  | item (marker : ItemMarker) (size : Nat) (blankStart : Bool)
  | note (label : List Glyph)
deriving Inhabited

/-- Columns that the lines of a footnote are indented by. -/
def noteIndent : Nat := 4

/-- The most columns between the mark of an item and its text; with more of them the text starts
after the first. -/
def itemSpace : Nat := 4

/-- What follows the mark of a quote. -/
def afterQuoteMark? (d : Dialect) (gs : List Glyph) : Option (List Glyph) :=
  (unindent? d gs).bind fun
    | g :: rest => if g.char == '>' then some (takeSpaces 1 rest).2 else none
    | [] => none

/-- What follows indentation by the given columns. -/
def afterIndent? (size : Nat) (gs : List Glyph) : Option (List Glyph) :=
  let (taken, rest) := takeSpaces size gs
  if taken.length == size then some rest else none

/-- Whether a line continues a container: the container after it, and what is left of the line. -/
def Container.continuedBy (d : Dialect) (gs : List Glyph) :
    Container → Option (Container × List Glyph)
  | .quote => (afterQuoteMark? d gs).map fun rest => (.quote, rest)
  | .item marker size blankStart =>
    if isBlankLine gs then
      if blankStart then none
      else some (.item marker size blankStart, (takeSpaces size gs).2)
    else (afterIndent? size gs).map fun rest => (.item marker size false, rest)
  | .note label =>
    if isBlankLine gs then some (.note label, (takeSpaces noteIndent gs).2)
    else (afterIndent? noteIndent gs).map fun rest => (.note label, rest)

/-- The mark in front of an item. In the middle of a paragraph a list can only start with one. -/
def itemMarker? (interrupting : Bool) (gs : List Glyph) : Option (ItemMarker × List Glyph) :=
  match gs with
  | [] => none
  | g :: rest =>
    if g.char == '*' || g.char == '-' || g.char == '+' then
      if g.char != '+' && isThematicBreak gs then none else some (⟨none, g.char⟩, rest)
    else
      let digits := (gs.takeWhile fun g => Text.isDigit g.char).map (·.char)
      match gs.drop digits.length with
      | h :: rest =>
        if digits.isEmpty || 9 < digits.length || (interrupting && digits != ['1']) then none
        else if h.char == '.' || h.char == ')' then some (⟨some digits, h.char⟩, rest)
        else none
      | [] => none

/-- An item that starts on a line. -/
def item? (d : Dialect) (interrupting : Bool) (gs : List Glyph) : Option (Container × List Glyph) :=
  ((unindent? d gs).bind (itemMarker? interrupting)).bind fun (marker, rest) =>
    let width := gs.length - rest.length
    if isBlankLine rest then
      if interrupting then none else some (.item marker (width + 1) true, rest)
    else
      let spaces := rest.length - (dropSpaces rest).length
      if spaces == 0 then none
      else
        let taken := if itemSpace < spaces then 1 else spaces
        some (.item marker (width + taken) false, rest.drop taken)

/-- The label of a footnote after its caret, in reverse; `size` counts bytes. -/
def noteLabel (size : Nat) (escaped : Bool) (before : List Glyph) :
    List Glyph → Option (List Glyph × List Glyph)
  | [] => none
  | g :: rest =>
    if escaped && (g.char == '[' || g.char == '\\' || g.char == ']') then
      noteLabel (size + 1) false (g :: before) rest
    else if labelLimit < size || g.isSpaceOrEol || g.char == '[' then none
    else if g.char == ']' then if before.isEmpty then none else some (before.reverse, rest)
    else noteLabel (size + g.char.utf8Size) (g.char == '\\') (g :: before) rest

/-- A footnote that starts on a line. -/
def note? (d : Dialect) (gs : List Glyph) : Option (Container × List Glyph) :=
  if !d.gfm then none
  else
    (unindent? d gs).bind fun
      | ⟨'[', _, _, _, _⟩ :: ⟨'^', _, _, _, _⟩ :: rest =>
        (noteLabel 0 false [] rest).bind fun
          | (label, ⟨':', _, _, _, _⟩ :: rest) => some (.note label, dropSpaces rest)
          | _ => none
      | _ => none

/-- A container that starts on a line, and what is left of the line. -/
def container? (d : Dialect) (interrupting : Bool) (gs : List Glyph) :
    Option (Container × List Glyph) :=
  (afterQuoteMark? d gs).map (fun rest => (.quote, rest)) <|> item? d interrupting gs <|> note? d gs

end Galley.Markdown
