import Galley.Yaml.Token.Fold

/-!
Plain scalars: text without quotes, up to a colon that ends a key, a comment, or a line that is not
indented further than the collection around.
-/

set_option autoImplicit false
set_option relaxedAutoImplicit false

namespace Galley.Yaml

/-- Indicators of collections between brackets. -/
def isFlowIndicator (c : Char) : Bool :=
  c == ',' || c == '[' || c == ']' || c == '\x7b' || c == '\x7d'

/-- A word of a plain scalar. -/
def plainWord (inFlow : Bool) : List Char → Except Fault (List Char)
  | [] => .ok []
  | c :: rest =>
    if isGap c then .ok []
    else if inFlow && c == ':' && rest.head?.any (fun d => isFlowIndicator d || d == '?') then
      .error .unexpectedColon
    else if (c == ':' && atGap rest) || (inFlow && isFlowIndicator c) then .ok []
    else (plainWord inFlow rest).map (c :: ·)

/-- A plain scalar as it is read: its text, where it ends, and whether a line ended after it. -/
structure PlainText where
  text : List Char := []
  isBroken : Bool := false
  cursor : Cursor

/-- Reads a plain scalar, whose further lines start at the column `floor` or after it; `fold` stands
before the next word. -/
def readPlain (inFlow : Bool) (floor : Int) :
    Nat → List Char → Fold → Cursor → Except Fault PlainText
  | 0, text, fold, cursor => .ok ⟨text, fold.isBroken, cursor⟩
  | fuel + 1, text, fold, cursor =>
    if cursor.atDocumentMark || cursor.rest.head? == some '#' then
      .ok ⟨text, fold.isBroken, cursor⟩
    else
      match plainWord inFlow cursor.rest with
      | .error fault => .error fault
      | .ok [] =>
        -- Only the very first word can be empty before a gap, and then nothing was read.
        .ok ⟨text, fold.isBroken, cursor⟩
      | .ok word =>
        let text := text ++ fold.text ++ word
        let cursor := cursor.advance word.length
        if !cursor.rest.head?.any isGap then .ok ⟨text, false, cursor⟩
        else
          match Fold.read floor cursor.rest.length {} cursor with
          | .error fault => .error fault
          | .ok (fold, cursor) =>
            if !inFlow && cursor.column < floor then .ok ⟨text, fold.isBroken, cursor⟩
            else readPlain inFlow floor fuel text fold cursor

end Galley.Yaml
