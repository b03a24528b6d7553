import Galley.Yaml.Cursor

/-!
Block scalars: indented lines after a bar, which keeps them as they are, or after an angle bracket,
which folds them. A sign after the indicator says what becomes of the ends of lines at the end, and
a digit how far the text is indented.
-/

set_option autoImplicit false
set_option relaxedAutoImplicit false

namespace Galley.Yaml

/-- What becomes of the ends of lines at the end of a text. -/
inductive Chomping where
  | strip
  | clip
  | keep
deriving DecidableEq, Repr, Inhabited

/-- The header of a block scalar. -/
structure BlockHeader where
  chomping : Chomping := .clip
  /-- The indentation beyond that of the collection around. -/
  increment : Option Nat := none
deriving DecidableEq, Repr, Inhabited

/-- The chomping that a sign stands for. -/
def chomping? : Char → Option Chomping
  | '+' => some .keep
  | '-' => some .strip
  | _ => none

/-- Reads the header after the indicator: a sign and a digit in any order, either of which may be
missing. -/
def readBlockHeader (cursor : Cursor) : Except Fault (BlockHeader × Cursor) :=
  let sign (cursor : Cursor) : Option Chomping × Cursor :=
    match cursor.rest.head? >>= chomping? with
    | some chomping => (some chomping, cursor.advance 1)
    | none => (none, cursor)
  let digit (cursor : Cursor) : Except Fault (Option Nat × Cursor) :=
    match cursor.rest with
    | c :: _ =>
      if c == '0' then .error .blockHeader
      else if Text.isDigit c then .ok (some (Text.hexDigitValue c), cursor.advance 1)
      else .ok (none, cursor)
    | [] => .ok (none, cursor)
  match sign cursor with
  | (some chomping, cursor) => do
    let (increment, cursor) ← digit cursor
    return (⟨chomping, increment⟩, cursor)
  | (none, cursor) => do
    match ← digit cursor with
    | (some increment, cursor) =>
      let (chomping, cursor) := sign cursor
      return (⟨chomping.getD .clip, some increment⟩, cursor)
    | (none, cursor) => return ({}, cursor)

/-- Empty lines before a line with text: their ends, the greatest column in front of them, and the
place after the indentation of that line. -/
def readEmptyLines (indent : Option Nat) :
    Nat → List Char → Nat → Cursor → Except Fault (List Char × Nat × Cursor)
  | 0, breaks, widest, cursor => .ok (breaks, widest, cursor)
  | fuel + 1, breaks, widest, cursor =>
    let spaces := (cursor.rest.takeWhile (· == ' ')).length
    let cursor := cursor.advance
      (match indent with
        | some indent => min spaces (indent - cursor.column)
        | none => spaces)
    let widest := max widest cursor.column
    match cursor.rest with
    | [] => .ok (breaks, widest, cursor)
    | c :: _ =>
      if c == '\t' && indent.all (cursor.column < ·) then .error .tab
      else if isBreak c then
        let (ending, cursor) := cursor.readBreak
        readEmptyLines indent fuel (breaks ++ ending) widest cursor
      else .ok (breaks, widest, cursor)

/-- A block scalar that is read. -/
structure BlockText where
  text : List Char := []
  /-- The end of the last line. -/
  ending : List Char := []
  /-- The ends of the empty lines after it. -/
  breaks : List Char := []
  /-- Whether the last line starts with a blank. -/
  isIndented : Bool := false
deriving Repr, Inhabited

/-- Reads the lines of a block scalar. -/
def readBlockLines (isLiteral : Bool) (indent : Nat) :
    Nat → BlockText → Cursor → Except Fault (BlockText × Cursor)
  | 0, b, cursor => .ok (b, cursor)
  | fuel + 1, b, cursor =>
    if cursor.column != indent || cursor.rest.isEmpty then .ok (b, cursor)
    else
      let isIndented := cursor.rest.head?.any isSpaceOrTab
      let joint :=
        if !isLiteral && b.ending == ['\n'] && !b.isIndented && !isIndented then
          if b.breaks.isEmpty then [' '] else []
        else b.ending
      let line := cursor.rest.takeWhile (!isBreak ·)
      let (ending, cursor) := (cursor.advance line.length).readBreak
      match readEmptyLines (some indent) (cursor.rest.length + 1) [] 0 cursor with
      | .error fault => .error fault
      | .ok (breaks, _, cursor) =>
        readBlockLines isLiteral indent fuel
          ⟨b.text ++ joint ++ b.breaks ++ line, ending, breaks, isIndented⟩ cursor

/-- Reads a block scalar after its indicator, in a collection that is indented by `around`. -/
def readBlock (isLiteral : Bool) (around : Int) (cursor : Cursor) :
    Except Fault (List Char × Cursor) := do
  let (header, cursor) ← readBlockHeader cursor
  let cursor ← cursor.skipLineRest .blockHeader
  let given := header.increment.map fun n => (max around 0).toNat + n
  let (breaks, widest, cursor) ← readEmptyLines given (cursor.rest.length + 1) [] 0 cursor
  let indent := given.getD (max (max widest (around + 1).toNat) 1)
  let (b, cursor) ← readBlockLines isLiteral indent (cursor.rest.length + 1) { breaks } cursor
  let tail := match header.chomping with
    | .strip => []
    | .clip => b.ending
    | .keep => b.ending ++ b.breaks
  return (b.text ++ tail, cursor)

end Galley.Yaml
