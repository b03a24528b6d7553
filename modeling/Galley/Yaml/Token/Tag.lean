import Galley.Yaml.Cursor
import Galley.Yaml.Token

/-!
Names of anchors, tags and directives. A tag is a handle and a suffix, or an address between angle
brackets; percent signs in it stand for the bytes of a character.
-/

set_option autoImplicit false
set_option relaxedAutoImplicit false

namespace Galley.Yaml

/-- Reads the name of an anchor or an alias after its indicator. -/
def readAnchor (cursor : Cursor) : Except Fault (List Char × Cursor) :=
  let name := cursor.rest.takeWhile isNameCharacter
  let cursor := cursor.advance name.length
  let isEnded := match cursor.rest with
    | [] => true
    | c :: _ => isGap c || "?:,]\x7d%@\x60".toList.contains c
  if name.isEmpty || !isEnded then .error .anchor else .ok (name, cursor)

/-- Characters of a tag; between angle brackets the indicators of sequences are among them. -/
def isTagCharacter (isEnclosed : Bool) (c : Char) : Bool :=
  isNameCharacter c || ";/?:@&=+$.%!~*'()".toList.contains c ||
    (isEnclosed && ",[]".toList.contains c)

/-- A byte in two hexadecimal digits after a percent sign. -/
def percentByte? : List Char → Option Nat
  | '%' :: c :: d :: _ =>
    if Text.isHexDigit c && Text.isHexDigit d then some (Text.readDigits 16 [c, d]) else none
  | _ => none

/-- How many bytes follow the first one of a character, and the part of the code in that one. -/
def leadByte? (byte : Nat) : Option (Nat × Nat) :=
  if byte < 0x80 then some (0, byte)
  else if byte / 0x20 == 6 then some (1, byte % 0x20)
  else if byte / 0x10 == 14 then some (2, byte % 0x10)
  else if byte / 0x08 == 30 then some (3, byte % 0x08)
  else none

/-- Further bytes of a character. -/
def trailingBytes? : Nat → Nat → List Char → Option Nat
  | 0, code, _ => some code
  | count + 1, code, s =>
    match percentByte? s with
    | some byte =>
      if byte / 0x40 == 2 then trailingBytes? count (code * 0x40 + byte % 0x40) (s.drop 3) else none
    | none => none

/-- The character in percent signs at the front of a text, and its width. -/
def percentCharacter? (s : List Char) : Option (Char × Nat) := do
  let (count, high) ← percentByte? s >>= leadByte?
  let code ← trailingBytes? count high (s.drop 3)
  if code.isValidChar then some (Char.ofNat code, 3 * (count + 1)) else none

/-- Reads the characters of a tag; `fuel` bounds their number. -/
def readTagText (isEnclosed : Bool) : Nat → List Char → Cursor → Except Fault (List Char × Cursor)
  | 0, text, cursor => .ok (text, cursor)
  | fuel + 1, text, cursor =>
    match cursor.rest with
    | [] => .ok (text, cursor)
    | c :: _ =>
      if !isTagCharacter isEnclosed c then .ok (text, cursor)
      else if c == '%' then
        match percentCharacter? cursor.rest with
        | some (c, width) => readTagText isEnclosed fuel (text ++ [c]) (cursor.advance width)
        | none => .error .tag
      else readTagText isEnclosed fuel (text ++ [c]) (cursor.advance 1)

/-- Reads an address, which is not empty unless something stands before it. -/
def readTagAddress (isEnclosed mayBeEmpty : Bool) (before : List Char) (cursor : Cursor) :
    Except Fault (List Char × Cursor) :=
  match readTagText isEnclosed (cursor.rest.length + 1) [] cursor with
  | .error fault => .error fault
  | .ok (text, next) =>
    if text.isEmpty && !mayBeEmpty then .error .tag else .ok (before ++ text, next)

/-- A handle: a name between exclamation marks, the last of which may be missing. -/
def readTagHandle (cursor : Cursor) : List Char × Cursor :=
  let name := (cursor.rest.drop 1).takeWhile isNameCharacter
  let isClosed := (cursor.rest.drop (name.length + 1)).head? == some '!'
  let handle := '!' :: name ++ (if isClosed then ['!'] else [])
  (handle, cursor.advance handle.length)

/-- Whether a handle has both exclamation marks. -/
def isFullHandle (handle : List Char) : Bool :=
  1 < handle.length && handle.getLast? == some '!'

/-- Reads a tag: its handle and its suffix. -/
def readTag (inFlow : Bool) (cursor : Cursor) : Except Fault (Token × Cursor) := do
  let (token, cursor) ← (
    if (cursor.rest.drop 1).head? == some '<' then do
      let (text, cursor) ← readTagAddress true false [] (cursor.advance 2)
      if cursor.rest.head? != some '>' then throw .tag
      return (Token.tag [] text, cursor.advance 1)
    else do
      let (handle, cursor) := readTagHandle cursor
      if isFullHandle handle then
        let (text, cursor) ← readTagAddress false false [] cursor
        return (Token.tag handle text, cursor)
      else
        let (text, cursor) ← readTagAddress false true (handle.drop 1) cursor
        return (if text.isEmpty then Token.tag [] ['!'] else Token.tag ['!'] text, cursor))
  let isEnded := atGap cursor.rest || (inFlow && cursor.rest.head? == some ',')
  if isEnded then return (token, cursor) else throw .tag

/-- Reads a part of a version. -/
def readVersionPart (cursor : Cursor) : Except Fault (Nat × Cursor) :=
  let digits := cursor.rest.takeWhile Text.isDigit
  if digits.isEmpty || 9 < digits.length then .error .directive
  else .ok (Text.readDigits 10 digits, cursor.advance digits.length)

/-- Reads a directive after its percent sign. -/
def readDirective (cursor : Cursor) : Except Fault (Token × Cursor) := do
  let name := cursor.rest.takeWhile isNameCharacter
  let cursor := cursor.advance name.length
  if name.isEmpty || !atGap cursor.rest then throw .directive
  if name == "YAML".toList then
    let (major, cursor) ← readVersionPart (cursor.advanceWhile isSpaceOrTab)
    if cursor.rest.head? != some '.' then throw .directive
    let (minor, cursor) ← readVersionPart (cursor.advance 1)
    return (.version major minor, ← cursor.skipLineRest .directive)
  else if name == "TAG".toList then
    let cursor := cursor.advanceWhile isSpaceOrTab
    if cursor.rest.head? != some '!' then throw .directive
    let (handle, cursor) := readTagHandle cursor
    if 1 < handle.length && !isFullHandle handle then throw .directive
    if !cursor.rest.head?.any isSpaceOrTab then throw .directive
    let (stem, cursor) ← readTagAddress true false [] (cursor.advanceWhile isSpaceOrTab)
    if !atGap cursor.rest then throw .directive
    return (.tagHandle handle stem, ← cursor.skipLineRest .directive)
  else throw .directive

end Galley.Yaml
