import Galley.Yaml.Token.Fold

/-!
Quoted scalars. Between single quotes a quote is written twice; between double quotes a backslash
starts an escape, and at the end of a line it joins the lines.
-/

set_option autoImplicit false
set_option relaxedAutoImplicit false

namespace Galley.Yaml

/-- The character of a short escape. -/
def shortEscape? : Char → Option Char
  | '0' => some '\x00'
  | 'a' => some '\x07'
  | 'b' => some '\x08'
  | 't' => some '\t'
  | '\t' => some '\t'
  | 'n' => some '\n'
  | 'v' => some '\x0b'
  | 'f' => some '\x0c'
  | 'r' => some '\r'
  | 'e' => some '\x1b'
  | ' ' => some ' '
  | '"' => some '"'
  | '/' => some '/'
  | '\\' => some '\\'
  | 'N' => some '\x85'
  | '_' => some '\xa0'
  | 'L' => some '\u2028'
  | 'P' => some '\u2029'
  | _ => none

/-- The number of digits after the letter of a long escape. -/
def escapeWidth? : Char → Option Nat
  | 'x' => some 2
  | 'u' => some 4
  | 'U' => some 8
  | _ => none

/-- The escape after a backslash: its character and its width. -/
def readEscape : List Char → Except Fault (Char × Nat)
  | [] => .error .escape
  | c :: rest =>
    match shortEscape? c, escapeWidth? c with
    | some value, _ => .ok (value, 1)
    | none, none => .error .escape
    | none, some width =>
      let digits := rest.take width
      let code := Text.readDigits 16 digits
      if digits.length < width || !digits.all Text.isHexDigit then .error .escape
      else if (0xD800 ≤ code && code ≤ 0xDFFF) || 0x10FFFF < code then .error .escape
      else .ok (Char.ofNat code, width + 1)

/-- A word of a quoted scalar, where it ends, and whether it ends with a joined line. -/
def quotedWord (isSingle : Bool) :
    Nat → List Char → Cursor → Except Fault (List Char × Bool × Cursor)
  | 0, word, cursor => .ok (word, false, cursor)
  | fuel + 1, word, cursor =>
    match cursor.rest with
    | [] => .ok (word, false, cursor)
    | c :: rest =>
      if isGap c then .ok (word, false, cursor)
      else if isSingle then
        if c == '\'' then
          if rest.head? == some '\'' then quotedWord isSingle fuel (word ++ [c]) (cursor.advance 2)
          else .ok (word, false, cursor)
        else quotedWord isSingle fuel (word ++ [c]) (cursor.advance 1)
      else if c == '"' then .ok (word, false, cursor)
      else if c == '\\' then
        if rest.head?.any isBreak then .ok (word, true, (cursor.advance 1).skipBreak)
        else
          match readEscape rest with
          | .error fault => .error fault
          | .ok (value, width) =>
            quotedWord isSingle fuel (word ++ [value]) (cursor.advance (width + 1))
      else quotedWord isSingle fuel (word ++ [c]) (cursor.advance 1)

/-- Reads a quoted scalar after its first quote. -/
def readQuoted (isSingle : Bool) : Nat → List Char → Cursor → Except Fault (List Char × Cursor)
  | 0, _, _ => .error .unclosedQuote
  | fuel + 1, text, cursor =>
    if cursor.atDocumentMark || cursor.rest.isEmpty then .error .unclosedQuote
    else
      match quotedWord isSingle cursor.rest.length [] cursor with
      | .error fault => .error fault
      | .ok (word, isJoined, cursor) =>
        let text := text ++ word
        if cursor.rest.head? == some (if isSingle then '\'' else '"') then
          .ok (text, cursor.advance 1)
        else
          match Fold.read 0 cursor.rest.length { isBroken := isJoined } cursor with
          | .error fault => .error fault
          | .ok (fold, cursor) => readQuoted isSingle fuel (text ++ fold.text) cursor

end Galley.Yaml
