import Galley.Yaml.Token.Block
import Galley.Yaml.Token.Plain
import Galley.Yaml.Token.Quoted
import Galley.Yaml.Token.Tag

/-!
The tokens of a text. Indentation opens and closes block collections. A text on one line turns out
to be a key when a colon follows it, so that the tokens of the key, and of a mapping that starts
with it, are put in front of it then.
-/

set_option autoImplicit false
set_option relaxedAutoImplicit false

namespace Galley.Yaml

/-- A text that can turn out to be a key: where it starts and how many tokens stand before it. -/
structure KeyCandidate where
  isRequired : Bool
  before : Nat
  index : Nat
  line : Nat
  column : Nat
deriving DecidableEq, Repr, Inhabited

/-- A text that is being cut into tokens. -/
structure Scanner where
  cursor : Cursor
  /-- The tokens so far, last first, and their number. -/
  tokens : List Token := []
  count : Nat := 0
  /-- The column of the block collection around, and those of the collections around that. -/
  indent : Int := -1
  indents : List Int := []
  /-- Whether a key can start here. -/
  mayStartKey : Bool := true
  /-- The candidate in the innermost collection, and those in the flow collections around. -/
  candidate : Option KeyCandidate := none
  outer : List (Option KeyCandidate) := []
deriving Repr, Inhabited

namespace Scanner

/-- Whether the place is in a collection between brackets. -/
def inFlow (s : Scanner) : Bool := !s.outer.isEmpty

/-- Adds a token. -/
def push (s : Scanner) (token : Token) : Scanner :=
  { s with tokens := token :: s.tokens, count := s.count + 1 }

/-- Puts a token behind the first `before` ones. -/
def insert (s : Scanner) (before : Nat) (token : Token) : Scanner :=
  let later := s.count - before
  { s with
    tokens := s.tokens.take later ++ token :: s.tokens.drop later
    count := s.count + 1 }

/-- Passes characters. -/
def advance (s : Scanner) (count : Nat) : Scanner :=
  { s with cursor := s.cursor.advance count }

/-- Opens a block collection at a column, behind the first `before` tokens. -/
def openBlock (s : Scanner) (column before : Nat) (token : Token) : Scanner :=
  if s.inFlow || (column : Int) ≤ s.indent then s
  else { s.insert before token with indent := column, indents := s.indent :: s.indents }

/-- Closes the block collections beyond a column, innermost first. -/
def closeFrom (column : Int) : Int → List Int → Scanner → Scanner
  | indent, [], s => { s with indent, indents := [] }
  | indent, around :: rest, s =>
    if column < indent then closeFrom column around rest (s.push .blockEnd)
    else { s with indent, indents := around :: rest }

/-- Closes the block collections beyond a column. -/
def closeBlocks (s : Scanner) (column : Int) : Scanner :=
  if s.inFlow then s else closeFrom column s.indent s.indents s

/-- A candidate that can no longer become a key: the line has ended, or it is too long. -/
def KeyCandidate.isStale (k : KeyCandidate) (cursor : Cursor) : Bool :=
  k.line < cursor.line || k.index + 1024 < cursor.index

/-- Drops a candidate that is stale. -/
def dropStale (cursor : Cursor) : Option KeyCandidate → Except Fault (Option KeyCandidate)
  | none => .ok none
  | some k =>
    if KeyCandidate.isStale k cursor then
      if k.isRequired then .error .missingColon else .ok none
    else .ok (some k)

/-- Drops all candidates that are stale. -/
def dropStaleKeys (s : Scanner) : Except Fault Scanner := do
  let candidate ← dropStale s.cursor s.candidate
  let outer ← s.outer.mapM (dropStale s.cursor)
  return { s with candidate, outer }

/-- Gives up the candidate. -/
def dropKey (s : Scanner) : Except Fault Scanner :=
  match s.candidate with
  | some k => if k.isRequired then .error .missingColon else .ok { s with candidate := none }
  | none => .ok s

/-- Takes what starts here as a candidate, if a key can start here. -/
def saveKey (s : Scanner) : Except Fault Scanner := do
  if s.mayStartKey then
    let s' ← s.dropKey
    return { s' with
      candidate := some
        { isRequired := !s.inFlow && s.indent == s.cursor.column
          before := s.count
          index := s.cursor.index
          line := s.cursor.line
          column := s.cursor.column } }
  else return s

/-- Passes blanks, comments and ends of lines; `fuel` bounds their number. A tab may not stand where
a key can start. -/
def skipGaps : Nat → Scanner → Scanner
  | 0, s => s
  | fuel + 1, s =>
    let cursor := if s.cursor.column == 0 && s.cursor.rest.head? == some '\ufeff' then
      s.cursor.advance 1 else s.cursor
    let cursor := cursor.advanceWhile fun c =>
      c == ' ' || ((s.inFlow || !s.mayStartKey) && c == '\t')
    let cursor := cursor.skipComment
    if cursor.rest.head?.any isBreak then
      skipGaps fuel
        { s with cursor := cursor.skipBreak, mayStartKey := s.mayStartKey || !s.inFlow }
    else { s with cursor }

/-- Closes all blocks before a directive or a mark of a document. -/
def leaveBlocks (s : Scanner) : Except Fault Scanner := do
  let s ← (s.closeBlocks (-1)).dropKey
  return { s with mayStartKey := false }

/-- A mark of a document. -/
def readMark (s : Scanner) (token : Token) : Except Fault Scanner := do
  return (← s.leaveBlocks).advance 3 |>.push token

/-- A directive. -/
def readDirectiveToken (s : Scanner) : Except Fault Scanner := do
  let s ← s.leaveBlocks
  let (token, cursor) ← readDirective (s.cursor.advance 1)
  return { s.push token with cursor }

/-- The start of a collection between brackets. -/
def openFlow (s : Scanner) (token : Token) : Except Fault Scanner := do
  let s ← s.saveKey
  return { (s.advance 1).push token with
    candidate := none, outer := s.candidate :: s.outer, mayStartKey := true }

/-- The end of a collection between brackets. -/
def closeFlow (s : Scanner) (token : Token) : Except Fault Scanner := do
  let s ← s.dropKey
  let s := { (s.advance 1).push token with mayStartKey := false }
  match s.outer with
  | candidate :: outer => return { s with candidate, outer }
  | [] => return s

/-- A comma between brackets. -/
def readComma (s : Scanner) : Except Fault Scanner := do
  let s ← s.dropKey
  return { (s.advance 1).push .flowEntry with mayStartKey := true }

/-- The indicator of an entry of a sequence. -/
def readEntry (s : Scanner) : Except Fault Scanner := do
  if !s.inFlow && !s.mayStartKey then throw .misplacedIndicator
  let s ← (s.openBlock s.cursor.column s.count .blockSequence).dropKey
  return { (s.advance 1).push .entry with mayStartKey := true }

/-- The indicator of a key. -/
def readKey (s : Scanner) : Except Fault Scanner := do
  if !s.inFlow && !s.mayStartKey then throw .misplacedIndicator
  let s ← (s.openBlock s.cursor.column s.count .blockMapping).dropKey
  return { (s.advance 1).push .key with mayStartKey := !s.inFlow }

/-- The indicator of a value. -/
def readValue (s : Scanner) : Except Fault Scanner := do
  match s.candidate with
  | some k =>
    let s := (s.insert k.before .key).openBlock k.column k.before .blockMapping
    return { (s.advance 1).push .value with candidate := none, mayStartKey := false }
  | none =>
    if !s.inFlow && !s.mayStartKey then throw .misplacedIndicator
    let s := s.openBlock s.cursor.column s.count .blockMapping
    return { (s.advance 1).push .value with mayStartKey := !s.inFlow }

/-- An alias or an anchor. -/
def readAnchorToken (s : Scanner) (token : List Char → Token) : Except Fault Scanner := do
  let s ← s.saveKey
  let (name, cursor) ← readAnchor (s.cursor.advance 1)
  return { s.push (token name) with cursor, mayStartKey := false }

/-- A tag. -/
def readTagToken (s : Scanner) : Except Fault Scanner := do
  let s ← s.saveKey
  let (token, cursor) ← readTag s.inFlow s.cursor
  return { s.push token with cursor, mayStartKey := false }

/-- A block scalar. -/
def readBlockToken (s : Scanner) (isLiteral : Bool) : Except Fault Scanner := do
  let s ← s.dropKey
  let (text, cursor) ← readBlock isLiteral s.indent (s.cursor.advance 1)
  return { s.push (.scalar false text) with cursor, mayStartKey := true }

/-- A quoted scalar. -/
def readQuotedToken (s : Scanner) (isSingle : Bool) : Except Fault Scanner := do
  let s ← s.saveKey
  let cursor := s.cursor.advance 1
  let (text, cursor) ← readQuoted isSingle (cursor.rest.length + 1) [] cursor
  return { s.push (.scalar false text) with cursor, mayStartKey := false }

/-- A plain scalar. -/
def readPlainToken (s : Scanner) : Except Fault Scanner := do
  let s ← s.saveKey
  let plain ← readPlain s.inFlow (s.indent + 1) (s.cursor.rest.length + 1) [] {} s.cursor
  return { s.push (.scalar true plain.text) with
    cursor := plain.cursor, mayStartKey := plain.isBroken }

/-- Characters that a plain scalar does not start with. -/
def isIndicator (c : Char) : Bool := "-?:,[]\x7b\x7d#&*!|>'\"%@\x60".toList.contains c

/-- Whether a plain scalar starts with a character that is not a gap. -/
def startsPlain (inFlow : Bool) (c : Char) (rest : List Char) : Bool :=
  !isIndicator c || (c == '-' && !rest.head?.any isSpaceOrTab) ||
    (!inFlow && (c == '?' || c == ':') && !atGap rest)

/-- Reads a token that starts with the given character. -/
def readToken (s : Scanner) (c : Char) (rest : List Char) : Except Fault Scanner :=
  if s.cursor.column == 0 && c == '%' then s.readDirectiveToken
  else if s.cursor.atMark '-' then s.readMark .documentStart
  else if s.cursor.atMark '.' then s.readMark .documentEnd
  else if c == '[' then s.openFlow .flowSequence
  else if c == '\x7b' then s.openFlow .flowMapping
  else if c == ']' then s.closeFlow .flowSequenceEnd
  else if c == '\x7d' then s.closeFlow .flowMappingEnd
  else if c == ',' then s.readComma
  else if c == '-' && atGap rest then s.readEntry
  else if c == '?' && (s.inFlow || atGap rest) then s.readKey
  else if c == ':' && (s.inFlow || atGap rest) then s.readValue
  else if c == '*' then s.readAnchorToken .alias
  else if c == '&' then s.readAnchorToken .anchor
  else if c == '!' then s.readTagToken
  else if c == '|' && !s.inFlow then s.readBlockToken true
  else if c == '>' && !s.inFlow then s.readBlockToken false
  else if c == '\'' then s.readQuotedToken true
  else if c == '"' then s.readQuotedToken false
  else if !isGap c && startsPlain s.inFlow c rest then s.readPlainToken
  else .error .unexpectedCharacter

/-- Reads all tokens; `fuel` bounds their number. -/
def readAll : Nat → Scanner → Except Fault (List Token)
  | 0, _ => .error .unexpectedCharacter
  | fuel + 1, s => do
    let s ← (skipGaps (s.cursor.rest.length + 1) s).dropStaleKeys
    let s := s.closeBlocks s.cursor.column
    match s.cursor.rest with
    | [] => return (← s.leaveBlocks).tokens.reverse
    | c :: rest => readAll fuel (← s.readToken c rest)

end Scanner

/-- The tokens of a text. Every token but the last takes a character at least. -/
def tokens (text : List Char) : Except Fault (List Token) :=
  if text.all isAllowed then Scanner.readAll (text.length + 1) { cursor := { rest := text } }
  else .error .control

end Galley.Yaml
