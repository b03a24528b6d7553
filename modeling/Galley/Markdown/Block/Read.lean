import Galley.Markdown.Block.Reading

/-!
Sorting lines into blocks. Each line first passes the containers that it continues and those that
it opens, and what is left of it continues the open block or starts another one. A line that lacks
the marks of its containers still belongs to them if both it and the line before are text; such a
line is called lazy.
-/

set_option autoImplicit false
set_option relaxedAutoImplicit false

namespace Galley.Markdown

/-- What a line is, by itself and by what is open before it. -/
inductive LineKind where
  | blank
  | code (rest : List Glyph)
  | fence (start : Point) (fence : Fence)
  | html (kind : HtmlKind) (isClosed : Bool)
  | heading (level : Nat) (text : List Glyph)
  | underline (level : Nat)
  | thematicBreak
  | component
  | alignments (columns : List (Option Alignment))
  | row
  | text

/-- The columns of a table whose first row is the last line of text. -/
def tableColumns? (d : Dialect) (leaf : Leaf) (gs : List Glyph) :
    Option (List (Option Alignment)) :=
  match leaf with
  | .text (header :: _) =>
    if d.gfm && isHeaderRow d header.body then
      (alignmentRow? d gs).bind fun columns =>
        if columns.length == (rowCells header.body).length then some columns else none
    else none
  | _ => none

/-- The level of a heading that a line underlines. -/
def underlines? (leaf : Leaf) (gs : List Glyph) : Option Nat :=
  match leaf with
  | .text _ | .none true => underline? gs
  | _ => none

/-- What a line is that does not go on with verbatim text. `plain` says that it cannot start with a
tag or an expression. -/
def lineKind (d : Dialect) (st : Reading) (isLazy plain : Bool) (gs : List Glyph) : LineKind :=
  if isBlankLine gs then .blank
  else
    let columns := if isLazy then none else tableColumns? d st.leaf gs
    let indented := if d.codeIndented && !st.interrupting then afterIndent? tabSize gs else none
    match columns, indented, unindent? d gs with
    | some columns, _, _ => .alignments columns
    | none, some rest, _ => .code rest
    | none, none, none => .text
    | none, none, some rest =>
      let fence := openFence? d (gs.length - rest.length) rest
      let html :=
        if d.rawHtml then htmlBlock? (!st.interrupting || isLazy) (rest.map (·.char)) else none
      let underline := if isLazy then none else underlines? st.leaf rest
      match fence, html, markedHeading? rest, underline with
      | some fence, _, _, _ => .fence (spanOf rest).start fence
      | none, some (kind, isClosed), _, _ => .html kind isClosed
      | none, none, some (level, text), _ => .heading level text
      | none, none, none, some level => .underline level
      | none, none, none, none =>
        if isThematicBreak rest then .thematicBreak
        else if d.mdx && !plain && rest.head?.any (fun g => g.char == '<' || g.char == '\x7b') then
          .component
        else
          match st.leaf with
          | .table .. => if isLazy then .text else .row
          | _ => .text

/-- Tags and expressions that fill lines, as blocks; `fuel` bounds their number. -/
def scanComponents (d : Dialect) : Nat → List RawBlock → List Glyph → Scan (List RawBlock)
  | 0, _, _ => .refused
  | fuel + 1, before, gs =>
    match dropSpaces gs with
    | [] => .done before.reverse []
    | g :: rest =>
      if g.char == '<' then
        (scanTag g.point rest).andThen fun tag rest =>
          scanComponents d fuel (.tag tag :: before) rest
      else if g.char == '\x7b' then
        (scanExpression rest).andThen fun value rest =>
          scanComponents d fuel (.expression value :: before) rest
      else .refused

/-- Lines, given last first, without the last line ending. -/
def withoutEnding : List Line → List Line
  | [] => []
  | last :: lines => { last with eol := none } :: lines

/-- Tags and expressions in lines, of which the last one stands first. -/
def scanLines (d : Dialect) (lines : List Line) : Scan (List RawBlock) :=
  let gs := joinLines lines.reverse
  scanComponents d (gs.length + 1) [] gs

/-- A line that waits to be read, and whether a tag or an expression at its start is out of the
question. -/
structure Waiting where
  line : Line
  plain : Bool

/-- Lines that were taken for a tag in vain, given last first: the first one is text. -/
def asText (lines : List Line) : List Waiting :=
  match lines.reverse with
  | [] => []
  | line :: rest => ⟨line, true⟩ :: rest.map fun line => ⟨line, false⟩

namespace Reading

/-- A line without its ending, which goes to the state. -/
def endLine (st : Reading) (line : Line) (isBlank : Bool) : Reading :=
  { st with
    ending := line.eol.map fun g => ⟨isBlank, g⟩
    stop := endPoint line.start line.body }

/-- Puts down what was open before a line that starts something else. -/
def finish (d : Dialect) (st : Reading) : Reading :=
  (st.closeLeaf d false).pushEnding

/-- A line that is meant to underline a heading. Where no text stands before it, it is text. -/
def underline (d : Dialect) (st : Reading) (level : Nat) (line : Line) : Reading :=
  let body := dropSpaces line.body
  let lead : RawBlock := .paragraph (spanOf body) (some (body, none)) []
  let marked (st : Reading) : Reading := { st with leaf := .none true, accepting := true }
  match st.leaf with
  | .text lines =>
    let gs := joinLines lines.reverse
    let (definitions, rest) := splitDefinitions d gs.length gs
    if rest.isEmpty then marked ((st.finish d).push lead)
    else
      let span : Span := ⟨(spanOf rest).start, endPoint line.start line.body⟩
      let ending := (st.ending.map (·.glyph.ending)).getD .lf
      marked (({ st with ending := none }.pushAll definitions).push
        (.heading span (some ending) level rest))
  | _ => marked ((st.finish d).push lead)

/-- Starts a table under the last line of text. -/
def startTable (d : Dialect) (st : Reading) (columns : List (Option Alignment)) : Reading :=
  match st.leaf with
  | .text (header :: lines) =>
    let ending := (st.ending.map (·.glyph.ending)).getD .lf
    let before : Reading := { st with
      leaf := .text (match lines with
        | [] => []
        | last :: lines => { last with eol := none } :: lines)
      ending := (lines.head?.bind (·.eol)).map fun g => ⟨false, g⟩ }
    let st := if lines.isEmpty then { st with ending := none } else before.finish d
    { st with leaf := .table header.start columns (rowCells header.body) ending [] }
  | _ => st

/-- Adds a line to the open text, or opens it. -/
def addText (d : Dialect) (st : Reading) (line : Line) : Reading :=
  let line' := { line with eol := none }
  let st := match st.leaf with
    | .text (last :: lines) =>
      let last := { last with eol := st.ending.map LineEnd.glyph }
      { st with leaf := .text (line' :: last :: lines) }
    | _ => { st.finish d with leaf := .text [line'] }
  { st with interrupting := true, accepting := true }

/-- The ending of the last line as a part of the open block. -/
def endingPart (st : Reading) : List Verbatim :=
  (st.ending.map fun e => Verbatim.eol e.glyph.ending).toList

/-- A part for a line, if it is not empty. -/
def linePart (gs : List Glyph) : List Verbatim :=
  if gs.isEmpty then [] else [.line gs]

/-- A line that starts something, or goes on with text or a table. -/
def startLine (d : Dialect) (st : Reading) (line : Line) (kind : LineKind) : Reading :=
  let idle := { st with interrupting := false, accepting := false }
  match kind with
  | .blank => (idle.finish d).endLine line true
  | .text => (st.addText d line).endLine line false
  | .component => st
  | .underline level => (idle.underline d level line).endLine line false
  | .alignments columns => (idle.startTable d columns).endLine line false
  | .row =>
    match st.leaf, st.ending with
    | .table start columns header ending rows, some e =>
      { idle with
        leaf := .table start columns header ending ((e.glyph.ending, rowCells line.body) :: rows)
      }.endLine line false
    | _, _ => st
  | .code rest =>
    let start := (spanOf line.body).start
    { idle.finish d with leaf := .code start (linePart rest) [] }.endLine line false
  | .fence start fence =>
    { idle.finish d with leaf := .fence start fence [] }.endLine line false
  | .html kind isClosed =>
    let st := idle.finish d
    let st := if isClosed then st.push (.html (linePart line.body))
      else { st with leaf := .html kind (linePart line.body) }
    st.endLine line false
  | .heading level text =>
    let span : Span := ⟨(spanOf (dropSpaces line.body)).start, (spanOf line.body).stop⟩
    ((idle.finish d).push (.heading span none level text)).endLine line false
  | .thematicBreak => ((idle.finish d).push .thematicBreak).endLine line false

/-- A line that goes on with verbatim text, if it does. -/
def continueLine (d : Dialect) (st : Reading) (line : Line) : Option Reading :=
  match st.leaf with
  | .fence start fence parts =>
    if fence.closedBy d line.body then
      let block : RawBlock := .code start (some fence) true (st.endingPart ++ parts).reverse
      some (({ st with leaf := .none false }.push block).endLine line false)
    else
      let rest := (takeSpaces fence.indent line.body).2
      let parts := linePart rest ++ (st.endingPart ++ parts)
      some ({ st with leaf := .fence start fence parts }.endLine line false)
  | .html kind parts =>
    if kind.endsAtBlank && isBlankLine line.body then none
    else
      let parts := linePart line.body ++ (st.endingPart ++ parts)
      if kind.closes (line.body.map (·.char)) then
        some (({ st with leaf := .none false }.push (.html parts.reverse)).endLine line false)
      else some ({ st with leaf := .html kind parts }.endLine line false)
  | .code start parts blanks =>
    match afterIndent? tabSize line.body with
    | some rest =>
      let eols := blanks.filterMap fun
        | .eol e | .blank e => some (Verbatim.eol e)
        | _ => none
      let parts := linePart rest ++ (st.endingPart ++ (eols ++ parts))
      some ({ st with leaf := .code start parts [] }.endLine line false)
    | none =>
      if isBlankLine line.body then
        let blanks := (st.ending.map LineEnd.block).toList ++ blanks
        some ({ st with leaf := .code start parts blanks }.endLine line true)
      else none
  | _ => none

/-- Reads lines that may be tags or expressions, given last first; gives them back if they turn out
to be text. -/
def component (d : Dialect) (before : Reading) (lines : List Line) :
    Except Fault (Reading × List Waiting) :=
  match lines with
  | [] => .ok (before, [])
  | line :: _ =>
    match scanLines d (withoutEnding lines) with
    | .done blocks _ => .ok (((before.finish d).pushAll blocks).endLine line false, [])
    | .fault f => .error f
    | .refused => .ok (before, asText lines)
    | .starved inExpression _ =>
      .ok ({ before with
        leaf := .component before.leaf before.ending lines inExpression }.endLine line false, [])

/-- What a line is, when tags and expressions at its start are tried. -/
def triedKind (d : Dialect) (st : Reading) (isLazy : Bool) (waiting : Waiting) : LineKind :=
  match lineKind d st isLazy waiting.plain waiting.line.body with
  | .component =>
    match scanLines d (withoutEnding [waiting.line]) with
    | .refused => lineKind d st isLazy true waiting.line.body
    | _ => .component
  | kind => kind

/-- Reads a line that starts something. A lazy line that is not accepted closes the containers that
it does not continue, so that `depth` are left. -/
def freshLine (d : Dialect) (st : Reading) (waiting : Waiting) (isLazy : Bool) (depth : Nat) :
    Except Fault (Reading × List Waiting) :=
  let kind := triedKind d st isLazy waiting
  let accepted := match kind with
    | .text => st.accepting
    | _ => false
  let leaves := isLazy && !accepted
  let st := if leaves then (st.closeLeaf d false).closeContainers depth else st
  match kind with
  | .component =>
    component d { st with interrupting := false, accepting := false } [waiting.line]
  | kind =>
    let st := st.startLine d waiting.line kind
    .ok (if leaves then { st with interrupting := false } else st, [])

/-- Reads a line after its containers. -/
def feedLine (d : Dialect) (st : Reading) (waiting : Waiting) (isLazy : Bool) (depth : Nat) :
    Except Fault (Reading × List Waiting) :=
  let line := waiting.line
  match st.leaf with
  | .component before ending lines inExpression =>
    if isLazy then
      .error (Fault.lazyLine line.start (if inExpression then "expression" else "jsx"))
    else component d { st with leaf := before, ending } (line :: lines)
  | _ =>
    match if isLazy then none else continueLine d st line with
    | some st => .ok (st, [])
    | none => freshLine d st waiting isLazy depth

/-- Reads lines that are not lazy; `fuel` bounds how often lines are read again. -/
def feedAll (d : Dialect) : Nat → Reading → List Waiting → Except Fault Reading
  | 0, st, _ => .ok st
  | _, st, [] => .ok st
  | fuel + 1, st, w :: rest => do
    let (st, again) ← st.feedLine d w false 0
    feedAll d fuel st (again ++ rest)

/-- Decides on tags and expressions that nothing follows: they are at fault, or text. -/
def settle (d : Dialect) : Nat → Reading → Except Fault Reading
  | 0, st => .ok st
  | fuel + 1, st =>
    match st.leaf with
    | .component before ending lines _ =>
      match scanLines d lines with
      | .starved _ (some atEnd) =>
        .error (atEnd (endPoint st.stop (joinLines lines.reverse)))
      | _ => do
        let count := lines.length + 1
        let restored := { st with leaf := before, ending }
        settle d fuel (← feedAll d (count * count) restored (asText lines))
    | _ => .ok st

/-- Settles and closes the open block. -/
def closeOpen (d : Dialect) (st : Reading) (atEnd : Bool) : Except Fault Reading := do
  let fuel := match st.leaf with
    | .component _ _ lines _ => lines.length + 1
    | _ => 1
  return (← settle d fuel st).closeLeaf d atEnd

/-- Whether containers cannot start inside the open block. -/
def isConcrete (st : Reading) : Bool :=
  match st.leaf with
  | .fence .. | .html .. | .component .. => true
  | _ => false

end Reading

/-- Passes the containers that a line continues, outermost first: those containers, and what is
left of the line. -/
def passContainers (d : Dialect) : List OpenContainer → List Glyph →
    List OpenContainer × List Glyph
  | [], gs => ([], gs)
  | o :: rest, gs =>
    match o.container.continuedBy d gs with
    | none => ([], gs)
    | some (container, gs) =>
      let (passed, gs) := passContainers d rest gs
      ({ o with container } :: passed, gs)

/-- The place where glyphs start. -/
def startPoint (fallback : Point) (gs : List Glyph) : Point :=
  (gs.head?.map (·.point)).getD fallback

/-- Opens the containers that start on a line; `fuel` bounds their number. `depth` containers are
continued by it. -/
def openContainers (d : Dialect) : Nat → Reading → Nat → Point → List Glyph →
    Except Fault (Reading × Nat × List Glyph)
  | 0, st, depth, _, gs => .ok (st, depth, gs)
  | fuel + 1, st, depth, start, gs =>
    let all := depth == st.opens.length
    if all && st.isConcrete then .ok (st, depth, gs)
    else
      match container? d (all && st.interrupting) gs with
      | none => .ok (st, depth, gs)
      | some (container, rest) => do
        let st := ((← st.closeOpen d false).closeContainers depth).pushEnding
        let opened : OpenContainer :=
          { container, start := startPoint start gs, children := [] }
        let st := { st with
          opens := opened :: st.opens
          interrupting := false
          accepting := false }
        openContainers d fuel st (depth + 1) (endPoint start gs) rest

/-- Reads one line. -/
def readLine (d : Dialect) (st : Reading) (line : Line) : Except Fault Reading := do
  let outer := st.opens.reverse
  let (passed, gs) := passContainers d outer line.body
  let stop := endPoint line.start line.body
  let st := { st with opens := (passed ++ outer.drop passed.length).reverse }
  let (st, depth, gs) ← openContainers d (gs.length + 1) st passed.length stop gs
  let rest : Line :=
    { body := gs, eol := line.eol
      start := startPoint ((line.eol.map (·.point)).getD stop) gs }
  if gs.isEmpty && line.eol.isNone then
    return (← st.closeOpen d true).pushEnding
  else
    let (st, again) ← st.feedLine d ⟨rest, false⟩ (depth < st.opens.length) depth
    let count := again.length + 1
    st.feedAll d (count * count) again

/-- Reads all lines. -/
def readLines (d : Dialect) : Reading → List Line → Except Fault Reading
  | st, [] => .ok st
  | st, line :: rest => do readLines d (← readLine d st line) rest

/-- Closes all that is open at the end of the document. -/
def finishReading (d : Dialect) (st : Reading) : Except Fault (List RawBlock) := do
  let st ← st.closeOpen d true
  return ((st.closeContainers 0).pushEnding).base.reverse

end Galley.Markdown
