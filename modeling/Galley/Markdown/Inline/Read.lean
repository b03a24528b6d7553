import Galley.Markdown.Definition
import Galley.Markdown.Dialect
import Galley.Markdown.Inline.Autolink
import Galley.Markdown.Inline.Emphasis
import Galley.Markdown.Inline.Html

/-!
Reading a text into its elements. The reader goes from left to right and keeps a stack of brackets
that wait for their other half; a bracket that finds none is plain text. At the end of each level
the marks of emphasis are matched, blanks at the edges of lines are dropped, and addresses for mail
are cut out of what is still plain.
-/

set_option autoImplicit false
set_option relaxedAutoImplicit false

namespace Galley.Markdown

/-- What a text is read against: the dialect, the whole source, and the identifiers that have a
definition or a footnote. -/
structure Scope where
  dialect : Dialect
  source : Array Char
  isDefined : List Char → Bool
  isFootnote : List Char → Bool

/-- What an opening bracket may start. -/
inductive BracketKind where
  | link
  | image
  | footnote
deriving DecidableEq, Repr

/-- An opening bracket that waits: its marks, the glyphs after it, and the pieces before it, last
first. A link that has a link inside is inactive. -/
structure Bracket where
  kind : BracketKind
  marks : List Glyph
  inside : List Glyph
  inactive : Bool
  outer : List Piece

/-- The state of the reader: the glyph before, whether it ended an escape, the brackets that wait,
innermost first, and the pieces of the innermost level, last first. -/
structure TextState where
  previous : Option Char := none
  afterEscape : Bool := false
  brackets : List Bracket := []
  pieces : List Piece := []

/-- Code or a formula after its opening marks: the content and the glyphs after the closing marks,
which are as many as `size`. `run` counts the marks just passed. -/
def closeVerbatim (mark : Char) (size run : Nat) (before : List Glyph) :
    List Glyph → Option (List Glyph × List Glyph)
  | [] => if run == size then some ((before.drop size).reverse, []) else none
  | g :: rest =>
    if g.char == mark then closeVerbatim mark size (run + 1) (g :: before) rest
    else if run == size then some ((before.drop size).reverse, g :: rest)
    else closeVerbatim mark size 0 (g :: before) rest

/-- Code or a formula, with the marks that stand around it cut off. -/
def verbatim? (mark : Char) (gs : List Glyph) : Option (List Glyph × List Glyph) :=
  let size := (gs.takeWhile (·.char == mark)).length
  closeVerbatim mark size 0 [] (gs.drop size)

/-- The part of a link after its closing bracket that says where it points. -/
def resource? : List Glyph → Option (Target × List Glyph)
  | [] => none
  | g :: rest =>
    if g.char != '(' then none
    else
      let rest := skipSpaceOrEol rest
      match rest with
      | [] => none
      | h :: after =>
        if h.char == ')' then some (.direct [] none, after)
        else
          (destination? (some destinationDepth) rest).bind fun (url, rest) =>
            let close (title : Option (List Char)) (gs : List Glyph) :
                Option (Target × List Glyph) :=
              match gs with
              | ⟨')', _, _, _, _⟩ :: after => some (.direct url title, after)
              | _ => none
            match spaceOrEol? rest with
            | none => close none rest
            | some inner =>
              if inner.head?.any (fun h => h.char == '"' || h.char == '\'' || h.char == '(') then
                (title? inner).bind fun (title, rest) => close (some title) (skipSpaceOrEol rest)
              else close none inner

/-- A reference after a closing bracket: a label of its own, or empty brackets that repeat the
text. -/
def reference? (scope : Scope) (label : List Char) (defined : Bool) (gs : List Glyph) :
    Option (Target × List Glyph) :=
  let full := (label? gs).bind fun (inside, rest) =>
    let text := sourceStretch scope.source inside
    if scope.isDefined (identifier text) then some (Target.labelled .full text, rest) else none
  match full with
  | some found => some found
  | none =>
    match gs with
    | _ :: ⟨']', _, _, _, _⟩ :: rest =>
      if defined then some (.labelled .collapsed label, rest) else none
    | _ => none

/-- Where a link with the given label points, by what follows its closing bracket. -/
def target? (scope : Scope) (label : List Char) (gs : List Glyph) :
    Option (Target × List Glyph) :=
  let defined := scope.isDefined (identifier label)
  let shortcut := if defined then some (Target.labelled .shortcut label, gs) else none
  match gs with
  | ⟨'(', _, _, _, _⟩ :: _ => resource? gs <|> shortcut
  | ⟨'[', _, _, _, _⟩ :: _ => reference? scope label defined gs
  | _ => shortcut

/-- Drops blanks at the end of plain text. Two or more, all of them spaces, are a hard break if a
line ending follows. -/
def trimEndOfData (beforeEol : Bool) (gs : List Glyph) : List Inline :=
  let kept := (gs.reverse.dropWhile Glyph.isSpace).reverse
  let blanks := gs.drop kept.length
  let text := if kept.isEmpty then [] else [Inline.data kept]
  if beforeEol && 2 ≤ blanks.length && blanks.all (fun g => g.char == ' ' && !g.filler) then
    text ++ [.hardBreak]
  else text

/-- Drops blanks where lines start and end. `atStart` says that a line starts here, and
`wholeEnds` that the text ends after the last element. -/
def trimLines (wholeEnds : Bool) (atStart : Bool) : List Inline → List Inline
  | [] => []
  | .data gs :: rest =>
    let beforeEol := match rest with
      | .eol _ :: _ => true
      | _ => false
    let gs' := if atStart then dropSpaces gs else gs
    if beforeEol || (wholeEnds && rest.isEmpty) then
      (if gs'.isEmpty then trimEndOfData beforeEol gs else trimEndOfData beforeEol gs') ++
        trimLines wholeEnds false rest
    else (if gs'.isEmpty then [] else [.data gs']) ++ trimLines wholeEnds false rest
  | .eol ending :: rest => .eol ending :: trimLines wholeEnds true rest
  | element :: rest => element :: trimLines wholeEnds false rest

mutual

/-- Trims the lines inside an element. -/
def Inline.trimmed : Inline → Inline
  | .marked marking span children =>
    .marked marking span (trimLines false false (trimmedEach children))
  | .link span target children => .link span target (trimLines false false (trimmedEach children))
  | .image target children => .image target (trimLines false false (trimmedEach children))
  | element => element

/-- Trims the lines inside each element. -/
def trimmedEach : List Inline → List Inline
  | [] => []
  | element :: rest => element.trimmed :: trimmedEach rest

end

mutual

/-- Cuts bare mail addresses out of an element. The text of links is left alone. -/
def Inline.withMail : Inline → List Inline
  | .data gs => mailLinks gs
  | .marked marking span children => [.marked marking span (withMailEach children)]
  | .image target children => [.image target (withMailEach children)]
  | element => [element]

/-- Cuts bare mail addresses out of each element. -/
def withMailEach : List Inline → List Inline
  | [] => []
  | element :: rest => element.withMail ++ withMailEach rest

end

/-- A piece of plain text. -/
def dataPiece (gs : List Glyph) : Piece := .element (.data gs)

/-- Plain text, a glyph a piece, in reverse. -/
def dataPieces (gs : List Glyph) : List Piece :=
  (gs.map fun g => dataPiece [g]).reverse

/-- Gives up the innermost bracket: its marks are plain text. -/
def TextState.flatten (st : TextState) (bracket : Bracket) (below : List Bracket) : TextState :=
  { st with
    brackets := below
    pieces := st.pieces ++ (dataPieces bracket.marks ++ bracket.outer) }

/-- Gives up all brackets. -/
def flattenAll (pieces : List Piece) : List Bracket → List Piece
  | [] => pieces
  | bracket :: below => flattenAll (pieces ++ (dataPieces bracket.marks ++ bracket.outer)) below

/-- Marks the brackets that can no longer become links, since a link must not hold another. -/
def deactivate (brackets : List Bracket) : List Bracket :=
  brackets.map fun b => if b.kind == .image then b else { b with inactive := true }

/-- A closing bracket, given with the glyphs after it. -/
def TextState.close (scope : Scope) (st : TextState) (g : Glyph) (rest : List Glyph) :
    TextState × List Glyph :=
  match st.brackets with
  | [] => ({ st with pieces := dataPiece [g] :: st.pieces }, rest)
  | bracket :: below =>
    let plain :=
      let flat := st.flatten bracket below
      ({ flat with pieces := dataPiece [g] :: flat.pieces }, rest)
    if bracket.inactive then plain
    else
      let inside := bracket.inside.take (bracket.inside.length - (rest.length + 1))
      let text := sourceStretch scope.source inside
      if bracket.kind == .footnote && scope.isFootnote (identifier text) then
        ({ st with
           brackets := deactivate below
           pieces := .element (.footnoteCall text) :: bracket.outer }, rest)
      else
        let isNote := bracket.kind == .footnote
        let label := if isNote then '^' :: text else text
        match target? scope label rest with
        | none => plain
        | some (target, after) =>
          let pieces :=
            if isNote then st.pieces ++ dataPieces (bracket.marks.drop 1) else st.pieces
          let children := resolveRuns pieces.reverse
          if bracket.kind == .image then
            ({ st with
               brackets := below
               pieces := .element (.image target children) :: bracket.outer }, after)
          else
            let whole := bracket.marks ++ bracket.inside
            let taken := whole.take (whole.length - after.length)
            ({ st with
               brackets := deactivate below
               pieces := .element (.link (spanBetween bracket.marks taken) target children) ::
                 bracket.outer }, after)

/-- What a reader makes of the glyphs in front of it: an element and the glyphs after it. -/
abbrev Found := Option (Inline × List Glyph)

/-- An escaped mark of punctuation, or a hard break. -/
def escape? : List Glyph → Found
  | [] => none
  | g :: rest =>
    if Text.isAsciiPunctuation g.char then some (.escaped [g.char], rest)
    else if g.isEol then some (.hardBreak, g :: rest)
    else none

/-- A character reference after its ampersand. -/
def textReference? (rest : List Glyph) : Found :=
  (characterReference? ((rest.take 34).map (·.char))).map fun (value, width) =>
    (.escaped value, rest.drop width)

/-- A link in angle brackets or raw HTML, after the `<`; `gs` starts with it. -/
def angle? (scope : Scope) (gs rest : List Glyph) : Found :=
  match autolink? rest with
  | some (isEmail, after) =>
    some (.autolink isEmail (glyphText (rest.take (rest.length - (after.length + 1)))), after)
  | none =>
    if scope.dialect.rawHtml then
      (htmlText rest).map fun after =>
        let left := scope.dialect.indentLimit gs.length
        (.html (htmlValue left 0 [] (gs.take (gs.length - after.length))), after)
    else none

/-- A link without marks. -/
def bare? (scope : Scope) (previous : Option Char) (gs : List Glyph) : Found :=
  match gs with
  | [] => none
  | g :: _ =>
    let text (after : List Glyph) := glyphText (gs.take (gs.length - after.length))
    if !scope.dialect.gfm then none
    else if g.char == 'h' || g.char == 'H' then
      if previous.any Text.isLetter then none
      else (schemeLink? gs).map fun after => (.bareLink [] (text after), after)
    else if g.char == 'w' || g.char == 'W' then
      if allowsWww previous then
        (wwwLink? gs).map fun after =>
          (.bareLink ['h', 't', 't', 'p', ':', '/', '/'] (text after), after)
      else none
    else none

/-- Code between backticks or a formula between dollar signs. -/
def textVerbatim? (scope : Scope) (st : TextState) (gs : List Glyph) : Found :=
  match gs with
  | [] => none
  | g :: _ =>
    if (g.char == '\x60' || (scope.dialect.math && g.char == '$')) &&
        (st.previous != some g.char || st.afterEscape) then
      (verbatim? g.char gs).map fun (content, after) =>
        (.verbatim (g.char == '$') content, after)
    else none

/-- An element that needs no look at the brackets and cannot be at fault. -/
def element? (scope : Scope) (st : TextState) (g : Glyph) (rest : List Glyph) : Found :=
  match g.char with
  | '\x60' | '$' => textVerbatim? scope st (g :: rest)
  | '&' => textReference? rest
  | '\\' => escape? rest
  | '<' => angle? scope (g :: rest) rest
  | 'h' | 'H' | 'w' | 'W' => bare? scope st.previous (g :: rest)
  | _ => none

/-- A tag or an expression in text. -/
def component (scope : Scope) (g : Glyph) (rest : List Glyph) : Scan Inline :=
  if !scope.dialect.mdx then .refused
  else if g.char == '<' then (scanTag g.point rest).map .tag
  else if g.char == '\x7b' then (scanExpression rest).map .expression
  else .refused

/-- An opening bracket, or the opening marks of an image or a footnote. -/
def bracket? (scope : Scope) (g : Glyph) (rest : List Glyph) :
    Option (BracketKind × List Glyph × List Glyph) :=
  if g.char == '!' then
    match rest with
    | h :: after =>
      if h.char == '[' && !(scope.dialect.gfm && after.head?.any (·.char == '^')) then
        some (.image, [g, h], after)
      else none
    | [] => none
  else if g.char == '[' then
    match rest with
    | h :: after =>
      if scope.dialect.gfm && h.char == '^' then some (.footnote, [g, h], after)
      else some (.link, [g], rest)
    | [] => some (.link, [g], rest)
  else none

/-- A run of marks of emphasis, given with the glyphs after it. -/
def run? (scope : Scope) (g : Glyph) (rest : List Glyph) : Option (Run × List Glyph) :=
  let c := g.char
  if c == '*' || c == '_' || (scope.dialect.gfm && c == '~') then
    let marks := g :: rest.takeWhile (·.char == c)
    let last := (marks.getLast?.getD g).nextIndex
    let before := if g.index == 0 then none else scope.source[g.index - 1]?
    some (Run.between scope.dialect.gfm before scope.source[last]? c marks,
      rest.drop (marks.length - 1))
  else none

/-- Goes on after glyphs that were read. -/
def TextState.advance (st : TextState) (gs rest : List Glyph) : TextState :=
  { st with
    previous := (gs[gs.length - rest.length - 1]?).map (·.char)
    afterEscape := false }

/-- Reads a text to its end; every step takes a glyph at least, so `fuel` bounds them. -/
def readPieces (scope : Scope) : Nat → TextState → List Glyph → Except Fault (List Piece)
  | 0, st, _ => .ok (flattenAll st.pieces st.brackets)
  | _, st, [] => .ok (flattenAll st.pieces st.brackets)
  | fuel + 1, st, g :: rest =>
    let proceed (st' : TextState) (after : List Glyph) :=
      readPieces scope fuel (st'.advance (g :: rest) after) after
    let add (piece : Piece) : TextState := { st with pieces := piece :: st.pieces }
    if g.isEol then proceed (add (.element (.eol g.ending))) rest
    else if g.char == ']' then
      let (st', after) := st.close scope g rest
      proceed st' after
    else
      match element? scope st g rest with
      | some (element, after) =>
        let isEscape := g.char == '\\' && after.length + 1 == rest.length
        readPieces scope fuel
          { (add (.element element)).advance (g :: rest) after with afterEscape := isEscape } after
      | none =>
        match bracket? scope g rest with
        | some (kind, marks, after) =>
          let bracket : Bracket :=
            { kind, marks, inside := after, inactive := false, outer := st.pieces }
          proceed { st with brackets := bracket :: st.brackets, pieces := [] } after
        | none =>
          match run? scope g rest with
          | some (run, after) => proceed (add (.run run)) after
          | none =>
            match component scope g rest with
            | .done element after => proceed (add (.element element)) after
            | .fault f => .error f
            | .starved _ (some atEnd) =>
              .error (atEnd (endPoint g.next rest))
            | _ => proceed (add (dataPiece [g])) rest

/-- The box in front of a task: whether it is ticked, and the glyphs after it. -/
def taskMark? : List Glyph → Option (Bool × List Glyph)
  | ⟨'[', _, _, _, _⟩ :: g :: ⟨']', _, _, _, _⟩ :: rest =>
    let follows := match rest with
      | [] => false
      | h :: _ => h.isEol || (h.isSpace && !(dropSpaces rest).isEmpty)
    if !follows then none
    else if g.char == 'x' || g.char == 'X' then some (true, rest)
    else if g.isSpaceOrEol then some (false, rest)
    else none
  | _ => none

/-- The elements of a text. `mayBeTask` says that the text can start with the box of a task. -/
def readText (scope : Scope) (mayBeTask : Bool) (gs : List Glyph) : Except Fault (List Inline) := do
  let task := if mayBeTask && scope.dialect.gfm then taskMark? gs else none
  let body := match task with
    | some (_, rest) => rest
    | none => gs
  let start : TextState := match task with
    | some _ => { previous := some ']' }
    | none => {}
  let pieces ← readPieces scope (body.length + 1) start body
  let elements := trimLines true task.isNone (trimmedEach (resolveRuns pieces.reverse))
  let elements := if scope.dialect.gfm then withMailEach elements else elements
  return match task with
    | some (checked, _) => .taskMark checked :: elements
    | none => elements

end Galley.Markdown
