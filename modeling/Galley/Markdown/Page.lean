import Galley.Markdown.Address
import Galley.Markdown.Document
import Galley.Markdown.Looseness

/-!
A document as a page, written straight from its blocks. Raw HTML is passed on, but for the tags of a
few elements that would change how the rest of the page is read. Line endings of the source are kept
between blocks where they do no harm.
-/

set_option autoImplicit false
set_option relaxedAutoImplicit false

namespace Galley.Markdown

/-- What a part of a page is in. -/
structure PageContext where
  source : Array Char
  /-- The line ending that is put between tags. -/
  newline : List Char
  /-- The destination and the title of each identifier, the first definition first. -/
  definitions : List (List Char × List Char × Option (List Char))
  /-- Whether paragraphs are set apart, for each container around, innermost first. -/
  tight : List Bool := []
  inImage : Bool := false
  inLink : Bool := false
  inTable : Bool := false

/-- A page that is being written: its text in reverse, whether the next line ending is dropped, how
often each footnote was called, in the order of the first calls, and the text of each footnote. -/
structure Page where
  out : List Char := []
  slurp : Bool := false
  calls : List (List Char × Nat) := []
  notes : List (List Char × List Char) := []

namespace Page

/-- Adds characters. -/
def put (p : Page) (s : List Char) : Page :=
  { p with out := s.reverse ++ p.out }

/-- Adds a fixed text. -/
def tag (p : Page) (s : String) : Page := p.put s.toList

/-- Sets whether the next line ending is dropped. -/
def slurping (p : Page) (slurp : Bool) : Page := { p with slurp }

/-- Ends the line if something stands on it. -/
def fresh (p : Page) (c : PageContext) : Page :=
  match p.out with
  | [] => p
  | last :: _ => if last == '\n' || last == '\r' then p else p.put c.newline

/-- A line ending of the source. -/
def eol (p : Page) (ending : Ending) : Page :=
  if p.slurp then p.slurping false else p.put ending.chars

/-- Counts a call of a footnote: its number, and how often it has been called. -/
def call (p : Page) (id : List Char) : Page × Nat × Nat :=
  let index := p.calls.findIdx (·.1 == id)
  match p.calls[index]? with
  | some (_, count) =>
    ({ p with calls := p.calls.set index (id, count + 1) }, index + 1, count + 1)
  | none => ({ p with calls := p.calls ++ [(id, 1)] }, index + 1, 1)

end Page

/-- Elements whose tags are not passed on. -/
def filteredElements : List String :=
  ["iframe", "noembed", "noframes", "plaintext", "script", "style", "textarea", "title", "xmp"]

/-- Whether the text after a `<` is a tag that is not passed on. -/
def isFilteredTag (rest : List Char) : Bool :=
  let rest := if rest.head? == some '/' then rest.drop 1 else rest
  let name := (rest.takeWhile Text.isAlnum).take 9
  let ends := match rest.drop name.length with
    | [] => true
    | c :: _ => Text.isAsciiBlank c || c == '/' || c == '>'
  ends && filteredElements.contains (String.ofList (Text.asciiLower name))

/-- Raw HTML as it is passed on. -/
def filterTags : List Char → List Char
  | [] => []
  | c :: rest =>
    if c == '<' && isFilteredTag rest then ['&', 'l', 't', ';'] ++ filterTags rest
    else shownChar c :: filterTags rest

/-- Code or a formula in text, where line endings are blanks. -/
def pageVerbatim (inTable : Bool) (content : List Glyph) : List Char :=
  verbatimValue inTable (content.map fun g => if g.isEol then { g with char := ' ' } else g)

/-- The tag of marked text. -/
def Marking.tagName : Marking → String
  | .emphasis => "em"
  | .strong => "strong"
  | .deletion => "del"

/-- The address and the title that a target stands for. -/
def PageContext.resolve (c : PageContext) : Target → List Char × Option (List Char)
  | .direct url title => (url, title)
  | .labelled _ label => ((c.definitions.lookup (identifier label)).getD ([], none))

namespace Page

/-- A title as an attribute. -/
def putTitle (p : Page) (title : Option (List Char)) : Page :=
  match title with
  | none => p
  | some title => ((p.tag " title=\"").put (shown title)).tag "\""

/-- A link that shows its address. -/
def putAutolink (p : Page) (c : PageContext) (isBare : Bool) (scheme value : List Char) : Page :=
  if c.inImage || (c.inLink && isBare) then p.put (shown value)
  else
    ((((p.tag "<a href=\"").put (safeAddress linkSchemes (scheme ++ value))).tag "\">").put
      (shown value)).tag "</a>"

/-- A call of a footnote. In the label of an image it only counts. -/
def putCall (p : Page) (c : PageContext) (id : List Char) : Page :=
  let (p, number, count) := p.call id
  if c.inImage then p
  else
    let safe := String.ofList (shownAddress (Text.lower id))
    let again := if count == 1 then "" else s!"-{count}"
    p.tag (s!"<sup><a href=\"#user-content-fn-{safe}\" id=\"user-content-fnref-{safe}{again}\" " ++
      s!"data-footnote-ref=\"\" aria-describedby=\"footnote-label\">{number}</a></sup>")

end Page

mutual

/-- Writes an element of text. -/
def writeInline (c : PageContext) (p : Page) : Inline → Page
  | .data gs => p.put (shown (glyphText gs))
  | .escaped value => p.put (shown value)
  | .eol ending => p.eol ending
  | .hardBreak => if c.inImage then p else p.tag "<br />"
  | .verbatim isMath content =>
    let value := shown (pageVerbatim c.inTable content)
    if c.inImage then p.put value
    else
      let start := if isMath then "<code class=\"language-math math-inline\">" else "<code>"
      ((p.tag start).put value).tag "</code>"
  | .html value => p.put (filterTags value)
  | .autolink isEmail value =>
    p.putAutolink c false (if isEmail then ['m', 'a', 'i', 'l', 't', 'o', ':'] else []) value
  | .bareLink scheme value => p.putAutolink c true scheme value
  | .expression _ | .tag _ => p
  | .taskMark checked =>
    p.tag (if checked then "<input type=\"checkbox\" disabled=\"\" checked=\"\" />"
      else "<input type=\"checkbox\" disabled=\"\" />")
  | .footnoteCall label => p.putCall c (identifier label)
  | .marked marking _ children =>
    if c.inImage then writeText c p children
    else
      let name := marking.tagName
      (writeText c (p.tag s!"<{name}>") children).tag s!"</{name}>"
  | .link _ target children =>
    let inner := { c with inLink := true }
    if c.inImage then writeText inner p children
    else
      let (url, title) := c.resolve target
      let p := (((p.tag "<a href=\"").put (safeAddress linkSchemes url)).tag "\"").putTitle title
      (writeText inner (p.tag ">") children).tag "</a>"
  | .image target children =>
    let inner := { c with inImage := true }
    if c.inImage then writeText inner p children
    else
      let (url, title) := c.resolve target
      let p := (((p.tag "<img src=\"").put (safeAddress imageSchemes url)).tag "\" alt=\"")
      (((writeText inner p children).tag "\"").putTitle title).tag " />"

/-- Writes elements of text. -/
def writeText (c : PageContext) (p : Page) : List Inline → Page
  | [] => p
  | element :: rest => writeText c (writeInline c p element) rest

end

/-- The alignment of a cell as an attribute. -/
def alignmentAttribute : Option Alignment → String
  | none => ""
  | some .left => " align=\"left\""
  | some .right => " align=\"right\""
  | some .center => " align=\"center\""

/-- The start of a cell, on a line of its own. -/
def startCell (c : PageContext) (p : Page) (name : String) (column : Option Alignment) : Page :=
  (p.fresh c).tag s!"<{name}{alignmentAttribute column}>"

/-- Writes cells for the columns of a table. Cells beyond the columns only count their calls of
footnotes, and columns without cells get empty ones. -/
def writeCells (c : PageContext) (name : String) (p : Page) :
    List (Option Alignment) → List (Span × List Inline) → Page
  | [], [] => p
  | [], (_, text) :: rest =>
    let hidden := writeText c p text
    writeCells c name { hidden with out := p.out } [] rest
  | column :: columns, [] =>
    writeCells c name ((startCell c p name column).tag s!"</{name}>") columns []
  | column :: columns, (_, text) :: rest =>
    let p := writeText c (startCell c p name column) text
    writeCells c name (p.tag s!"</{name}>") columns rest

/-- Writes a row of a table. -/
def writeRow (c : PageContext) (name : String) (columns : List (Option Alignment)) (p : Page)
    (cells : List (Span × List Inline)) : Page :=
  let p := (p.fresh c).tag "<tr>"
  ((writeCells { c with inTable := true } name p columns cells).fresh c).tag "</tr>"

/-- Writes the rows below the first one. -/
def writeRows (c : PageContext) (columns : List (Option Alignment)) (p : Page)
    (rows : List (Ending × List (Span × List Inline))) : Page :=
  match rows with
  | [] => p
  | (ending, first) :: rest =>
    let p := ((p.eol ending).fresh c).tag "<tbody>"
    let p := writeRow c "td" columns p first
    let p := rest.foldl (fun p (ending, cells) => writeRow c "td" columns (p.eol ending) cells) p
    (p.fresh c).tag "</tbody>"

/-- Writes the parts of a verbatim block. -/
def writeParts (write : List Char → List Char) (p : Page) (parts : List Verbatim) : Page :=
  parts.foldl (fun p part => match part with
    | .eol ending => p.eol ending
    | .line gs => p.put (write (glyphText gs))) p

/-- Whether a part is a line. -/
def Verbatim.isLine : Verbatim → Bool
  | .line _ => true
  | .eol _ => false

/-- Writes a block of code or a formula. -/
def writeCode (c : PageContext) (p : Page) (fence : Option Fence) (isClosed : Bool)
    (parts : List Verbatim) : Page :=
  let p := (p.fresh c).tag "<pre><code"
  let p := match fence with
    | none => p.tag ">"
    | some fence =>
      let p := if fence.isMath then p.tag " class=\"language-math math-display\"" else p
      let p := match fence.info with
        | none => p
        | some info => ((p.tag " class=\"language-").put (shown info)).tag "\""
      (p.tag ">").slurping true
  let p := writeParts shown p parts
  -- The end of a document inside a container ends the last line of open code.
  let p := if fence.isSome && !isClosed && !c.tight.isEmpty && !parts.isEmpty then p.put c.newline
    else p
  let p := if parts.any Verbatim.isLine then p.fresh c else p
  let p := p.tag "</code></pre>"
  let p := if fence.isSome && !isClosed then p.fresh c else p
  p.slurping false

/-- The blocks of an item without those at its end that do not show. -/
def shownEnd (children : List TextBlock) : Option TextBlock :=
  (children.reverse.dropWhile fun
    | .eol _ | .blank _ | .definition _ | .note .. => true
    | _ => false).head?

mutual

/-- Writes a block. `isLast` says that nothing follows it in the document. -/
def writeBlock (c : PageContext) (isLast : Bool) (p : Page) : TextBlock → Page
  | .eol ending => p.eol ending
  | .blank _ =>
    let p := p.slurping false
    if isLast then p.fresh c else p
  | .frontMatter .. | .definition _ | .expression _ | .tag _ => p.slurping true
  | .paragraph _ lead text =>
    let text := match lead with
      | none => text
      | some (gs, ending) => .data gs :: ((ending.map Inline.eol).toList ++ text)
    if c.tight.head?.getD false then (writeText c p text).slurping true
    else (writeText c ((p.fresh c).tag "<p>") text).tag "</p>"
  | .heading _ _ level text =>
    (writeText c ((p.fresh c).tag s!"<h{level}>") text).tag s!"</h{level}>"
  | .thematicBreak => (p.fresh c).tag "<hr />"
  | .code _ fence isClosed parts => writeCode c p fence isClosed parts
  | .html parts => writeParts filterTags (p.fresh c) parts
  | .table _ columns header ending rows =>
    let p := (((p.fresh c).tag "<table>").fresh c).tag "<thead>"
    let p := (writeRow c "th" columns p header).eol ending
    let p := (p.fresh c).tag "</thead>"
    ((writeRows c columns p rows).fresh c).tag "</table>"
  | .quote _ children =>
    let inner := { c with tight := false :: c.tight }
    (((writeBlocks inner false ((p.fresh c).tag "<blockquote>") children).fresh c).slurping
      false).tag "</blockquote>"
  | .note _ label children =>
    let inner := { c with tight := false :: c.tight }
    let note := writeBlocks inner false { p with out := [], slurp := false } children
    let id := identifier (sourceStretch c.source label)
    { note with out := p.out, slurp := true, notes := note.notes ++ [(id, note.out.reverse)] }
  | .item _ _ children =>
    let p := writeBlocks c false ((p.fresh c).tag "<li>") children
    let p := p.slurping false
    let p := match shownEnd children with
      | none => p
      | some (.paragraph ..) => if c.tight.head?.getD false then p else p.fresh c
      | some _ => p.fresh c
    p.tag "</li>"
  | .list _ marker children =>
    let inner := { c with tight := (!isLoose children) :: c.tight }
    let name := if marker.number.isSome then "ol" else "ul"
    let start := match marker.number with
      | none => ""
      | some digits =>
        let number := Text.readDigits 10 digits
        if number == 1 then "" else s!" start=\"{number}\""
    let p := (p.fresh c).tag s!"<{name}{start}>"
    ((writeBlocks inner false p children).put c.newline).tag s!"</{name}>"

/-- Writes blocks. `atEnd` says that nothing follows them in the document. -/
def writeBlocks (c : PageContext) (atEnd : Bool) (p : Page) : List TextBlock → Page
  | [] => p
  | block :: rest => writeBlocks c atEnd (writeBlock c (atEnd && rest.isEmpty) p block) rest

end

/-- The links from a footnote back to its calls. -/
def backLinks (safe : String) (count : Nat) : String :=
  " ".intercalate ((List.range count).map fun k =>
    let again := if k == 0 then "" else s!"-{k + 1}"
    let mark := if k == 0 then "" else s!"<sup>{k + 1}</sup>"
    s!"<a href=\"#user-content-fnref-{safe}{again}\" data-footnote-backref=\"\" " ++
      s!"aria-label=\"Back to content\" class=\"data-footnote-backref\">↩{mark}</a>")

/-- Drops line endings at the end. -/
def dropEndings (s : List Char) : List Char :=
  (s.reverse.dropWhile fun c => c == '\n' || c == '\r').reverse

/-- Writes a footnote. The links back go into its last paragraph. -/
def writeNote (c : PageContext) (p : Page) (id : List Char) (count : Nat) : Page :=
  let safe := String.ofList (shownAddress (Text.lower id))
  let links := backLinks safe count
  let value := (p.notes.lookup id).getD []
  let p := ((p.put c.newline).tag s!"<li id=\"user-content-fn-{safe}\">").fresh c
  let inner := dropEndings value
  let ending := ['<', '/', 'p', '>']
  let p := if ending.isSuffixOf inner then
      let before := inner.take (inner.length - 4)
      (((p.put before).tag " ").tag links).put (value.drop before.length)
    else ((p.put value).fresh c).tag links
  (p.fresh c).tag "</li>"

/-- Writes the footnotes that were called. -/
def writeNotes (c : PageContext) (p : Page) : Page :=
  if p.calls.isEmpty then p
  else
    let p := (p.fresh c).tag "<section data-footnotes=\"\" class=\"footnotes\">"
    let p := p.tag "<h2 id=\"footnote-label\" class=\"sr-only\">Footnotes</h2>"
    let p := (p.put c.newline).tag "<ol>"
    let p := p.calls.foldl (fun p (id, count) => writeNote c p id count) p
    (((p.put c.newline).tag "</ol>").put c.newline).tag "</section>" |>.put c.newline

mutual

/-- The definitions in a block. -/
def definitionsIn (source : Array Char) :
    TextBlock → List (List Char × List Char × Option (List Char))
  | .definition d => [(identifier (sourceStretch source d.label), d.url, d.title)]
  | .note _ _ children | .quote _ children | .item _ _ children | .list _ _ children =>
    definitionsInAll source children
  | _ => []

/-- The definitions in blocks. -/
def definitionsInAll (source : Array Char) :
    List TextBlock → List (List Char × List Char × Option (List Char))
  | [] => []
  | block :: rest => definitionsIn source block ++ definitionsInAll source rest

end

/-- The first line ending of a document, or a line feed. -/
def firstEnding (source : Array Char) : List Char :=
  match source.toList.dropWhile fun c => c != '\n' && c != '\r' with
  | '\r' :: '\n' :: _ => ['\r', '\n']
  | '\r' :: _ => ['\r']
  | _ => ['\n']

/-- The page of a document. -/
def Document.page (doc : Document) : List Char :=
  let c : PageContext :=
    { source := doc.source
      newline := firstEnding doc.source
      definitions := definitionsInAll doc.source doc.blocks }
  (writeNotes c (writeBlocks c true {} doc.blocks)).out.reverse

/-- Writes a text as a page. -/
def toPage (d : Dialect) (source : List Char) : Except Fault (List Char) := do
  return (← readDocument d source).page

end Galley.Markdown
