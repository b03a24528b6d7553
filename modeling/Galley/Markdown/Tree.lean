import Galley.Markdown.Document
import Galley.Markdown.Looseness
import Galley.Markdown.Node

/-!
The tree of a document. Text that stands side by side becomes one node, line endings included, and
component tags are matched: each opening tag takes the nodes up to its closing tag, which must stand
in the same construct.
-/

set_option autoImplicit false
set_option relaxedAutoImplicit false

namespace Galley.Markdown

/-- What a part of the document is in. -/
structure Surroundings where
  source : Array Char
  /-- The construct around, as faults name it, with the place where it starts. -/
  construct : Option (String × Point) := none
  /-- The innermost open tag outside of that construct. -/
  openTag : Option Tag := none
  inTable : Bool := false
  inLink : Bool := false

/-- An open tag with the nodes before it, last first. -/
structure OpenTag where
  tag : Tag
  outer : List Node

/-- Nodes that are put together: open tags, innermost first, and the nodes of the innermost one,
last first. -/
structure Gathering where
  tags : List OpenTag := []
  nodes : List Node := []

/-- Adds a node. -/
def Gathering.add (g : Gathering) (node : Node) : Gathering :=
  { g with nodes := node :: g.nodes }

/-- Adds text, to the last node if that is text as well. -/
def Gathering.addText (g : Gathering) (value : List Char) : Gathering :=
  match g.nodes with
  | .atom (.text before) :: rest => { g with nodes := .text (before ++ value) :: rest }
  | _ => g.add (.text value)

/-- The innermost open tag. -/
def Gathering.innermost (g : Gathering) (around : Surroundings) : Option Tag :=
  match g.tags with
  | [] => around.openTag
  | top :: _ => some top.tag

/-- A place as faults give it in brackets. -/
def Point.bracketed (p : Point) : String := s!"({p.text})"

/-- A component with its nodes. -/
def componentNode (inText : Bool) (tag : Tag) (children : List Node) : Node :=
  .branch (.component inText tag.name tag.attributes) children

/-- What is wrong with a closing tag, apart from its match. -/
def closingFault? (tag : Tag) : Option Fault :=
  match tag.firstAttribute, tag.selfClosing with
  | some point, _ =>
    some
      { start := point
        reason := "Unexpected attribute in closing tag, expected the end of the tag"
        rule := .unexpectedAttribute }
  | none, some point =>
    some
      { start := point
        reason :=
          "Unexpected self-closing slash \x60/\x60 in closing tag, expected the end of the tag"
        rule := .unexpectedSelfClosingSlash }
  | none, none => none

/-- Adds a closing tag, whose slash stands at the given place. -/
def Gathering.close (g : Gathering) (around : Surroundings) (inText : Bool) (tag : Tag)
    (slash : Point) : Except Fault Gathering :=
  match g.innermost around with
  | none =>
    .error
      { start := slash
        reason := "Unexpected closing slash \x60/\x60 in tag, expected an open tag first"
        rule := .unexpectedClosingSlash }
  | some opening =>
    match closingFault? tag with
    | some fault => .error fault
    | none =>
      if opening.name != tag.name then
        .error
          { start := tag.span.start
            stop := some tag.span.stop
            reason :=
              s!"Unexpected closing tag \x60{tag.abbreviated}\x60, expected corresponding " ++
                s!"closing tag for \x60{opening.abbreviated}\x60 {opening.span.start.bracketed}"
            rule := .tagMismatch }
      else
        match g.tags with
        | top :: below =>
          .ok ⟨below, componentNode inText top.tag g.nodes.reverse :: top.outer⟩
        | [] =>
          let (name, start) := around.construct.getD ("Root", ⟨1, 1⟩)
          .error
            { start := tag.span.start
              reason :=
                s!"Expected the closing tag \x60{tag.abbreviated}\x60 either before the start " ++
                  s!"of \x60{name}\x60 {start.bracketed}, or another opening tag after that start"
              rule := .tagMismatch }

/-- Adds a tag. -/
def Gathering.addTag (g : Gathering) (around : Surroundings) (inText : Bool) (tag : Tag) :
    Except Fault Gathering :=
  match tag.closing, tag.selfClosing with
  | some slash, _ => g.close around inText tag slash
  | none, some _ => .ok (g.add (componentNode inText tag []))
  | none, none => .ok { g with tags := ⟨tag, g.nodes⟩ :: g.tags, nodes := [] }

/-- The nodes, if all tags are closed where the construct around ends. -/
def Gathering.finish (g : Gathering) (around : Surroundings) (stop : Point) :
    Except Fault (List Node) :=
  match g.tags with
  | [] => .ok g.nodes.reverse
  | top :: _ =>
    let before := match around.construct with
      | some (name, _) => s!" before the end of \x60{name}\x60"
      | none => ""
    .error
      { start := stop
        reason :=
          s!"Expected a closing tag for \x60{top.tag.abbreviated}\x60 " ++
            s!"{top.tag.span.start.bracketed}" ++ before
        rule := .tagMismatch }

/-- The identifier and the label of a reference, from the label as it is written. -/
def Reference.of (label : List Char) : Reference :=
  ⟨Text.lower (Markdown.identifier label), some (plainText label)⟩

/-- The address of a link in angle brackets. -/
def autolinkUrl (isEmail : Bool) (value : List Char) : List Char :=
  if isEmail then ['m', 'a', 'i', 'l', 't', 'o', ':'] ++ value else value

mutual

/-- The text that an image shows for an element in its label. -/
def Inline.altText (inTable : Bool) : Inline → List Char
  | .data gs => glyphText gs
  | .escaped value => value
  | .eol ending => ending.chars
  | .verbatim _ content => verbatimValue inTable content
  | .html value => value
  | .autolink _ value => value
  | .bareLink _ value => value
  | .expression value => value
  | .marked _ _ children => altTextOf inTable children
  | .link _ _ children => altTextOf inTable children
  | _ => []

/-- The text that an image shows for its label. A hard break takes its line ending with it. -/
def altTextOf (inTable : Bool) : List Inline → List Char
  | [] => []
  | .hardBreak :: .eol _ :: rest => altTextOf inTable rest
  | element :: rest => element.altText inTable ++ altTextOf inTable rest

end

/-- The construct of marked text. -/
def Marking.construct : Marking → Construct
  | .emphasis => .emphasis
  | .strong => .strong
  | .deletion => .deletion

/-- The name of marked text in faults. -/
def Marking.name : Marking → String
  | .emphasis => "Emphasis"
  | .strong => "Strong"
  | .deletion => "GfmStrikethrough"

/-- The construct of a link. -/
def Target.linkConstruct : Target → Construct
  | .direct url title => .link url title
  | .labelled style label => .linkReference style (.of label)

/-- An image. -/
def Target.image (target : Target) (alt : List Char) : Node :=
  match target with
  | .direct url title => .atom (.image url title alt)
  | .labelled style label => .atom (.imageReference style (.of label) alt)

mutual

/-- Adds an element of text. -/
def gatherInline (around : Surroundings) (g : Gathering) : Inline → Except Fault Gathering
  | .data gs => .ok (g.addText (glyphText gs))
  | .escaped value => .ok (g.addText value)
  | .eol ending =>
    .ok (match g.nodes with
      | .atom .hardBreak :: _ => g
      | _ => g.addText ending.chars)
  | .hardBreak => .ok (g.add (.atom .hardBreak))
  | .verbatim isMath content =>
    let value := verbatimValue around.inTable content
    .ok (g.add (.atom (if isMath then .inlineMath value else .inlineCode value)))
  | .html value => .ok (g.add (.atom (.html value)))
  | .autolink isEmail value =>
    .ok (g.add (.branch (.link (autolinkUrl isEmail value) none) [.text value]))
  | .bareLink scheme value =>
    .ok (if around.inLink then g.addText value
      else g.add (.branch (.link (scheme ++ value) none) [.text value]))
  | .expression value => .ok (g.add (.atom (.expression true value)))
  | .tag tag => g.addTag around true tag
  | .taskMark _ => .ok g
  | .footnoteCall label => .ok (g.add (.atom (.footnoteReference (.of label))))
  | .marked marking span children => do
    let inner := { around with
      construct := some (marking.name, span.start), openTag := g.innermost around }
    let children ← gatherText inner span.stop {} children
    return g.add (.branch marking.construct children)
  | .link span target children => do
    let inner := { around with
      construct := some ("Link", span.start), openTag := g.innermost around, inLink := true }
    let children ← gatherText inner span.stop {} children
    return g.add (.branch target.linkConstruct children)
  | .image target children => .ok (g.add (target.image (altTextOf around.inTable children)))

/-- Adds elements of text that ends at the given place. -/
def gatherText (around : Surroundings) (stop : Point) (g : Gathering) :
    List Inline → Except Fault (List Node)
  | [] => g.finish around stop
  | element :: rest => do gatherText around stop (← gatherInline around g element) rest

end

/-- The text of verbatim parts. -/
def verbatimText (parts : List Verbatim) : List Char :=
  parts.flatMap fun
    | .eol ending => ending.chars
    | .line gs => glyphText gs

/-- Drops one line ending at the start. -/
def dropFirstEnding : List Char → List Char
  | '\r' :: '\n' :: rest => rest
  | '\r' :: rest => rest
  | '\n' :: rest => rest
  | s => s

/-- Drops one line ending at the end. -/
def dropLastEnding (s : List Char) : List Char :=
  match s.reverse with
  | '\n' :: '\r' :: rest => rest.reverse
  | '\r' :: rest => rest.reverse
  | '\n' :: rest => rest.reverse
  | _ => s

/-- The node of a block of code or a formula. -/
def codeNode (start : Point) (fence : Option Fence) (parts : List Verbatim) : Node :=
  let value := dropLastEnding (verbatimText parts)
  match fence with
  | none => .atom (.code none none value (some start))
  | some fence =>
    let value := dropLastEnding (dropFirstEnding (verbatimText parts))
    if fence.isMath then .atom (.math fence.remark value)
    else .atom (.code fence.info fence.remark value (some start))

/-- The box at the start of a text. -/
def taskBox? : List Inline → Option Bool
  | .taskMark checked :: _ => some checked
  | _ => none

/-- The box at the start of the first paragraph in an item. -/
def itemBox? : List TextBlock → Option Bool
  | [] => none
  | .paragraph _ _ text :: _ => taskBox? text
  | .eol _ :: rest | .blank _ :: rest | .definition _ :: rest => itemBox? rest
  | _ :: _ => none

/-- Drops the blank after the box of a task. -/
def dropBoxBlank : List Node → List Node
  | .atom (.text [_]) :: rest => rest
  | .atom (.text (_ :: value)) :: rest => .text value :: rest
  | nodes => nodes

/-- The text of a paragraph with the line before it. -/
def withLead (lead : Option (List Glyph × Option Ending)) (text : List Inline) : List Inline :=
  match lead with
  | none => text
  | some (gs, ending) => .data gs :: ((ending.map Inline.eol).toList ++ text)

/-- The cells of a row. -/
def gatherCells (around : Surroundings) : List (Span × List Inline) → Except Fault (List Node)
  | [] => .ok []
  | (span, text) :: rest => do
    let inner := { around with construct := some ("GfmTableCell", span.start), inTable := true }
    let cell ← gatherText inner span.stop {} text
    return .branch .cell cell :: (← gatherCells around rest)

/-- The rows of a table. -/
def gatherRows (around : Surroundings) :
    List (Ending × List (Span × List Inline)) → Except Fault (List Node)
  | [] => .ok []
  | (_, cells) :: rest => do
    let row ← gatherCells around cells
    return .branch .row row :: (← gatherRows around rest)

/-- The number of an item. -/
def ItemMarker.start? (m : ItemMarker) : Option Nat :=
  m.number.map (Text.readDigits 10)

mutual

/-- Adds a block. -/
def gatherBlock (around : Surroundings) (g : Gathering) : TextBlock → Except Fault Gathering
  | .eol _ | .blank _ => .ok g
  | .frontMatter isYaml value => .ok (g.add (.atom (if isYaml then .yaml value else .toml value)))
  | .definition d =>
    .ok (g.add (.atom (.definition (.of (sourceStretch around.source d.label)) d.url d.title)))
  | .paragraph span lead text => do
    let inner := { around with
      construct := some ("Paragraph", span.start), openTag := g.innermost around }
    let children ← gatherText inner span.stop {} (withLead lead text)
    return g.add (.branch .paragraph
      (if (taskBox? text).isSome then dropBoxBlank children else children))
  | .heading span underlined level text => do
    let name := if underlined.isSome then "HeadingSetext" else "HeadingAtx"
    let inner := { around with
      construct := some (name, span.start), openTag := g.innermost around }
    let children ← gatherText inner span.stop {} text
    return g.add (.branch (.heading level) children)
  | .thematicBreak => .ok (g.add (.atom .thematicBreak))
  | .code start fence _ parts => .ok (g.add (codeNode start fence parts))
  | .html parts => .ok (g.add (.atom (.html (verbatimText parts))))
  | .expression value => .ok (g.add (.atom (.expression false value)))
  | .tag tag => g.addTag around false tag
  | .table _ alignments header _ rows => do
    let inner := { around with openTag := g.innermost around }
    let header ← gatherCells inner header
    let rows ← gatherRows inner rows
    return g.add (.branch (.table alignments) (.branch .row header :: rows))
  | .quote span children => do
    let inner := { around with
      construct := some ("BlockQuote", span.start), openTag := g.innermost around }
    return g.add (.branch .blockquote (← gatherBlocks inner span.stop {} children))
  | .note span label children => do
    let inner := { around with
      construct := some ("GfmFootnoteDefinition", span.start), openTag := g.innermost around }
    let reference := Reference.of (sourceStretch around.source label)
    return g.add
      (.branch (.footnoteDefinition reference) (← gatherBlocks inner span.stop {} children))
  | .item span _ children => do
    let inner := { around with
      construct := some ("ListItem", span.start), openTag := g.innermost around }
    return g.add (.branch (.item (itemBox? children) (isSpreadItem children))
      (← gatherBlocks inner span.stop {} children))
  | .list span marker children => do
    let name := if marker.number.isSome then "ListOrdered" else "ListUnordered"
    let inner := { around with
      construct := some (name, span.start), openTag := g.innermost around }
    return g.add (.branch (.list marker.number.isSome marker.start? (isSpreadList children))
      (← gatherBlocks inner span.stop {} children))

/-- Adds blocks of a construct that ends at the given place. -/
def gatherBlocks (around : Surroundings) (stop : Point) (g : Gathering) :
    List TextBlock → Except Fault (List Node)
  | [] => g.finish around stop
  | block :: rest => do gatherBlocks around stop (← gatherBlock around g block) rest

end

/-- The tree of a document. -/
def Document.tree (doc : Document) : Except Fault Node := do
  return .branch .root (← gatherBlocks { source := doc.source } doc.stop {} doc.blocks)

/-- Reads a text as a tree. -/
def parse (d : Dialect) (source : List Char) : Except Fault Node := do
  (← readDocument d source).tree

end Galley.Markdown
