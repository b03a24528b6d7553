import Galley.Diagnostics
import Galley.Embed.Recording
import Galley.Markdown.Node

/-!
Markers for recordings in a tree. A block in the language of recordings and a shortcode in a text
become raw markup. What names a recording wrongly is reported and stays as it is. A paragraph in
which nothing but markers is left gives way to them.
-/

set_option autoImplicit false
set_option relaxedAutoImplicit false

namespace Galley.Embed

open Markdown

/-- The language of blocks that name a recording. -/
def recordingLanguage : List Char := "asciinema".toList

/-- The stage in reports. -/
def stage : List Char := "embeds".toList

/-- What stands in place of a block that names no recording. -/
def missingNotice : List Char :=
  ("<div class=\"asciinema-error\"><p><strong>Error:</strong> Asciinema block missing cast-id" ++
    "</p></div>").toList

/-- Raw markup. -/
abbrev html (value : List Char) : Node := .atom (.html value)

/-- The replacement of a block with the given text, or the block itself if its name is wrong. -/
def replaceBlock (block : Node) (body : List Char) (place : Option Point) (d : Diagnostics) :
    Node × Diagnostics :=
  let r := Recording.ofBlock body
  if r.castId.isEmpty then
    (html missingNotice, d.warn (.embedMissingCastId
      (place.map fun p => { line := p.line, column := p.column })))
  else if r.isValid then (html r.marker, d)
  else (block, d.fail stage r.fault)

mutual

/-- Replaces blocks in a node. -/
def expandBlocks (d : Diagnostics) : Node → Node × Diagnostics
  | .atom (.code language remark value place) =>
    let block := Node.atom (.code language remark value place)
    if language == some recordingLanguage then replaceBlock block value place d else (block, d)
  | .atom value => (.atom value, d)
  | .branch construct children =>
    let (children, d) := expandAllBlocks d children
    (.branch construct children, d)

/-- Replaces blocks in nodes. -/
def expandAllBlocks (d : Diagnostics) : List Node → List Node × Diagnostics
  | [] => ([], d)
  | node :: rest =>
    let (node, d) := expandBlocks d node
    let (rest, d) := expandAllBlocks d rest
    (node :: rest, d)

end

/-- What a shortcode starts with. -/
def shortcodeStart : List Char := "[asciinema:".toList

/-- The shortcode at the front of a text: what it holds after the colon, which is not empty. -/
def shortcode? (s : List Char) : Option (List Char) :=
  if shortcodeStart.isPrefixOf s then
    let inside := s.drop shortcodeStart.length
    let params := inside.takeWhile (· != ']')
    if params.isEmpty || params.length == inside.length then none else some params
  else none

/-- The length of a shortcode. -/
def shortcodeWidth (params : List Char) : Nat := shortcodeStart.length + params.length + 1

/-- Whether a shortcode stands somewhere in a text. -/
def hasShortcode : List Char → Bool
  | [] => false
  | c :: rest => (shortcode? (c :: rest)).isSome || hasShortcode rest

/-- A text, unless it is empty; it is given in reverse. -/
def gapNode (gap : List Char) : List Node :=
  if gap.isEmpty then [] else [.text gap.reverse]

/-- Cuts a text at its shortcodes. `gap` holds the text since the last marker in reverse, and `skip`
counts characters of a shortcode that was read, which belong to the gap if `keeps` says so. -/
def splitFrom (keeps : Bool) (gap : List Char) (d : Diagnostics) :
    Nat → List Char → List Node × Diagnostics
  | _, [] => (gapNode gap, d)
  | skip + 1, c :: rest => splitFrom keeps (if keeps then c :: gap else gap) d skip rest
  | 0, c :: rest =>
    match shortcode? (c :: rest) with
    | none => splitFrom keeps (c :: gap) d 0 rest
    | some params =>
      let r := Recording.ofShortcode params
      let skip := shortcodeWidth params - 1
      if r.castId.isEmpty then splitFrom true (c :: gap) d skip rest
      else if r.isValid then
        let (parts, d) := splitFrom false [] d skip rest
        (gapNode gap ++ html r.marker :: parts, d)
      else splitFrom true (c :: gap) (d.fail stage r.fault) skip rest

/-- Cuts a text at its shortcodes. Those that name no recording, or name it wrongly, stay in the
text. -/
def splitShortcodes (d : Diagnostics) (value : List Char) : List Node × Diagnostics :=
  splitFrom false [] d 0 value

/-- What every marker starts with. -/
def markerStart : List Char := "<div class=\"asciinema-embed\"".toList

/-- Whether a node is a marker. -/
def isMarker : Node → Bool
  | .atom (.html value) => markerStart.isPrefixOf value
  | _ => false

/-- Whether a node is text with blanks only. -/
def isBlankNode : Node → Bool
  | .atom (.text value) => Text.isBlankText value
  | _ => false

/-- A paragraph with nothing but markers gives way to them. -/
def liftMarkers (construct : Construct) (children : List Node) : List Node :=
  if construct == .paragraph && children.any isMarker &&
      children.all (fun node => isMarker node || isBlankNode node) then
    children.filter isMarker
  else [.branch construct children]

mutual

/-- Replaces shortcodes in a node. -/
def expandShortcodes (d : Diagnostics) : Node → List Node × Diagnostics
  | .atom (.text value) =>
    if hasShortcode value then splitShortcodes d value else ([.text value], d)
  | .atom value => ([.atom value], d)
  | .branch construct children =>
    let (children, d) := expandAllShortcodes d children
    (liftMarkers construct children, d)

/-- Replaces shortcodes in nodes. -/
def expandAllShortcodes (d : Diagnostics) : List Node → List Node × Diagnostics
  | [] => ([], d)
  | node :: rest =>
    let (nodes, d) := expandShortcodes d node
    let (rest, d) := expandAllShortcodes d rest
    (nodes ++ rest, d)

end

/-- Replaces blocks and then shortcodes below the top of a tree. -/
def expand (root : Node) (d : Diagnostics) : Node × Diagnostics :=
  match root with
  | .atom value => (.atom value, d)
  | .branch construct children =>
    let (children, d) := expandAllBlocks d children
    let (children, d) := expandAllShortcodes d children
    (.branch construct children, d)

end Galley.Embed
