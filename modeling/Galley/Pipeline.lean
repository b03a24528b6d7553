import Galley.Embed.Expansion
import Galley.Html.Outline
import Galley.Markdown.Page
import Galley.Markdown.Tree
import Galley.Metadata.FrontMatter
import Galley.ReadingTime
import Galley.Settings
import Galley.Typeset.Page

/-!
Rendering of posts. The text becomes a tree, the tree a document, and the passes enrich it. Where
that fails the text is converted without any enrichment, and where that fails too the text itself is
shown in a notice, so that a post is always rendered.
-/

set_option autoImplicit false
set_option relaxedAutoImplicit false

namespace Galley

/-- A change made to a tree. -/
abbrev Transform := Markdown.Node → Diagnostics → Markdown.Node × Diagnostics

/-- Applies transforms to a tree, in order. -/
def applyTransforms (transforms : List Transform) (tree : Markdown.Node) (d : Diagnostics) :
    Markdown.Node × Diagnostics :=
  transforms.foldl (fun (tree, d) transform => transform tree d) (tree, d)

/-- Why a text is not rendered in a certain way. -/
inductive RenderError where
  | parse (fault : Markdown.Fault)
  | enrich (error : Enrich.EnrichError)
deriving Repr, Inhabited

/-- The text of an error. -/
def RenderError.message : RenderError → List Char
  | .parse fault =>
    s!"Parse error at {fault.start.line}:{fault.start.column}: {fault.message}".toList
  | .enrich error => "Render error: ".toList ++ error.message

/-- How a text was rendered. -/
inductive RenderMode where
  | enriched
  | basic
  | errorBlock
deriving DecidableEq, Repr, Inhabited

/-- A text that was rendered. -/
structure Rendering where
  html : List Char
  headings : List Html.Heading
  mode : RenderMode
  diagnostics : Diagnostics
deriving Repr, Inhabited

/-- A post that was rendered. -/
structure Post where
  frontMatter : Metadata.FrontMatter
  readingTime : ReadingTime
  html : List Char
  headings : List Html.Heading
  diagnostics : Diagnostics
deriving Repr, Inhabited

/-- A notice that shows a text as it is. -/
def errorBlock (text : List Char) : List Char :=
  let before := "<div class=\"render-error\">" ++
    "<p><strong>Error:</strong> This content could not be rendered.</p><pre>"
  before.toList ++ Text.escapeText text ++ "</pre></div>".toList

/-- Settings with the passes that are run. -/
structure Pipeline where
  settings : Settings := {}
  passes : List Enrich.Pass := settings.passes

namespace Pipeline

/-- The changes made to the tree before it becomes a document. -/
def transforms (p : Pipeline) : List Transform :=
  if p.settings.embeds then [Embed.expand] else []

/-- The document of a tree, enriched. -/
def documentOf (p : Pipeline) (tree : Markdown.Node) (d : Diagnostics) : Enrich.Enriched :=
  let (tree, d) := applyTransforms p.transforms tree d
  Enrich.runPasses p.passes (Typeset.page tree) d

/-- The document of a text, and the reports. -/
def document (p : Pipeline) (text : List Char) :
    Except RenderError Html.Document × Diagnostics :=
  match Markdown.parse p.settings.dialect text with
  | .error fault => (.error (.parse fault), {})
  | .ok tree =>
    match p.documentOf tree {} with
    | (.ok doc, d) => (.ok doc, d)
    | (.error e, d) => (.error (.enrich e), d)

/-- The markup of a text without enrichment, or in a notice. -/
def fallback (p : Pipeline) (text : List Char) (d : Diagnostics) :
    List Char × RenderMode × Diagnostics :=
  match Markdown.toPage p.settings.dialect text with
  | .ok html => (html, .basic, d)
  | .error fault =>
    (errorBlock text, .errorBlock, d.fail "basic".toList (RenderError.parse fault).message)

/-- The markup of a text. -/
def markup (p : Pipeline) (text : List Char) : List Char × RenderMode × Diagnostics :=
  match p.document text with
  | (.ok doc, d) => (doc.write, .enriched, d)
  | (.error e, d) => p.fallback text (d.fail "pipeline".toList e.message)

/-- Renders a text. -/
def render (p : Pipeline) (text : List Char) : Rendering :=
  let (html, mode, diagnostics) := p.markup text
  { html, headings := Html.outline html, mode, diagnostics }

/-- Renders the body of a post. -/
def enhance (p : Pipeline) (frontMatter : Metadata.FrontMatter) (body : List Char) : Post :=
  let rendering := p.render body
  { frontMatter
    readingTime := ReadingTime.estimate body
    html := rendering.html
    headings := rendering.headings
    diagnostics := rendering.diagnostics }

/-- Renders a post with its metadata. -/
def renderSource (p : Pipeline) (source : List Char) : Except Metadata.MetadataError Post := do
  let (frontMatter, body) ← Metadata.split source
  return p.enhance frontMatter body

end Pipeline

end Galley
