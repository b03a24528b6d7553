import Galley.Data.Schema
import Galley.Enrich.Diagrams
import Galley.Enrich.Headings
import Galley.Enrich.Images
import Galley.Markdown.Dialect

/-!
How posts are rendered: which steps are taken, with what, and in which dialect posts are written.
All steps are taken unless they are switched off. The names of settings have two spellings.
-/

set_option autoImplicit false
set_option relaxedAutoImplicit false

namespace Galley

/-- What a dialect is read from. -/
def Markdown.Dialect.schema : Schema Markdown.Dialect where
  title := "struct ParseOptions"
  default := {}
  fields :=
    [.of ["gfm"] Data.asBool fun d gfm => { d with gfm },
      .of ["frontmatter"] Data.asBool fun d frontmatter => { d with frontmatter },
      .of ["code_indented"] Data.asBool fun d codeIndented => { d with codeIndented },
      .of ["raw_html", "rawHtml"] Data.asBool fun d rawHtml => { d with rawHtml },
      .of ["math"] Data.asBool fun d math => { d with math },
      .of ["mdx"] Data.asBool fun d mdx => { d with mdx }]

/-- How posts are rendered. -/
structure Settings where
  /-- Recordings are embedded. -/
  embeds : Bool := true
  /-- Headings get identifiers. -/
  headingIds : Bool := true
  /-- Headings link to themselves, with a class. -/
  headingAnchors : Bool := true
  anchorClass : List Char := "anchor".toList
  /-- Images get their missing attributes, and those of this site a size. -/
  images : Bool := true
  placeholder : Enrich.ImageSize := {}
  /-- Diagrams are handed to the host. -/
  diagrams : Bool := true
  dialect : Markdown.Dialect := {}
deriving DecidableEq, Repr, Inhabited

namespace Settings

/-- Every step is switched off. -/
def plain : Settings where
  embeds := false
  headingIds := false
  headingAnchors := false
  images := false
  diagrams := false

/-- What settings are read from. -/
def schema : Schema Settings where
  title := "struct Options"
  default := {}
  fields :=
    [.of ["enable_embeds", "enableEmbeds"] Data.asBool fun s embeds => { s with embeds },
      .of ["enable_heading_ids", "enableHeadingIds"] Data.asBool
        fun s headingIds => { s with headingIds },
      .of ["enable_heading_anchors", "enableHeadingAnchors"] Data.asBool
        fun s headingAnchors => { s with headingAnchors },
      .of ["anchor_class", "anchorClass"] Data.asText fun s anchorClass => { s with anchorClass },
      .of ["enable_image_handling", "enableImageHandling"] Data.asBool
        fun s images => { s with images },
      .of ["placeholder_width", "placeholderWidth"] Data.asWord
        fun s width => { s with placeholder := { s.placeholder with width } },
      .of ["placeholder_height", "placeholderHeight"] Data.asWord
        fun s height => { s with placeholder := { s.placeholder with height } },
      .of ["enable_diagrams", "enableDiagrams"] Data.asBool fun s diagrams => { s with diagrams },
      .of ["parse"] Markdown.Dialect.schema.read fun s dialect => { s with dialect }]

/-- The passes that the settings switch on. -/
def passes (s : Settings) : List Enrich.Pass :=
  (if s.headingIds then [Enrich.headingIds] else []) ++
    (if s.headingAnchors then [Enrich.headingAnchors s.anchorClass] else []) ++
    (if s.images then [Enrich.images s.placeholder] else []) ++
    (if s.diagrams then [Enrich.diagrams] else [])

end Settings

end Galley
