import Galley.Pipeline
import Galley.Site.Posts
import Galley.Site.Workers
import Galley.Proofs.Html.Markup
import Galley.Proofs.Html.Span
import Galley.Proofs.Html.TreeShape
import Galley.Proofs.Html.Change
import Galley.Proofs.Typeset.Markup
import Galley.Proofs.Typeset.Draft
import Galley.Proofs.Typeset.Page
import Galley.Proofs.Enrich.Rewrite
import Galley.Proofs.Enrich.Passes
import Galley.Proofs.Markdown.Node
import Galley.Proofs.Html.Attributes
import Galley.Proofs.Typeset.Parts
import Galley.Proofs.Enrich.Shape
import Galley.Proofs.Embed.Reports
import Galley.Proofs.Pipeline
import Galley.Proofs.Html.Token
import Galley.Proofs.Html.Outline
import Galley.Proofs.Html.Nodes
import Galley.Proofs.Enrich.Headings
import Galley.Proofs.Outline
import Galley.Proofs.Html.Gather
import Galley.Proofs.Html.Query
import Galley.Proofs.Html.Blocks
import Galley.Proofs.Typeset.Shown
import Galley.Proofs.Typeset.Tables
import Galley.Proofs.Embed.Expansion
import Galley.Proofs.Enrich.Code
import Galley.Proofs.Code
import Galley.Proofs.Site.Files
import Galley.Proofs.Site.Posts
import Galley.Proofs.Typeset.Calls
import Galley.Proofs.Typeset.Notes
import Galley.Proofs.Typeset.PageNotes
import Galley.Proofs.Footnotes
import Galley.Proofs.FootnoteAddresses
import Galley.Proofs.Text.Words
import Galley.Proofs.Site.Paths
import Galley.Proofs.Site.Addresses
import Galley.Proofs.Site.Batch
import Galley.Proofs.Embed.Shortcodes
import Galley.Proofs.Embed.Replacement
import Galley.Proofs.Embed.Repetition
import Galley.Proofs.Embed.Accounts
import Galley.Html.Edit
import Galley.Proofs.Html.Edit
import Galley.Proofs.Typeset.Leaves
import Galley.Proofs.Typeset.Items
import Galley.Proofs.Typeset.Unlinked
import Galley.Proofs.Typeset.Lists
import Galley.Proofs.Html.StartTag
import Galley.Proofs.Embed.Markers
import Galley.Proofs.Embed.Splitting
import Galley.Proofs.Typeset.Joining
import Galley.Proofs.Text.Lines
import Galley.Proofs.Embed.Options
import Galley.Proofs.Enrich.Order
import Galley.Proofs.Order
import Galley.Proofs.Enrich.Visits
import Galley.Proofs.Enrich.Identifiers
import Galley.Proofs.Html.Links
import Galley.Proofs.Enrich.SelfLinks
import Galley.Proofs.SelfLinks
import Galley.Html.OutlineScan
import Galley.Proofs.Html.OutlineScan
import Galley.Proofs.Enrich.Images
import Galley.Proofs.Html.Acyclic
import Galley.Proofs.Enrich.Outermost
import Galley.Proofs.Enrich.HeadingVisits
import Galley.Proofs.Enrich.DamagedHeadings
import Galley.Slug.Search
import Galley.Proofs.Slugger
import Galley.Proofs.Text.References
import Galley.Proofs.Html.OutlineTexts
import Galley.Proofs.Data.Schema
import Galley.Proofs.Metadata.FrontMatter
import Galley.Metadata.FenceScan
import Galley.Proofs.Metadata.Fence
import Galley.Proofs.Metadata.FenceScan
import Galley.Proofs.Text.Casing
import Galley.Proofs.SlugWords
import Galley.Site.Drafts
import Galley.Proofs.Site.Saving
import Galley.Proofs.Site.Drafts
import Galley.Site.Access
import Galley.Proofs.Site.Confinement
import Galley.Proofs.Text.Ascii
import Galley.Proofs.ReadingTime.Replace
import Galley.Proofs.ReadingTime.Lines
import Galley.Proofs.ReadingTime.Stripping
import Galley.Proofs.ReadingTime.Markers
import Galley.Proofs.ReadingTime.Deletion
import Galley.Proofs.Notice
import Galley.Html.AttributeHistory
import Galley.Proofs.Html.AttributeHistory
