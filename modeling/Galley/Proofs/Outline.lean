import Galley.Proofs.Enrich.Headings
import Galley.Proofs.Html.Nodes

/-!
The outline of a page and the identifiers of its headings. After identifiers are given and any
passes are run, the outline of a page without raw markup lists its headings with the identifiers
that they carry. Headings in raw markup are not seen where identifiers are given: one of these
before a heading can take its identifier, and this is the only way in which the two can differ.
-/

set_option autoImplicit false
set_option relaxedAutoImplicit false

namespace Galley

open Html Typeset Enrich Markdown

/-! ### Sources -/

/-- No heading lies below another one. -/
def Markdown.Node.HasFlatHeadings (tree : Node) : Prop :=
  ∀ level children, .branch (.heading level) children ∈ tree.all →
    ∀ level' children', .branch (.heading level') children' ∉ Node.allIn children

/-- No raw markup lies below a heading. -/
def Markdown.Node.HasCleanHeadings (tree : Node) : Prop :=
  ∀ level children, .branch (.heading level) children ∈ tree.all →
    ∀ value, .atom (.html value) ∉ Node.allIn children

/-- All texts and values of attributes in the headings of a document are on a single line. -/
def Html.Document.HasSingleLineHeadings (doc : Document) : Prop :=
  ∀ id lower cell, doc.Reachable id → (heading? doc id).isSome = true →
    Relation.ReflTransGen doc.Names id lower → doc.get? lower = some cell → cell.kind.IsSingleLine

/-- If a tree is a heading then all texts and values of attributes in it are on a single line. -/
def Html.Markup.HasSingleLine (tree : Markup) : Prop :=
  (headingMarkup? tree).isSome = true → Markup.All (fun lower ↦ lower.kind.IsSingleLine) [tree]

instance (kind : Kind) : Decidable kind.IsSingleLine :=
  match kind with
  | .element _ attrs => inferInstanceAs (Decidable (∀ entry ∈ attrs.entries, IsSingleLine entry.2))
  | .text value => inferInstanceAs (Decidable (IsSingleLine value))
  | .root => isTrue trivial
  | .raw _ => isTrue trivial

instance (tree : Markup) : Decidable tree.HasSingleLine :=
  inferInstanceAs (Decidable ((headingMarkup? tree).isSome = true → Markup.All _ [tree]))

/-- A heading of the outline in raw markup. -/
def IsRawHeading (markup : List Char) : Prop :=
  ∃ level text, (level = 2 ∨ level = 3) ∧ '<' ∉ text ∧ IsSingleLine text ∧
    markup = rawHeading level text

/-! ### Pages -/

/-- Nodes that are neither a heading nor raw markup. -/
def IsOrdinary (node : Node) : Prop :=
  (∀ level children, node ≠ .branch (.heading level) children) ∧
    ∀ value, node ≠ .atom (.html value)

theorem Typeset.pageKeys_clean : ∀ key ∈ pageKeys, key.name.all isTagChar = true := by decide

theorem Typeset.isPlainEntry_of_hasKeys {attrs : Attributes} (h : attrs.HasKeys pageKeys) :
    attrs.All (IsPlainEntry False) :=
  fun entry hentry ↦ ⟨pageKeys_clean _ (h entry hentry), False.elim⟩

theorem Typeset.isPlain_content {tag : List Char} (htag : tag ∈ contentTags ++ codeTags)
    {attrs : Attributes} (hattrs : attrs.HasKeys pageKeys) (inner : List Markup) :
    IsPlain False (.element tag attrs inner) := by
  have hall : ∀ tag ∈ contentTags ++ codeTags, isPlainTag tag = true ∧ isVoid tag = false := by
    decide
  refine isPlain_element (hall tag htag).1 (isPlainEntry_of_hasKeys hattrs) fun hvoid ↦ ?_
  rw [(hall tag htag).2] at hvoid
  exact absurd hvoid Bool.false_ne_true

theorem Typeset.isPlain_bare {tag : List Char} (htag : tag ∈ bareTags) {attrs : Attributes}
    (hattrs : attrs.HasKeys pageKeys) : IsPlain False (.element tag attrs []) := by
  have hall : ∀ tag ∈ bareTags, isPlainTag tag = true := by decide
  exact isPlain_element (hall tag htag) (isPlainEntry_of_hasKeys hattrs) fun _ ↦ rfl

theorem Typeset.admits_isPlain : Admits IsOrdinary (IsPlain False) where
  text _ := isPlain_text False.elim
  raw value hfits := absurd rfl (hfits.2 value)
  bare _ htag _ hattrs := isPlain_bare htag hattrs
  content _ htag _ hattrs inner _ := isPlain_content (List.mem_append_left _ htag) hattrs inner
  code _ hatom _ ds := all_of_isCode (fun _ ↦ isPlain_text False.elim)
    (fun _ htag _ hattrs inner _ ↦ isPlain_content (List.mem_append_right _ htag) hattrs inner)
    hatom ds
  heading _ _ level children _ hfits _ := absurd rfl (hfits.1 level children)
  paragraph attrs inner inner' h _ := by
    refine isPlain_element (by decide) h.attributes fun hvoid ↦ absurd hvoid (by decide)

/-- A page is settled, with no attributes at its headings. -/
theorem Typeset.admits_isSettled {isRaw : List Char → Prop} :
    Admits (fun node ↦ (∀ value, node = .atom (.html value) → isRaw value) ∧
      ∀ level children, node = .branch (.heading level) children →
        ∀ lower ∈ Node.allIn children, IsOrdinary lower)
      (IsSettled False (· = .empty) isRaw) where
  text _ := .plain (isPlain_text False.elim)
  raw value hfits := .raw (hfits.1 value rfl)
  bare _ htag _ hattrs := .plain (isPlain_bare htag hattrs)
  content _ htag _ hattrs inner _ :=
    .plain (isPlain_content (List.mem_append_left _ htag) hattrs inner)
  code _ hatom _ ds := all_of_isCode (fun _ ↦ .plain (isPlain_text False.elim))
    (fun _ htag _ hattrs inner _ ↦
      .plain (isPlain_content (List.mem_append_right _ htag) hattrs inner)) hatom ds
  heading ds isTight level children calls hfits _ := by
    have hall : ∀ tag ∈ headingTags, (headingLevel? tag).isSome = true := by decide
    exact .heading (hall _ (headingTag_mem level)) rfl
      (admits_isPlain.nodesMarkup ds isTight children calls (hfits.2 level children rfl))
  paragraph attrs inner inner' h _ := .plain <| by
    refine isPlain_element (by decide) (h.isPlain (by decide)).attributes fun hvoid ↦ ?_
    exact absurd hvoid (by decide)

/-! ### Settled documents -/

section Settled

variable {hasForm : Attributes → Prop} {isRaw : List Char → Prop} {trees : List Markup}

/-- What is in a heading is on a single line if all of it is in the document. -/
theorem all_isSettled_of_lines (h : Markup.All (IsSettled False hasForm isRaw) trees)
    (hlines : Markup.All Markup.HasSingleLine trees) :
    Markup.All (IsSettled True hasForm isRaw) trees := by
  intro tree htree
  cases h tree htree with
  | plain hplain => exact .plain hplain
  | raw hraw => exact .raw hraw
  | heading htag hattrs hinner =>
    have hline := Markup.All.singleton.1 (hlines _ htree (by simp [headingMarkup?, htag]))
    exact .heading htag hattrs fun lower hlower ↦
      { hinner lower hlower with single_line := fun _ ↦ hline.2 lower hlower }

/-- Whether headings are on single lines can be seen of the tree of a document. -/
theorem Html.Document.Spans.hasSingleLineHeadings_iff {doc : Document} {area : Multiset NodeId}
    (hspans : doc.Spans [Document.root] trees area) :
    doc.HasSingleLineHeadings ↔ Markup.All Markup.HasSingleLine trees := by
  constructor
  · intro hlines tree htree hheading lower hlower
    obtain ⟨id, hid, below, hid'⟩ := hspans.exists_id htree
    obtain ⟨lowerId, hlowerId, lowerArea, hspans'⟩ := hid'.exists_id hlower
    obtain ⟨top, htop, hway⟩ := hid'.exists_top hlowerId
    obtain rfl : top = id := List.mem_singleton.1 htop
    obtain ⟨kind, children, inner, inside, heq, -, hcell, -⟩ := hspans'.of_singleton
    obtain rfl : lower = .node kind inner := by simpa using heq
    refine hlines top lowerId ⟨kind, children⟩ (hspans.mem_area_iff_reachable.1 hid) ?_ hway hcell
    rw [heading?_eq hid', hheading]
  · intro hlines id lower cell hreach hheading hway hcell
    obtain ⟨tree, htree, below, hid⟩ :=
      hspans.exists_subtree (hspans.mem_area_iff_reachable.2 hreach)
    rw [heading?_eq hid] at hheading
    have hlower := hid.mem_area_of_way (hid.mem_area_of_mem (List.mem_singleton_self id)) hway
    obtain ⟨lowerTree, hlowerTree, lowerArea, hspans'⟩ := hid.exists_subtree hlower
    obtain ⟨inner, inside, heq, -⟩ := hspans'.of_singleton_get? hcell
    obtain rfl : lowerTree = .node cell.kind inner := by simpa using heq
    exact hlines tree htree hheading _ hlowerTree

theorem Typeset.page_hasSingleLineHeadings_iff {tree : Node} :
    (page tree).HasSingleLineHeadings ↔ Markup.All Markup.HasSingleLine (pageMarkup tree) := by
  obtain ⟨area, hspans, -⟩ := page_spans tree
  rw [hspans.hasSingleLineHeadings_iff, Markup.All.singleton]
  exact and_iff_right fun hheading ↦ by simp [headingMarkup?] at hheading

theorem isInline_of_isPlain {tree : Markup} (h : IsPlain True tree) : tree.IsInline :=
  ⟨h.quiet, h.single_line trivial, h.bare⟩

/-- The outline reads settled documents as they are meant. -/
theorem IsSettled.isReadable {tree : Markup} (hraw : ∀ markup, isRaw markup → IsRawHeading markup)
    (h : IsSettled True IsNamed isRaw tree) : tree.IsReadable := by
  cases h with
  | plain hplain => exact .quiet hplain.quiet hplain.bare
  | raw hmarkup =>
    obtain ⟨level, text, hlevel, htext, hline, rfl⟩ := hraw _ hmarkup
    exact .raw hlevel htext hline
  | @heading tag attrs inner htag hattrs hinner =>
    obtain ⟨id, rfl, -⟩ := hattrs
    have hall : ∀ tag ∈ headingTags, (listedLevel? tag).isSome = true ∨ isTagName tag = true ∧
        mayList tag = false ∧ isVoid tag = false := by
      decide
    rcases hall tag (mem_headingTags htag) with hlisted | ⟨hname, hlist, hvoid⟩
    · exact .heading hlisted (hinner.imp fun _ ↦ isInline_of_isPlain)
    · refine .quiet ⟨hname, hlist, fun entry hentry ↦ ?_⟩ fun hleaf ↦ ?_
      · obtain rfl := List.mem_singleton.1 hentry
        have hname : AttributeKey.id.name.all isTagChar = true := by decide
        exact hname
      · rw [Markup.kind, Kind.isLeaf, hvoid] at hleaf
        exact absurd hleaf Bool.false_ne_true

end Settled

/-! ### Outlines -/

/-- Passes after that for identifiers make of a page a document that is settled, whose headings have
distinct identifiers, and whose outline is that of what is listed of it. -/
theorem exists_settled {tree : Node} {isRaw : List Char → Prop}
    (hraw : ∀ value, .atom (.html value) ∈ tree.all → isRaw value)
    (hreadable : ∀ value, isRaw value → IsRawHeading value) (hflat : tree.HasFlatHeadings)
    (hclean : tree.HasCleanHeadings) (hlines : (page tree).HasSingleLineHeadings)
    {builtIns : List BuiltIn} (hclass : ∀ builtIn ∈ builtIns, builtIn.IsSingleLine)
    (diagnostics : Diagnostics) : ∃ doc diagnostics' trees area,
      runPasses ((BuiltIn.headingIds :: builtIns).map BuiltIn.pass) (page tree) diagnostics =
        (.ok doc, diagnostics') ∧
      doc.Spans [Document.root] [.node .root trees] area ∧ area.Nodup ∧
        Markup.All (IsSettled True IsNamed isRaw) trees ∧ (carriedIds trees).Nodup ∧
          doc.listings = Markup.listings trees ∧
            outline doc.write = Listing.entries (Markup.listings trees) := by
  obtain ⟨area, hpage, hnodup⟩ := page_spans tree
  have hfits : ∀ lower ∈ tree.all, (∀ value, lower = .atom (.html value) → isRaw value) ∧
      ∀ level children, lower = .branch (.heading level) children →
        ∀ node ∈ Node.allIn children, IsOrdinary node := by
    refine fun lower hlower ↦ ⟨?_, ?_⟩
    · rintro value rfl
      exact hraw value hlower
    · rintro level children rfl node hnode
      refine ⟨?_, ?_⟩
      · rintro level' children' rfl
        exact hflat level children hlower level' children' hnode
      · rintro value rfl
        exact hclean level children hlower value hnode
  have hdraft := all_isSettled_of_lines (admits_isSettled.pageMarkup hfits)
    (page_hasSingleLineHeadings_iff.1 hlines)
  have hnamed := assignIdMarkup_carries.trees (.empty, diagnostics) _ hdraft
  have hids := nodup_carriedIds diagnostics hdraft
  obtain ⟨doc, new, hrun, hspans, hnew⟩ := BuiltIn.runPasses_eq (.headingIds :: builtIns) hpage
    hnodup diagnostics
  obtain ⟨hsettled, hdistinct⟩ := settled_rewriteAll hclass _ hnamed hids
  refine ⟨doc, _, _, new, hrun, hspans, hnew, hsettled, hdistinct, ?_, ?_⟩
  · rw [hspans.listings_eq hnew, Markup.listings_singleton]
    rfl
  · rw [hspans.write_eq hnew]
    exact outline_writeAll (hsettled.imp fun _ ↦ IsSettled.isReadable hreadable)

/-- Of a list, what one function gives is among what another one gives, if they agree where the
first gives something. -/
theorem filterMap_sublist_filterMap {α β : Type} {f g : α → Option β} {list : List α}
    (h : ∀ a ∈ list, ∀ b, f a = some b → g a = some b) :
    (list.filterMap f).Sublist (list.filterMap g) := by
  induction list with
  | nil => exact .refl _
  | cons a rest ih =>
    have hrest := ih fun a' ha' ↦ h a' (by simp [ha'])
    cases hf : f a with
    | none =>
      rw [List.filterMap_cons_none hf]
      cases hg : g a with
      | none => rwa [List.filterMap_cons_none hg]
      | some b =>
        rw [List.filterMap_cons_some hg]
        exact hrest.cons b
    | some b =>
      rw [List.filterMap_cons_some hf, List.filterMap_cons_some (h a (by simp) b hf)]
      exact hrest.cons_cons b

theorem carriedId?_of_listing? {tree : Markup} {listing : Listing} {id : List Char}
    (hlisting : tree.listing? = some listing) (hid : listing.id = some id) :
    carriedId? tree.kind = some id := by
  obtain ⟨kind, inner⟩ := tree
  cases kind with
  | element tag attrs =>
    obtain ⟨hlevel, hcarried⟩ := listing?_eq_some hlisting
    obtain ⟨level, hlevel⟩ := Option.isSome_iff_exists.1 hlevel
    have hheading : (headingLevel? tag).isSome = true := by
      rcases listedLevel?_eq_some hlevel with ⟨rfl, -⟩ | ⟨rfl, -⟩ <;> rfl
    rw [Markup.kind, carriedId?, if_pos hheading, ← hcarried, hid]
  | raw markup => simp [rawListing?_eq_some hlisting] at hid
  | _ => simp [Markup.listing?, Markup.kind] at hlisting

/-- The identifiers that are listed are among those that headings carry, in the same order. -/
theorem listedIds_sublist (trees : List Markup) :
    ((Markup.listings trees).filterMap (·.id)).Sublist (carriedIds trees) := by
  rw [Markup.listings, List.filterMap_filterMap]
  refine filterMap_sublist_filterMap fun tree _ id hid ↦ ?_
  obtain ⟨listing, hlisting, hid⟩ := Option.bind_eq_some_iff.1 hid
  exact carriedId?_of_listing? hlisting hid

section Listings

variable {isInner : Prop} {isRaw : List Char → Prop} {trees : List Markup}

/-- What is listed of a settled document is raw, or a heading that carries an identifier. -/
theorem id_of_listing? {tree : Markup} {listing : Listing}
    (h : IsSettled isInner IsNamed isRaw tree) (hlisting : tree.listing? = some listing) :
    (∃ markup, isRaw markup) ∧ listing.id = none ∨ ∃ id, listing.id = some id ∧ id ≠ [] := by
  cases h with
  | plain hplain => simp [Markup.listing?_of_isQuiet hplain.quiet] at hlisting
  | @raw markup hraw => exact .inl ⟨⟨markup, hraw⟩, rawListing?_eq_some hlisting⟩
  | heading htag hattrs hinner =>
    obtain ⟨id, rfl, hne, -⟩ := hattrs
    exact .inr ⟨id, (listing?_eq_some hlisting).2, hne⟩

theorem wanted_of_mem_listings (h : Markup.All (IsSettled isInner IsNamed isRaw) trees)
    {listing : Listing} (hmem : listing ∈ Markup.listings trees) {id : List Char}
    (hid : listing.id = some id) : listing.wanted = id := by
  obtain ⟨tree, htree, hlisting⟩ := List.mem_filterMap.1 hmem
  rcases id_of_listing? (h tree htree) hlisting with ⟨-, hnone⟩ | ⟨id', hid', hne⟩
  · simp [hnone] at hid
  · obtain rfl : id' = id := by simpa [hid'] using hid
    exact Listing.wanted_of_id hid' hne

/-- Without raw markup, all that is listed carries the identifier that it asks for. -/
theorem id_eq_wanted (h : Markup.All (IsSettled isInner IsNamed fun _ ↦ False) trees)
    {listing : Listing} (hmem : listing ∈ Markup.listings trees) :
    listing.id = some listing.wanted := by
  obtain ⟨tree, htree, hlisting⟩ := List.mem_filterMap.1 hmem
  rcases id_of_listing? (h tree htree) hlisting with ⟨⟨_, hfalse⟩, -⟩ | ⟨id, hid, hne⟩
  · exact hfalse.elim
  · rw [hid, Listing.wanted_of_id hid hne]

/-- Without raw markup, the outline lists headings with the identifiers that they carry. -/
theorem map_entries (h : Markup.All (IsSettled isInner IsNamed fun _ ↦ False) trees)
    (hnodup : (carriedIds trees).Nodup) :
    (Listing.entries (Markup.listings trees)).map Heading.listing = Markup.listings trees := by
  have hids : ∀ listing ∈ Markup.listings trees, listing.id = some listing.wanted :=
    fun _ ↦ id_eq_wanted h
  refine Listing.map_entriesFrom hids ?_ fun _ _ ↦ List.not_mem_nil
  have hlisted := hnodup.sublist (listedIds_sublist trees)
  rwa [List.filterMap_congr hids, List.filterMap_eq_map'] at hlisted

/-- Without raw markup, all that is listed are elements. -/
theorem elementListing?_eq_listing? {tree : Markup}
    (h : IsSettled isInner IsNamed (fun _ ↦ False) tree) :
    tree.elementListing? = tree.listing? := by
  obtain ⟨kind, inner⟩ := tree
  cases kind with
  | raw markup =>
    cases h with
    | plain hplain => exact hplain.quiet.elim
    | raw hraw => exact hraw.elim
  | _ => rfl

end Listings

theorem isSingleLine_of_forall {builtIns : List BuiltIn}
    (hclass : ∀ className, .headingAnchors className ∈ builtIns → IsSingleLine className) :
    ∀ builtIn ∈ builtIns, builtIn.IsSingleLine := by
  intro builtIn hmem
  cases builtIn with
  | headingAnchors className => exact hclass className hmem
  | _ => trivial

/-- After identifiers are given and any passes are run, the outline of a page without raw markup
lists its headings of the second and third level that are not blank, in their order, each with the
identifier that it carries, its text without the blanks around it and its level. -/
theorem outline_lists_headings (tree : Node) (hraw : ∀ value, .atom (.html value) ∉ tree.all)
    (hflat : tree.HasFlatHeadings) (hlines : (page tree).HasSingleLineHeadings)
    (builtIns : List BuiltIn)
    (hclass : ∀ className, .headingAnchors className ∈ builtIns → IsSingleLine className)
    (diagnostics : Diagnostics) : ∃ doc diagnostics',
      runPasses ((BuiltIn.headingIds :: builtIns).map BuiltIn.pass) (page tree) diagnostics =
        (.ok doc, diagnostics') ∧
      (doc.nodes.Nodup ∧ ∀ id, id ∈ doc.nodes ↔ doc.Reachable id) ∧
        (outline doc.write).map Heading.listing = doc.nodes.filterMap doc.elementListing? := by
  have hclean : tree.HasCleanHeadings := fun level children hheading value hvalue ↦
    hraw value (Node.all_subset_of_mem_all tree hheading (by simp [Node.all, hvalue]))
  obtain ⟨doc, diagnostics', trees, area, hrun, hspans, hnodup, hsettled, hids, -, houtline⟩ :=
    exists_settled (fun value hvalue ↦ hraw value hvalue) (fun _ ↦ False.elim) hflat hclean hlines
      (isSingleLine_of_forall hclass) diagnostics
  refine ⟨doc, diagnostics', hrun, ⟨hspans.nodup_nodes hnodup,
    fun _ ↦ hspans.mem_nodes_iff hnodup⟩, ?_⟩
  have helements := List.filterMap_congr fun tree htree ↦
    elementListing?_eq_listing? (hsettled tree htree)
  rw [houtline, map_entries hsettled hids, hspans.filterMap_elementListing? hnodup, Markup.listings,
    ← helements, Markup.subtreesAll, Markup.subtrees, Markup.subtreesAll, List.append_nil,
    List.filterMap_cons_none rfl]

/-- Two headings with the same text and one that is a link already. -/
theorem outline_lists_headings_of_setup :
    ∃ doc diagnostics', runPasses ([.headingIds, .headingAnchors "anchor".toList].map BuiltIn.pass)
        (page (.branch .root [.branch (.heading 2) [.text "Setup".toList],
          .branch (.heading 3) [.branch (.link "/a".toList none) [.text "Setup".toList]]])) {} =
        (.ok doc, diagnostics') ∧
      (doc.nodes.Nodup ∧ ∀ id, id ∈ doc.nodes ↔ doc.Reachable id) ∧
        (outline doc.write).map Heading.listing = doc.nodes.filterMap doc.elementListing? := by
  refine outline_lists_headings _ ?_ ?_ ?_ [.headingAnchors "anchor".toList] ?_ {}
  · simp [Node.all, Node.allIn]
  · intro level children hmem level' children'
    have hcases : level = 2 ∧ children = [.text "Setup".toList] ∨
        level = 3 ∧ children = [.branch (.link "/a".toList none) [.text "Setup".toList]] := by
      simpa [Node.all, Node.allIn] using hmem
    obtain ⟨-, rfl⟩ | ⟨-, rfl⟩ := hcases
    · simp [Node.all, Node.allIn]
    · simp [Node.all, Node.allIn]
  · exact page_hasSingleLineHeadings_iff.2 (by decide +kernel)
  · intro className hmem
    obtain rfl : className = "anchor".toList := by simpa using hmem
    decide

/-- After identifiers are given and any passes are run, the outline of a page whose raw markup are
headings has one entry for each heading, in their order. The entry of a heading that carries an
identifier has this one if and only if no entry before it has, and all of them have it unless a
heading in raw markup has taken the identifier of a later one. -/
theorem outline_agrees_iff (tree : Node)
    (hraw : ∀ value, .atom (.html value) ∈ tree.all → IsRawHeading value)
    (hflat : tree.HasFlatHeadings) (hclean : tree.HasCleanHeadings)
    (hlines : (page tree).HasSingleLineHeadings) (builtIns : List BuiltIn)
    (hclass : ∀ className, .headingAnchors className ∈ builtIns → IsSingleLine className)
    (diagnostics : Diagnostics) : ∃ doc diagnostics',
      runPasses ((BuiltIn.headingIds :: builtIns).map BuiltIn.pass) (page tree) diagnostics =
        (.ok doc, diagnostics') ∧
      (outline doc.write).length = doc.listings.length ∧
        (∀ (i : Nat) (listing : Listing), doc.listings[i]? = some listing → ∃ entry,
          (outline doc.write)[i]? = some entry ∧ entry.text = listing.text ∧
            entry.level = listing.level ∧ ∀ id, listing.id = some id →
              (entry.id = id ↔ ∀ j < i, ∀ earlier, (outline doc.write)[j]? = some earlier →
                earlier.id ≠ id)) ∧
        (Listing.Agrees doc.listings (outline doc.write) ↔
          ¬ Listing.Clashes doc.listings (outline doc.write)) := by
  obtain ⟨doc, diagnostics', trees, area, hrun, -, -, hsettled, hids, hlistings, houtline⟩ :=
    exists_settled hraw (fun _ ↦ id) hflat hclean hlines (isSingleLine_of_forall hclass) diagnostics
  rw [← hlistings] at houtline
  have hwanted : ∀ listing ∈ doc.listings, ∀ id, listing.id = some id → listing.wanted = id := by
    rw [hlistings]
    exact fun listing hmem id ↦ wanted_of_mem_listings hsettled hmem
  have hnodup : (doc.listings.filterMap (·.id)).Nodup :=
    hlistings ▸ hids.sublist (listedIds_sublist trees)
  refine ⟨doc, diagnostics', hrun, ?_, fun i listing hlisting ↦ ?_, ?_⟩
  · rw [houtline, Listing.length_entries]
  · obtain ⟨entry, hentry, htext, hlevel, hname⟩ := Listing.getElem?_entries hlisting
    refine ⟨entry, houtline ▸ hentry, htext, hlevel, fun id hid ↦ ?_⟩
    rwa [houtline, ← hwanted listing (List.mem_of_getElem? hlisting) id hid]
  · rw [houtline]
    exact Listing.agrees_iff hwanted hnodup

/-- A heading in raw markup before one with the same text. -/
theorem outline_agrees_iff_of_raw_setup : ∃ doc diagnostics',
      runPasses ([.headingIds].map BuiltIn.pass) (page (.branch .root
        [.atom (.html "<h2>Setup</h2>".toList), .branch (.heading 2) [.text "Setup".toList]])) {} =
        (.ok doc, diagnostics') ∧
      (outline doc.write).length = doc.listings.length ∧
        (∀ (i : Nat) (listing : Listing), doc.listings[i]? = some listing → ∃ entry,
          (outline doc.write)[i]? = some entry ∧ entry.text = listing.text ∧
            entry.level = listing.level ∧ ∀ id, listing.id = some id →
              (entry.id = id ↔ ∀ j < i, ∀ earlier, (outline doc.write)[j]? = some earlier →
                earlier.id ≠ id)) ∧
        (Listing.Agrees doc.listings (outline doc.write) ↔
          ¬ Listing.Clashes doc.listings (outline doc.write)) := by
  refine outline_agrees_iff _ ?_ ?_ ?_ ?_ [] (by simp) {}
  · intro value hmem
    have hvalue : value = "<h2>Setup</h2>".toList := by simpa [Node.all, Node.allIn] using hmem
    exact ⟨2, "Setup".toList, .inl rfl, by decide, by decide, hvalue⟩
  · intro level children hmem level' children'
    obtain ⟨-, rfl⟩ : level = 2 ∧ children = [.text "Setup".toList] := by
      simpa [Node.all, Node.allIn] using hmem
    simp [Node.all, Node.allIn]
  · intro level children hmem value
    obtain ⟨-, rfl⟩ : level = 2 ∧ children = [.text "Setup".toList] := by
      simpa [Node.all, Node.allIn] using hmem
    simp [Node.all, Node.allIn]
  · exact page_hasSingleLineHeadings_iff.2 (by decide +kernel)

/-- A heading in raw markup takes the identifier of a later heading with the same text, which is
then listed with one that nothing carries. -/
theorem raw_setup_takes_identifier :
    (runPasses [BuiltIn.headingIds.pass] (page (.branch .root
        [.atom (.html "<h2>Setup</h2>".toList), .branch (.heading 2) [.text "Setup".toList]])) {}
          ).1.toOption.map (fun doc ↦ (doc.listings, outline doc.write)) =
      some ([⟨none, "Setup".toList, 2⟩, ⟨some "setup".toList, "Setup".toList, 2⟩],
        [⟨"setup".toList, "Setup".toList, 2⟩, ⟨"setup-2".toList, "Setup".toList, 2⟩]) := by
  decide +kernel

end Galley
