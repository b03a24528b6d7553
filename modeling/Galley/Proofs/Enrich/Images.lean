import Galley.Proofs.Enrich.Visits
import Galley.Proofs.Html.TreeShape

/-!
Images of a document. The pass for images changes nothing but the attributes of images, and what
becomes of an image depends on its own attributes only (`images_apply`): it is loaded from elsewhere
when it is needed, or left to the host, or replaced by a drawing if it has no address
(`IsAdjusted`). The warnings are those about the single images, in the order in which they are
written.
-/

set_option autoImplicit false
set_option relaxedAutoImplicit false

namespace Galley.Enrich

open Html

/-! ### One image -/

/-- An address leads to another host. -/
def LeadsElsewhere (address : List Char) : Prop :=
  "http://".toList <+: address ∨ "https://".toList <+: address ∨ "//".toList <+: address

/-- What the attributes of an image become. An image without an address, or with a blank one, shows
that it is missing. One from elsewhere keeps its address and is loaded when it is needed. Any other
image leaves its address to the host, which needs a size for it. The attributes that are not named
keep their values and their order. -/
inductive IsAdjusted (size : ImageSize) (before after : Attributes) : Prop where
  | missing (blank : ∀ address, before.get? .src = some address → Text.isBlankText address = true)
      (src : after.get? .src = some missingImage)
      (alt : after.get? .alt = some "Missing image".toList)
      (error : after.get? (.data .error) = some "missing-src".toList)
      (others : after.without [.src, .alt, .data .error] =
        before.without [.src, .alt, .data .error])
  | elsewhere (address : List Char) (given : before.get? .src = some address)
      (filled : Text.isBlankText address = false) (leads : LeadsElsewhere address)
      (src : after.get? .src = some address)
      (alt : after.get? .alt = some ((before.get? .alt).getD []))
      (loading : after.get? .loading = some "lazy".toList)
      (cloudinary : after.get? (.data .cloudinary) =
        if "cloudinary.com".toList <:+: address then some "true".toList
        else before.get? (.data .cloudinary))
      (others : after.without [.alt, .loading, .data .cloudinary] =
        before.without [.alt, .loading, .data .cloudinary])
  | deferred (address : List Char) (given : before.get? .src = some address)
      (filled : Text.isBlankText address = false) (stays : ¬ LeadsElsewhere address)
      (src : after.get? .src = none)
      (alt : after.get? .alt = some ((before.get? .alt).getD []))
      (dataSrc : after.get? (.data .src) = some address)
      (nextImage : after.get? (.data .nextImage) = some "true".toList)
      (loading : after.get? .loading = some "lazy".toList)
      (width : after.get? .width = some (Nat.toDigits 10 size.width))
      (height : after.get? .height = some (Nat.toDigits 10 size.height))
      (others : after.without
          [.src, .alt, .data .src, .data .nextImage, .loading, .width, .height] =
        before.without [.src, .alt, .data .src, .data .nextImage, .loading, .width, .height])

/-- What is reported of an image: that it has no address, or else that it has no text. -/
def imageWarning? (attrs : Attributes) : Option Warning :=
  match (attrs.get? .src).filter (!Text.isBlankText ·), attrs.get? .alt with
  | none, _ => some .missingImageSource
  | some address, none | some address, some [] => some (.missingAltText address)
  | some _, some (_ :: _) => none

/-- The attributes that the pass gives an image. -/
def adjustedAttributes (size : ImageSize) (attrs : Attributes) : Attributes :=
  match imageAddress? attrs with
  | none => missingAttributes attrs
  | some address => sourceAttributes size address (attrs.set .alt ((attrs.get? .alt).getD []))

section Attributes

variable {size : ImageSize} {attrs : Attributes} {address : List Char}

theorem isExternal_iff : isExternal address = true ↔ LeadsElsewhere address := by
  simp [isExternal, LeadsElsewhere, or_assoc]

theorem occursIn_iff {part text : List Char} : occursIn part text = true ↔ part <:+: text := by
  induction text with
  | nil => simp [occursIn]
  | cons c rest ih =>
    rw [occursIn, Bool.or_eq_true, List.isPrefixOf_iff_prefix, ih, List.infix_cons_iff]

theorem imageSource_spec (address : List Char) :
    match imageSource address with
    | .localPath => ¬ LeadsElsewhere address
    | .external => LeadsElsewhere address ∧ ¬ "cloudinary.com".toList <:+: address
    | .cloudinary => LeadsElsewhere address ∧ "cloudinary.com".toList <:+: address := by
  rw [← isExternal_iff, ← occursIn_iff, imageSource]
  split_ifs with hexternal hhost
  · exact ⟨hexternal, hhost⟩
  · exact ⟨hexternal, hhost⟩
  · exact hexternal

theorem imageAddress?_eq_some : imageAddress? attrs = some address ↔
    attrs.get? .src = some address ∧ Text.isBlankText address = false := by
  simp [imageAddress?, Option.filter_eq_some_iff]

theorem missingAttributes_isAdjusted
    (hblank : ∀ address, attrs.get? .src = some address → Text.isBlankText address = true) :
    IsAdjusted size attrs (missingAttributes attrs) := by
  refine .missing hblank ?_ ?_ (Attributes.get?_set_self ..) ?_
  · simp only [missingAttributes, Attributes.get?_set_of_ne, Attributes.get?_set_self, ne_eq,
      reduceCtorEq, not_false_eq_true]
  · simp only [missingAttributes, Attributes.get?_set_of_ne, Attributes.get?_set_self, ne_eq,
      reduceCtorEq, not_false_eq_true]
  · simp only [missingAttributes, Attributes.without_set, List.mem_cons, reduceCtorEq, true_or,
      or_true]

theorem sourceAttributes_isAdjusted (h : attrs.HasDistinctKeys)
    (hgiven : attrs.get? .src = some address) (hfilled : Text.isBlankText address = false) :
    IsAdjusted size attrs
      (sourceAttributes size address (attrs.set .alt ((attrs.get? .alt).getD []))) := by
  have hspec := imageSource_spec address
  cases hsource : imageSource address with
  | localPath =>
    rw [hsource] at hspec
    have hgone : ((attrs.set .alt ((attrs.get? .alt).getD [])).erase .src).get? .src = none :=
      (h.set _ _).get?_erase_self .src
    refine .deferred address hgiven hfilled hspec ?_ ?_ ?_ ?_ ?_ ?_ ?_ ?_
    all_goals
      simp only [sourceAttributes, hsource, Attributes.get?_set_of_ne, Attributes.get?_set_self,
        Attributes.get?_erase_of_ne, Attributes.without_set, Attributes.without_erase, hgone,
        ne_eq, reduceCtorEq, not_false_eq_true, AttributeKey.data.injEq, List.mem_cons, true_or,
        or_true]
  | external =>
    rw [hsource] at hspec
    refine .elsewhere address hgiven hfilled hspec.1 ?_ ?_ ?_ ?_ ?_
    all_goals
      simp only [sourceAttributes, hsource, Attributes.get?_set_of_ne, Attributes.get?_set_self,
        Attributes.without_set, hgiven, if_neg hspec.2, ne_eq, reduceCtorEq, not_false_eq_true,
        List.mem_cons, true_or, or_true]
  | cloudinary =>
    rw [hsource] at hspec
    refine .elsewhere address hgiven hfilled hspec.1 ?_ ?_ ?_ ?_ ?_
    all_goals
      simp only [sourceAttributes, hsource, Attributes.get?_set_of_ne, Attributes.get?_set_self,
        Attributes.without_set, hgiven, if_pos hspec.2, ne_eq, reduceCtorEq, not_false_eq_true,
        List.mem_cons, true_or, or_true]

/-- The pass does to an image what it should. -/
theorem isAdjusted (size : ImageSize) (h : attrs.HasDistinctKeys) :
    IsAdjusted size attrs (adjustedAttributes size attrs) := by
  unfold adjustedAttributes
  cases haddress : imageAddress? attrs with
  | none =>
    have hblank : ∀ address, attrs.get? .src = some address → Text.isBlankText address = true := by
      simpa [imageAddress?, Option.filter_eq_none_iff] using haddress
    exact missingAttributes_isAdjusted hblank
  | some address =>
    obtain ⟨hgiven, hfilled⟩ := imageAddress?_eq_some.1 haddress
    exact sourceAttributes_isAdjusted h hgiven hfilled

/-- One image is reported at most once. -/
theorem imageWarning?_eq (attrs : Attributes) : imageWarning? attrs =
    match imageAddress? attrs with
    | none => some .missingImageSource
    | some address =>
      if ((attrs.get? .alt).getD []).isEmpty then some (.missingAltText address) else none := by
  unfold imageWarning? imageAddress?
  cases (attrs.get? .src).filter (!Text.isBlankText ·) with
  | none => rfl
  | some address => rcases attrs.get? .alt with _ | _ | ⟨c, rest⟩ <;> rfl

end Attributes

/-! ### One visit -/

section Visit

variable {size : ImageSize} {p : Progress Unit} {id : NodeId} {attrs : Attributes}
  {children : List NodeId}

theorem exists_image {doc : Document} (h : doc.isOfKind isImageKind id = true) :
    ∃ attrs children, doc.get? id = some ⟨.element "img".toList attrs, children⟩ := by
  obtain ⟨⟨kind, children⟩, hcell, hkind⟩ := Document.exists_of_isOfKind h
  cases kind with
  | element tag attrs =>
    obtain rfl : tag = "img".toList := beq_iff_eq.1 hkind
    exact ⟨attrs, children, hcell⟩
  | _ => cases hkind

theorem isImage_of_get? {doc : Document}
    (hcell : doc.get? id = some ⟨.element "img".toList attrs, children⟩) :
    doc.isOfKind isImageKind id = true :=
  (Document.isOfKind_of_get? hcell).trans (beq_self_eq_true _)

/-- A visit of an image changes its attributes, and reports it. -/
theorem adjustImage_eq (size : ImageSize)
    (hcell : p.doc.get? id = some ⟨.element "img".toList attrs, children⟩) :
    adjustImage size p id = ({ p with
      doc := p.doc.setAttributes id (adjustedAttributes size attrs)
      diagnostics.warnings := p.diagnostics.warnings ++ (imageWarning? attrs).toList },
        .ok .skip) := by
  have helement : p.doc.element? id = some ("img".toList, attrs) := by
    rw [Document.element?, hcell]
  simp only [adjustImage, helement, ↓reduceIte, adjustedAttributes, imageWarning?_eq]
  cases imageAddress? attrs with
  | none => rfl
  | some address =>
    dsimp only
    split_ifs
    · rfl
    · rw [Option.toList_none, List.append_nil]

theorem adjustImage_of_notImage (size : ImageSize)
    (h : p.doc.isOfKind isImageKind id = false) : adjustImage size p id = (p, .ok .descend) := by
  rw [adjustImage]
  cases hcell : p.doc.get? id with
  | none => rw [Document.element?, hcell]
  | some cell =>
    rw [Document.isOfKind_of_get? hcell] at h
    obtain ⟨kind, children⟩ := cell
    cases kind with
    | element tag attrs =>
      have htag : tag ≠ "img".toList := by simpa [isImageKind] using h
      simp only [Document.element?, hcell, if_neg htag]
    | _ => simp only [Document.element?, hcell]

theorem adjustImage_staysAt (size : ImageSize) : StaysAt (adjustImage size) isImageKind where
  descend _ _ h := adjustImage_of_notImage size h
  skip p id h outcome houtcome := by
    obtain ⟨attrs, children, hcell⟩ := exists_image h
    rw [adjustImage_eq size hcell] at houtcome
    cases houtcome
    rfl
  kept p id h other _ hne := by
    obtain ⟨attrs, children, hcell⟩ := exists_image h
    rw [adjustImage_eq size hcell]
    exact Document.get?_setAttributes_of_ne hne _
  stays p id h := by
    obtain ⟨attrs, children, hcell⟩ := exists_image h
    rw [adjustImage_eq size hcell]
    exact isImage_of_get? (Document.get?_setAttributes_self hcell _)

end Visit

/-! ### All visits -/

/-- What is reported of a node that is an image. -/
def imageReport? (doc : Document) (id : NodeId) : Option Warning :=
  (doc.element? id).bind fun (_, attrs) => imageWarning? attrs

/-- Images were adjusted one after the other, and nothing else changed. -/
structure Adjusted (size : ImageSize) (ids : List NodeId) (p p' : Progress Unit) : Prop where
  same_size : p'.doc.size = p.doc.size
  kept : ∀ id, id ∉ ids → p'.doc.get? id = p.doc.get? id
  adjusted : ∀ id ∈ ids, ∀ attrs children,
    p.doc.get? id = some ⟨.element "img".toList attrs, children⟩ →
      p'.doc.get? id = some ⟨.element "img".toList (adjustedAttributes size attrs), children⟩
  diagnostics : p'.diagnostics = { p.diagnostics with
    warnings := p.diagnostics.warnings ++ ids.filterMap (imageReport? p.doc) }

/-- Visits of distinct images adjust them. -/
theorem Adjusted.foldl {size : ImageSize} (name : List Char) {ids : List NodeId}
    (hnodup : ids.Nodup) : ∀ p : Progress Unit,
      (∀ id ∈ ids, p.doc.isOfKind isImageKind id = true) →
        Adjusted size ids p (ids.foldl (visited name (adjustImage size)) p) := by
  induction ids with
  | nil => exact fun p _ ↦ ⟨rfl, fun _ _ ↦ rfl, nofun, by simp⟩
  | cons id rest ih =>
    intro p himages
    obtain ⟨hid, hrest⟩ := List.nodup_cons.1 hnodup
    rw [List.forall_mem_cons] at himages
    obtain ⟨attrs, children, hcell⟩ := exists_image himages.1
    have hkept {other : NodeId} (hne : other ≠ id) (attrs : Attributes) :
        (p.doc.setAttributes id attrs).get? other = p.doc.get? other :=
      Document.get?_setAttributes_of_ne hne attrs
    have hothers : ∀ other ∈ rest, other ≠ id := fun other hother ↦ ne_of_mem_of_not_mem hother hid
    rw [List.foldl_cons, visited, adjustImage_eq size hcell]
    dsimp only
    have hafter := ih hrest { p with
        doc := p.doc.setAttributes id (adjustedAttributes size attrs)
        diagnostics.warnings := p.diagnostics.warnings ++ (imageWarning? attrs).toList }
      fun other hother ↦ (isOfKind_congr (hkept (hothers other hother) _)).trans
        (himages.2 other hother)
    refine ⟨?_, fun other hother ↦ ?_, List.forall_mem_cons.2 ⟨?_, ?_⟩, ?_⟩
    · exact hafter.same_size.trans (Document.size_setAttributes _ _ _)
    · rw [List.mem_cons, not_or] at hother
      exact (hafter.kept other hother.2).trans (hkept hother.1 _)
    · intro attrs' children' hcell'
      obtain ⟨rfl, rfl⟩ : attrs = attrs' ∧ children = children' := by
        simpa using hcell.symm.trans hcell'
      exact (hafter.kept id hid).trans (Document.get?_setAttributes_self hcell _)
    · intro other hother attrs' children' hcell'
      exact hafter.adjusted other hother attrs' children'
        ((hkept (hothers other hother) _).trans hcell')
    · have hreport : imageReport? p.doc id = imageWarning? attrs := by
        rw [imageReport?, Document.element?, hcell, Option.bind_some]
      have hreports : rest.filterMap (imageReport? (p.doc.setAttributes id
          (adjustedAttributes size attrs))) = rest.filterMap (imageReport? p.doc) :=
        List.filterMap_congr fun other hother ↦ by
          rw [imageReport?, imageReport?, Document.element?, Document.element?,
            hkept (hothers other hother)]
      rw [hafter.diagnostics, hreports, List.append_assoc, List.filterMap_cons, hreport]
      cases imageWarning? attrs <;> rfl

/-! ### The pass -/

/-- The images of a document, in the order in which they are written. -/
def imageNodes (doc : Document) : List NodeId := doc.nodes.filter (doc.isOfKind isImageKind)

/-- The images that can be reached are adjusted, and nothing else changes. -/
structure AreAdjusted (size : ImageSize) (before after : Document) : Prop where
  same_size : after.size = before.size
  kept : ∀ id, ¬ (before.Reachable id ∧ before.isOfKind isImageKind id = true) →
    after.get? id = before.get? id
  adjusted : ∀ id attrs children, before.Reachable id →
    before.get? id = some ⟨.element "img".toList attrs, children⟩ →
      ∃ attrs', after.get? id = some ⟨.element "img".toList attrs', children⟩ ∧
        IsAdjusted size attrs attrs'

/-- The pass for images succeeds on every document of the shape of a tree whose images have nothing
below them. It adjusts all of them and changes nothing else, and it reports those without an address
and those without a text, in the order in which they are written. -/
theorem images_apply {doc : Document} (hshape : doc.HasTreeShape)
    (hroot : doc.isOfKind isImageKind Document.root = false)
    (himages : ∀ id attrs children, doc.Reachable id →
      doc.get? id = some ⟨.element "img".toList attrs, children⟩ →
        children = [] ∧ attrs.HasDistinctKeys) (size : ImageSize) (d : Diagnostics) : ∃ doc',
      (images size).apply doc d = (.ok doc',
          { d with warnings := d.warnings ++ (imageNodes doc).filterMap (imageReport? doc) }) ∧
        AreAdjusted size doc doc' := by
  obtain ⟨tree, area, hspans, hnodup⟩ := Document.hasTreeShape_iff.1 hshape
  have hflat : doc.IsFlat isImageKind := by
    intro id lower hid hkind hway
    obtain ⟨attrs, children, hcell⟩ := exists_image hkind
    obtain ⟨rfl, -⟩ := himages id attrs children hid hcell
    obtain ⟨child, hchild, -⟩ := Relation.TransGen.head'_iff.1 hway
    simp [Document.Names, Document.children_of_get? hcell] at hchild
  have hmem (id : NodeId) :
      id ∈ imageNodes doc ↔ doc.Reachable id ∧ doc.isOfKind isImageKind id = true := by
    rw [imageNodes, List.mem_filter, hspans.mem_nodes_iff hnodup]
  have hwalk := (adjustImage_staysAt size).walk_nodes "images".toList hspans hnodup hroot hflat () d
  have hadjusted := @Adjusted.foldl size "images".toList _
    ((hspans.nodup_nodes hnodup).filter _) ⟨(), doc, d⟩ fun id hid ↦ ((hmem id).1 hid).2
  rw [← imageNodes] at hwalk hadjusted
  refine ⟨_, ?_, hadjusted.same_size, fun id hid ↦ ?_, fun id attrs children hid hcell ↦ ?_⟩
  · rw [← hadjusted.diagnostics]
    exact hwalk
  · exact hadjusted.kept id fun hnode ↦ hid ((hmem id).1 hnode)
  · have hnode := (hmem id).2 ⟨hid, isImage_of_get? hcell⟩
    exact ⟨_, hadjusted.adjusted id hnode attrs children hcell,
      isAdjusted size (himages id attrs children hid hcell).2⟩

/-- Two images in a paragraph, one from elsewhere without a text and a local one with a size of its
own, and after it one whose address is blank. -/
def gallery : Document where
  cells := #[⟨.root, [1, 4]⟩,
    ⟨.element "p".toList .empty, [2, 3]⟩,
    ⟨.element "img".toList ⟨[(.loading, "eager".toList), (.className, "wide".toList),
      (.src, "https://res.cloudinary.com/a.png".toList)]⟩, []⟩,
    ⟨.element "img".toList ⟨[(.width, "10".toList), (.src, "a.png".toList), (.title, "A".toList),
      (.alt, "a".toList)]⟩, []⟩,
    ⟨.element "img".toList ⟨[(.src, " ".toList), (.alt, "b".toList)]⟩, []⟩]

theorem gallery_hasTreeShape : gallery.HasTreeShape := by
  have hspans : ∃ trees area, gallery.Spans [Document.root] trees area ∧ area.Nodup :=
    ⟨_, _, .cons rfl (.cons rfl (.cons rfl .nil (.cons rfl .nil .nil)) (.cons rfl .nil .nil)) .nil,
      by decide⟩
  obtain ⟨trees, area, hspans, hnodup⟩ := hspans
  exact .of_spans hspans hnodup

theorem gallery_images : ∀ id attrs children,
    gallery.get? id = some ⟨.element "img".toList attrs, children⟩ →
      children = [] ∧ attrs.HasDistinctKeys := by
  have hall : ∀ id < gallery.size, gallery.isOfKind isImageKind id = true →
      gallery.children id = [] ∧ ∀ element ∈ gallery.element? id, element.2.HasDistinctKeys := by
    decide
  intro id attrs children hcell
  have himage := hall id (Document.lt_size_of_get? hcell) (isImage_of_get? hcell)
  rw [Document.children_of_get? hcell, Document.element?, hcell] at himage
  exact ⟨himage.1, himage.2 _ rfl⟩

/-- Images of all three sorts are adjusted, and two of them are reported. -/
theorem images_apply_gallery : gallery.HasTreeShape ∧
    gallery.isOfKind isImageKind Document.root = false ∧
    (∀ id attrs children, gallery.Reachable id →
      gallery.get? id = some ⟨.element "img".toList attrs, children⟩ →
        children = [] ∧ attrs.HasDistinctKeys) ∧
    ∃ doc', (images {}).apply gallery {} = (.ok doc',
        { warnings := [.missingAltText "https://res.cloudinary.com/a.png".toList,
            .missingImageSource] }) ∧
      AreAdjusted {} gallery doc' := by
  have himages := fun id attrs children (_ : gallery.Reachable id) ↦
    gallery_images id attrs children
  exact ⟨gallery_hasTreeShape, rfl, himages, images_apply gallery_hasTreeShape rfl himages {} {}⟩

end Galley.Enrich
