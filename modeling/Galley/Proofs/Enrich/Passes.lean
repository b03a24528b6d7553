import Galley.Enrich.Diagrams
import Galley.Enrich.Headings
import Galley.Enrich.Images
import Galley.Proofs.Enrich.Rewrite

/-!
What the four passes do to a tree, and that they do it: the visitor of each follows a rewrite. A
pass of these over a document of the shape of a tree never fails (`BuiltIn.apply_eq`), and the
document that it gives stands for the rewritten tree.
-/

set_option autoImplicit false
set_option relaxedAutoImplicit false

namespace Galley.Enrich

open Html

/-! ### Rewrites -/

/-- The attributes of a tree that is a heading. -/
def headingMarkup? : Markup → Option Attributes
  | .node (.element tag attrs) _ => if (headingLevel? tag).isSome then some attrs else none
  | _ => none

/-- A tree with other attributes at its top. -/
def withAttributes (attrs : Attributes) : Markup → Markup
  | .node (.element tag _) children => .node (.element tag attrs) children
  | tree => tree

/-- Gives a heading an identifier. -/
def assignIdMarkup : Rewrite (Slugger × Diagnostics) := fun (slugger, diagnostics) tree ↦
  (headingMarkup? tree).map fun attrs ↦
    match attrs.get? .id with
    | some (c :: rest) => ((slugger.reserve (c :: rest), diagnostics), tree)
    | _ =>
      let (slugger, slug) := slugger.nextId tree.text
      ((slugger, diagnostics), withAttributes (attrs.set .id slug) tree)

/-- Whether a node is a heading. -/
def isHeadingKind : Kind → Bool
  | .element tag _ => (headingLevel? tag).isSome
  | _ => false

/-- Whether a node is an image. -/
def isImageKind : Kind → Bool
  | .element tag _ => tag == "img".toList
  | _ => false

/-- Whether a node is a link. -/
def isLinkKind : Kind → Bool
  | .element tag _ => tag == ['a']
  | _ => false

/-- Puts what is below a heading into a link to it. -/
def wrapHeadingMarkup (className : List Char) : Rewrite (Unit × Diagnostics) := fun state tree ↦
  (headingMarkup? tree).map fun attrs ↦
    match attrs.get? .id with
    | none => (state, tree)
    | some id =>
      if tree.hasBelow isLinkKind then (state, tree)
      else (state, .node tree.kind [.element ['a'] (anchorAttributes className id) tree.children])

/-- Adjusts the attributes of an image. -/
def adjustImageMarkup (size : ImageSize) : Rewrite (Unit × Diagnostics) := fun state tree ↦
  match tree with
  | .node (.element tag attrs) inner =>
    if tag = "img".toList then
      match imageAddress? attrs with
      | none =>
        some (((), state.2.warn .missingImageSource), .element tag (missingAttributes attrs) inner)
      | some src =>
        let alt := (attrs.get? .alt).getD []
        let diagnostics := if alt.isEmpty then state.2.warn (.missingAltText src) else state.2
        some (((), diagnostics),
          .element tag (sourceAttributes size src (attrs.set .alt alt)) inner)
    else none
  | _ => none

/-- The code of a diagram, from what is below its element. -/
def diagramTextMarkup? : List Markup → Option (List Char)
  | [] => some []
  | .node (.text value) _ :: _ => some value
  | _ => none

/-- The code of the diagram that a block starts with, from what is below the block. -/
def diagramSourceMarkup? : List Markup → Option (List Char)
  | .node (.element tag attrs) inner :: _ =>
    if tag == "code".toList && isDiagram attrs then diagramTextMarkup? inner else none
  | _ => none

/-- A placeholder for a diagram. -/
def placeholderMarkup (source : List Char) : Markup :=
  .element "div".toList (placeholderAttributes source)
    [.element "pre".toList loadingAttributes [.leaf loadingText]]

/-- Replaces a block that starts with a diagram. -/
def replaceDiagramMarkup : Rewrite (Unit × Diagnostics) := fun state tree ↦
  match tree with
  | .node (.element tag _) inner =>
    if tag = "pre".toList then
      match diagramSourceMarkup? inner with
      | none => some (state, tree)
      | some source => some (state, placeholderMarkup source)
    else none
  | _ => none

/-! ### What each rewrite can do -/

section Inversion

variable {tree : Markup}

theorem headingMarkup?_eq_some {attrs : Attributes} (hheading : headingMarkup? tree = some attrs) :
    ∃ tag inner, tree = .element tag attrs inner ∧ (headingLevel? tag).isSome := by
  obtain ⟨kind, inner⟩ := tree
  cases kind with
  | element tag old =>
    simp only [headingMarkup?, Option.ite_none_right_eq_some, Option.some.injEq] at hheading
    exact ⟨tag, inner, by rw [hheading.2], hheading.1⟩
  | _ => simp [headingMarkup?] at hheading

/-- A heading keeps an identifier that is not empty, or gets the next one for its text. -/
theorem assignIdMarkup_eq_some {state : Slugger × Diagnostics}
    {result : (Slugger × Diagnostics) × Markup} (h : assignIdMarkup state tree = some result) :
    ∃ tag attrs inner, tree = .element tag attrs inner ∧ (headingLevel? tag).isSome ∧
      ((∃ c rest, attrs.get? .id = some (c :: rest) ∧
          result = ((state.1.reserve (c :: rest), state.2), tree)) ∨
        ((∀ c rest, attrs.get? .id ≠ some (c :: rest)) ∧
          result = (((state.1.nextId tree.text).1, state.2),
            .element tag (attrs.set .id (state.1.nextId tree.text).2) inner))) := by
  obtain ⟨attrs, hheading, rfl⟩ := Option.map_eq_some_iff.1 h
  obtain ⟨tag, inner, rfl, hlevel⟩ := headingMarkup?_eq_some hheading
  refine ⟨tag, attrs, inner, rfl, hlevel, ?_⟩
  rcases hid : attrs.get? .id with _ | _ | ⟨c, rest⟩
  · exact .inr ⟨by simp, rfl⟩
  · exact .inr ⟨by simp, rfl⟩
  · exact .inl ⟨c, rest, rfl, rfl⟩

/-- A heading stays, or what is below it goes into a link to it. -/
theorem wrapHeadingMarkup_eq_some {className : List Char} {state : Unit × Diagnostics}
    {result : (Unit × Diagnostics) × Markup}
    (h : wrapHeadingMarkup className state tree = some result) :
    ∃ tag attrs inner, tree = .element tag attrs inner ∧ (headingLevel? tag).isSome ∧
      (result = (state, tree) ∨ ∃ id, attrs.get? .id = some id ∧
        result = (state,
          .element tag attrs [.element ['a'] (anchorAttributes className id) inner])) := by
  obtain ⟨attrs, hheading, rfl⟩ := Option.map_eq_some_iff.1 h
  obtain ⟨tag, inner, rfl, hlevel⟩ := headingMarkup?_eq_some hheading
  refine ⟨tag, attrs, inner, rfl, hlevel, ?_⟩
  cases hid : attrs.get? .id with
  | none => exact .inl rfl
  | some id =>
    cases hlink : (Markup.element tag attrs inner).hasBelow isLinkKind with
    | true => exact .inl (if_pos rfl)
    | false => exact .inr ⟨id, rfl, if_neg Bool.false_ne_true⟩

/-- An image gets the attributes of one without an address, or of one with its address, and a
warning where it has no address or no text. -/
theorem adjustImageMarkup_eq_some {size : ImageSize} {state : Unit × Diagnostics}
    {result : (Unit × Diagnostics) × Markup}
    (h : adjustImageMarkup size state tree = some result) :
    ∃ attrs inner, tree = .element "img".toList attrs inner ∧
      ((imageAddress? attrs = none ∧ result = (((), state.2.warn .missingImageSource),
          .element "img".toList (missingAttributes attrs) inner)) ∨
        ∃ src, imageAddress? attrs = some src ∧ result =
          (((), if ((attrs.get? .alt).getD []).isEmpty then state.2.warn (.missingAltText src)
            else state.2), .element "img".toList
              (sourceAttributes size src (attrs.set .alt ((attrs.get? .alt).getD []))) inner)) := by
  obtain ⟨kind, inner⟩ := tree
  cases kind with
  | element tag attrs =>
    by_cases htag : tag = "img".toList
    · subst htag
      refine ⟨attrs, inner, rfl, ?_⟩
      cases haddress : imageAddress? attrs with
      | none =>
        simp only [adjustImageMarkup, ↓reduceIte, haddress, Option.some.injEq] at h
        exact .inl ⟨rfl, h.symm⟩
      | some src =>
        simp only [adjustImageMarkup, ↓reduceIte, haddress, Option.some.injEq] at h
        exact .inr ⟨src, rfl, h.symm⟩
    · simp only [adjustImageMarkup, if_neg htag, reduceCtorEq] at h
  | _ => simp [adjustImageMarkup] at h

/-- A block stays, or a placeholder takes its place. -/
theorem replaceDiagramMarkup_eq_some {state : Unit × Diagnostics}
    {result : (Unit × Diagnostics) × Markup} (h : replaceDiagramMarkup state tree = some result) :
    ∃ attrs inner, tree = .element "pre".toList attrs inner ∧
      (result = (state, tree) ∨ ∃ source, diagramSourceMarkup? inner = some source ∧
        result = (state, placeholderMarkup source)) := by
  obtain ⟨kind, inner⟩ := tree
  cases kind with
  | element tag attrs =>
    by_cases htag : tag = "pre".toList
    · subst htag
      refine ⟨attrs, inner, rfl, ?_⟩
      cases hsource : diagramSourceMarkup? inner with
      | none =>
        simp only [replaceDiagramMarkup, ↓reduceIte, hsource, Option.some.injEq] at h
        exact .inl h.symm
      | some source =>
        simp only [replaceDiagramMarkup, ↓reduceIte, hsource, Option.some.injEq] at h
        exact .inr ⟨source, rfl, h.symm⟩
    · simp only [replaceDiagramMarkup, if_neg htag, reduceCtorEq] at h
  | _ => simp [replaceDiagramMarkup] at h

end Inversion

/-! ### Visits -/

section Visits

variable {doc : Document} {id : NodeId} {tree : Markup} {area : Multiset NodeId}

theorem element?_eq (hspans : doc.Spans [id] [tree] area) : doc.element? id =
    match tree.kind with
    | .element tag attrs => some (tag, attrs)
    | _ => none := by
  obtain ⟨kind, children, inner, below, heq, -, hcell, -⟩ := hspans.of_singleton
  obtain rfl : tree = .node kind inner := by simpa using heq
  cases kind <;> simp [Document.element?, hcell, Markup.kind]

theorem heading?_eq (hspans : doc.Spans [id] [tree] area) :
    heading? doc id = headingMarkup? tree := by
  rw [heading?, element?_eq hspans]
  obtain ⟨kind, inner⟩ := tree
  cases kind <;> rfl

/-- A node of which nothing changes stays as it is. -/
theorem leaves_skip {σ : Type} (p : Progress σ) (hspans : p.doc.Spans [id] [tree] area) (state : σ)
    (diagnostics : Diagnostics) :
    Leaves p (⟨state, p.doc, diagnostics⟩, .ok .skip) id area ((state, diagnostics), tree) :=
  ⟨p.doc, .skip, id, area, rfl, .inl ⟨rfl, rfl⟩, hspans, .refl _ _⟩

/-- An element whose attributes change stands for the element with these attributes. -/
theorem leaves_setAttributes {σ : Type} (p : Progress σ) {tag : List Char} {old : Attributes}
    {inner : List Markup} (hspans : p.doc.Spans [id] [.element tag old inner] area)
    (hnodup : area.Nodup) (attrs : Attributes) (state : σ) (diagnostics : Diagnostics) :
    Leaves p (⟨state, p.doc.setAttributes id attrs, diagnostics⟩, .ok .skip) id area
      ((state, diagnostics), .element tag attrs inner) := by
  obtain ⟨kind, children, inner', below, heq, rfl, hcell, hbelow⟩ := hspans.of_singleton
  obtain ⟨rfl, rfl⟩ : .element tag old = kind ∧ inner = inner' := by simpa using heq
  have hfresh : id ∉ below := by
    rw [Multiset.singleton_add, Multiset.nodup_cons] at hnodup
    exact hnodup.1
  exact ⟨p.doc.setAttributes id attrs, .skip, id, {id} + below, rfl, .inl ⟨rfl, rfl⟩,
    .singleton (Document.get?_setAttributes_self hcell attrs) (hbelow.setAttributes hfresh attrs),
    .setAttributes p.doc (by simp) attrs⟩

theorem assignId_follows : Follows assignId assignIdMarkup := by
  intro p id tree area hspans hnodup
  simp only [assignIdMarkup, assignId, heading?_eq hspans]
  cases hheading : headingMarkup? tree with
  | none => rfl
  | some attrs =>
    obtain ⟨tag, inner, rfl, -⟩ := headingMarkup?_eq_some hheading
    simp only [Option.map_some, hspans.textContent_eq hnodup]
    rcases attrs.get? .id with _ | _ | ⟨c, rest⟩
    · exact leaves_setAttributes p hspans hnodup _ _ _
    · exact leaves_setAttributes p hspans hnodup _ _ _
    · exact leaves_skip p hspans _ _

theorem adjustImage_follows (size : ImageSize) :
    Follows (adjustImage size) (adjustImageMarkup size) := by
  intro p id tree area hspans hnodup
  obtain ⟨kind, inner⟩ := tree
  cases kind with
  | element tag attrs =>
    simp only [adjustImage, element?_eq hspans, adjustImageMarkup, Markup.kind]
    by_cases htag : tag = "img".toList
    · simp only [htag, ↓reduceIte]
      subst htag
      cases imageAddress? attrs with
      | none => exact leaves_setAttributes p hspans hnodup _ _ _
      | some src => exact leaves_setAttributes p hspans hnodup _ _ _
    · simp only [htag, ↓reduceIte]
  | _ => simp [adjustImage, element?_eq hspans, adjustImageMarkup, Markup.kind]

theorem diagramText?_eq {doc : Document} {ids : List NodeId} {trees : List Markup}
    {area : Multiset NodeId} (hspans : doc.Spans ids trees area) :
    diagramText? doc ids = diagramTextMarkup? trees := by
  cases hspans with
  | nil => rfl
  | @cons _ _ _ kind _ _ _ _ hcell _ _ =>
    cases kind <;> simp [diagramText?, diagramTextMarkup?, hcell]

theorem diagramSource?_eq (hspans : doc.Spans [id] [tree] area) :
    diagramSource? doc id = diagramSourceMarkup? tree.children := by
  obtain ⟨kind, children, inner, below, heq, -, hcell, hbelow⟩ := hspans.of_singleton
  obtain rfl : tree = .node kind inner := by simpa using heq
  rw [diagramSource?, Document.children_of_get? hcell]
  cases hbelow with
  | nil => rfl
  | @cons _ _ _ kind' _ _ _ _ hcell' hbelow' _ =>
    cases kind' with
    | element tag attrs =>
      simp [Markup.children, diagramSourceMarkup?, Document.element?, hcell',
        Document.children_of_get? hcell', diagramText?_eq hbelow']
    | _ => simp [Markup.children, diagramSourceMarkup?, Document.element?, hcell']

/-- A placeholder is added beside what is there. -/
theorem addPlaceholder_adds (doc : Document) (source : List Char) : ∃ doc' id,
    addPlaceholder doc source = (doc', .ok id) ∧ doc.Adds doc' [id] [placeholderMarkup source] := by
  have htext := Document.Adds.alloc doc (.text loadingText)
  have hloading := htext.append
    (.alloc (doc.alloc (.text loadingText)).1 (.element "pre".toList loadingAttributes))
  obtain ⟨doc₁, happend₁, hadds₁⟩ := hloading.append_child
  have hboth := hadds₁.append
    (.alloc doc₁ (.element "div".toList (placeholderAttributes source)))
  obtain ⟨doc₂, happend₂, hadds₂⟩ := hboth.append_child
  refine ⟨doc₂, doc₁.size, ?_, hadds₂⟩
  simp only [addPlaceholder, Document.alloc_snd, happend₁, happend₂]

theorem replaceDiagram_follows : Follows replaceDiagram replaceDiagramMarkup := by
  intro p id tree area hspans hnodup
  obtain ⟨kind, inner⟩ := tree
  cases kind with
  | element tag attrs =>
    simp only [replaceDiagram, element?_eq hspans, replaceDiagramMarkup, Markup.kind]
    by_cases htag : tag = "pre".toList
    · simp only [htag, ↓reduceIte, diagramSource?_eq hspans, Markup.children]
      cases diagramSourceMarkup? inner with
      | none => exact leaves_skip p (htag ▸ hspans) _ _
      | some source =>
        obtain ⟨doc, id', hadd, new, hnew, hchange⟩ := addPlaceholder_adds p.doc source
        simp only [hadd]
        exact ⟨doc, .replace id', id', new, rfl, .inr rfl, hnew, hchange.of_untouched area⟩
    · simp only [htag, ↓reduceIte]
  | _ => simp [replaceDiagram, element?_eq hspans, replaceDiagramMarkup, Markup.kind]

theorem isLink_eq (cell : Cell) : isLink cell = isLinkKind cell.kind := rfl

/-- The children of a node may be put into a new element, which becomes its only child. -/
theorem wrap_children (wrapper : Kind) {doc : Document} {kind : Kind} {inner : List Markup}
    (hspans : doc.Spans [id] [.node kind inner] area) (hnodup : area.Nodup) : ∃ doc' doc'' new,
      (doc.alloc wrapper).1.setChildren doc.size (doc.children id) = .ok doc' ∧
        doc'.setChildren id [doc.size] = .ok doc'' ∧
          doc''.Spans [id] [.node kind [.node wrapper inner]] new ∧
            Document.Change doc doc'' area new := by
  obtain ⟨children, below, hcell, rfl, hbelow⟩ : ∃ children below,
      doc.get? id = some ⟨kind, children⟩ ∧ area = {id} + below ∧
        doc.Spans children inner below := by
    obtain ⟨kind', children, inner', below, heq, rfl, hcell, hbelow⟩ := hspans.of_singleton
    obtain ⟨rfl, rfl⟩ : kind = kind' ∧ inner = inner' := by simpa using heq
    exact ⟨children, below, hcell, rfl, hbelow⟩
  have hfresh : id ∉ below := by
    rw [Multiset.singleton_add, Multiset.nodup_cons] at hnodup
    exact hnodup.1
  have hchildren : ∀ child ∈ children, child < doc.size + 1 := fun child hchild ↦
    Nat.lt_succ_of_lt (hbelow.lt_size (hbelow.mem_area_of_mem hchild))
  obtain ⟨doc', doc'', hfirst, hsecond, hsize, hcell', hwrapper, hkept⟩ :=
    Document.exists_wrapped hcell hchildren wrapper
  have hinner := hbelow.congr fun other hother ↦
    hkept other (hbelow.lt_size hother) (ne_of_mem_of_not_mem hother hfresh)
  rw [Document.children_of_get? hcell]
  refine ⟨doc', doc'', _, hfirst, hsecond, .singleton hcell' (.singleton hwrapper hinner),
    hsize ▸ Nat.le_succ _, fun other hother hnot ↦ hkept other hother ?_, ?_⟩
  · rintro rfl
    simp at hnot
  · rw [hsize, add_left_comm, ← Document.size_alloc doc wrapper]
    exact (Document.Change.alloc doc wrapper _).new_le

theorem wrapHeading_follows (className : List Char) :
    Follows (wrapHeading className) (wrapHeadingMarkup className) := by
  intro p id tree area hspans hnodup
  simp only [wrapHeadingMarkup, wrapHeading, heading?_eq hspans]
  cases headingMarkup? tree with
  | none => rfl
  | some attrs =>
    simp only [Option.map_some, hspans.anyDescendant_eq hnodup isLink_eq]
    cases attrs.get? .id with
    | none => exact leaves_skip p hspans _ _
    | some headingId =>
      cases tree.hasBelow isLinkKind with
      | true => exact leaves_skip p hspans _ _
      | false =>
        obtain ⟨kind, inner⟩ := tree
        obtain ⟨doc, doc', new, hfirst, hsecond, hnew, hchange⟩ := wrap_children
          (.element ['a'] (anchorAttributes className headingId)) hspans hnodup
        simp only [Bool.false_eq_true, ↓reduceIte, Document.alloc_snd, hfirst, hsecond]
        exact ⟨doc', .skip, id, new, rfl, .inl ⟨rfl, rfl⟩, hnew, hchange⟩

end Visits

/-! ### Built-in passes -/

/-- The passes that come with the pipeline. -/
inductive BuiltIn where
  | headingIds
  | headingAnchors (className : List Char)
  | images (size : ImageSize)
  | diagrams
deriving DecidableEq, Repr

namespace BuiltIn

/-- The pass itself. -/
def pass : BuiltIn → Pass
  | headingIds => Enrich.headingIds
  | headingAnchors className => Enrich.headingAnchors className
  | images size => Enrich.images size
  | diagrams => Enrich.diagrams

/-- What a pass makes of the trees below the root. -/
def rewrite (builtIn : BuiltIn) (diagnostics : Diagnostics) (trees : List Markup) :
    Diagnostics × List Markup :=
  match builtIn with
  | headingIds => (assignIdMarkup.trees (.empty, diagnostics) trees).map Prod.snd id
  | headingAnchors className =>
    ((wrapHeadingMarkup className).trees ((), diagnostics) trees).map Prod.snd id
  | images size => ((adjustImageMarkup size).trees ((), diagnostics) trees).map Prod.snd id
  | diagrams => (replaceDiagramMarkup.trees ((), diagnostics) trees).map Prod.snd id

/-- What passes make of the trees below the root, one after the other. -/
def rewriteAll (builtIns : List BuiltIn) (diagnostics : Diagnostics) (trees : List Markup) :
    Diagnostics × List Markup :=
  builtIns.foldl (fun (diagnostics, trees) builtIn => builtIn.rewrite diagnostics trees)
    (diagnostics, trees)

theorem rewrite_nil (builtIn : BuiltIn) (diagnostics : Diagnostics) :
    builtIn.rewrite diagnostics [] = (diagnostics, []) := by
  cases builtIn <;> rfl

/-- A pass keeps a property of trees. -/
def Keeps (builtIn : BuiltIn) (good : Markup → Prop) : Prop :=
  match builtIn with
  | headingIds => assignIdMarkup.Keeps good
  | headingAnchors className => (wrapHeadingMarkup className).Keeps good
  | images size => (adjustImageMarkup size).Keeps good
  | diagrams => replaceDiagramMarkup.Keeps good

theorem Keeps.rewrite {builtIn : BuiltIn} {good : Markup → Prop} (h : builtIn.Keeps good)
    (diagnostics : Diagnostics) {trees : List Markup} (hgood : Markup.All good trees) :
    Markup.All good (builtIn.rewrite diagnostics trees).2 := by
  cases builtIn with
  | headingIds => exact Rewrite.Carries.trees h _ trees hgood
  | headingAnchors className => exact Rewrite.Carries.trees h _ trees hgood
  | images size => exact Rewrite.Carries.trees h _ trees hgood
  | diagrams => exact Rewrite.Carries.trees h _ trees hgood

/-- A pass succeeds on a document that stands for a tree, and makes of it one that stands for the
rewritten tree. -/
theorem apply_eq (builtIn : BuiltIn) {doc : Document} {kind : Kind} {inner : List Markup}
    {area : Multiset NodeId} (hspans : doc.Spans [Document.root] [.node kind inner] area)
    (hnodup : area.Nodup) (diagnostics : Diagnostics) : ∃ doc' new,
      builtIn.pass.apply doc diagnostics = (.ok doc', (builtIn.rewrite diagnostics inner).1) ∧
        doc'.Spans [Document.root] [.node kind (builtIn.rewrite diagnostics inner).2] new ∧
          new.Nodup := by
  cases builtIn with
  | headingIds => exact walk_follows _ assignId_follows _ hspans hnodup diagnostics
  | headingAnchors className =>
    exact walk_follows _ (wrapHeading_follows className) _ hspans hnodup diagnostics
  | images size => exact walk_follows _ (adjustImage_follows size) _ hspans hnodup diagnostics
  | diagrams => exact walk_follows _ replaceDiagram_follows _ hspans hnodup diagnostics

/-- Passes succeed on a document that stands for a tree, and make of it one that stands for the
rewritten tree. -/
theorem runPasses_eq (builtIns : List BuiltIn) {doc : Document} {kind : Kind}
    {inner : List Markup} {area : Multiset NodeId}
    (hspans : doc.Spans [Document.root] [.node kind inner] area) (hnodup : area.Nodup)
    (diagnostics : Diagnostics) : ∃ doc' new,
      runPasses (builtIns.map pass) doc diagnostics =
          (.ok doc', (rewriteAll builtIns diagnostics inner).1) ∧
        doc'.Spans [Document.root] [.node kind (rewriteAll builtIns diagnostics inner).2] new ∧
          new.Nodup := by
  induction builtIns generalizing doc inner area diagnostics with
  | nil => exact ⟨doc, area, rfl, hspans, hnodup⟩
  | cons builtIn rest ih =>
    obtain ⟨doc₁, area₁, happly, hspans₁, hnodup₁⟩ := builtIn.apply_eq hspans hnodup diagnostics
    obtain ⟨doc₂, area₂, hrun, hspans₂, hnodup₂⟩ := ih hspans₁ hnodup₁ _
    refine ⟨doc₂, area₂, ?_, hspans₂, hnodup₂⟩
    rw [List.map_cons, runPasses, happly]
    exact hrun

end BuiltIn

end Galley.Enrich
