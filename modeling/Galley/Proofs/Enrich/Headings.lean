import Galley.Proofs.Enrich.Shape
import Galley.Proofs.Html.Outline

/-!
Headings under the passes. In a settled document (`IsSettled`) every heading has attributes of one
form and only plain trees in it, and nothing else could be taken for a heading. The pass for
identifiers settles a page, with identifiers that differ from each other (`nodup_carriedIds`); every
pass keeps a document settled and names no heading anew (`settled_rewriteAll`).
-/

set_option autoImplicit false
set_option relaxedAutoImplicit false

namespace Galley.Enrich

open Html

/-- What is neither a heading nor could be taken for one. If `isInner` holds it stands in a heading,
and its texts and values are on a single line. -/
structure IsPlain (isInner : Prop) (tree : Markup) : Prop where
  quiet : tree.kind.IsQuiet
  not_heading : headingMarkup? tree = none
  bare : tree.IsBare
  single_line : isInner → tree.kind.IsSingleLine

/-- What a document may hold: plain trees, headings with attributes of the given form, and the given
raw markup. If `isInner` holds, then what is in a heading is on a single line. -/
inductive IsSettled (isInner : Prop) (hasForm : Attributes → Prop) (isRaw : List Char → Prop) :
    Markup → Prop
  | plain {tree : Markup} (hplain : IsPlain False tree) : IsSettled isInner hasForm isRaw tree
  | heading {tag : List Char} {attrs : Attributes} {inner : List Markup}
      (htag : (headingLevel? tag).isSome = true) (hattrs : hasForm attrs)
      (hinner : Markup.All (IsPlain isInner) inner) :
      IsSettled isInner hasForm isRaw (.element tag attrs inner)
  | raw {markup : List Char} (hraw : isRaw markup) :
      IsSettled isInner hasForm isRaw (.node (.raw markup) [])

/-- An identifier made of a slug, as the only attribute. -/
def IsNamed (attrs : Attributes) : Prop :=
  ∃ id, attrs = ⟨[(.id, id)]⟩ ∧ id ≠ [] ∧ ∀ c ∈ id, isSlugChar c = true

/-- Entries of clean attributes, with a value on a single line in a heading. -/
def IsPlainEntry (isInner : Prop) (entry : AttributeKey × List Char) : Prop :=
  entry.1.name.all isTagChar = true ∧ (isInner → IsSingleLine entry.2)

section Plain

variable {isInner : Prop} {hasForm : Attributes → Prop} {isRaw : List Char → Prop}

theorem IsPlain.weaken {tree : Markup} (h : IsPlain isInner tree) : IsPlain False tree :=
  ⟨h.quiet, h.not_heading, h.bare, False.elim⟩

/-- What is plain is settled. -/
theorem all_isSettled {isWithin : Prop} {trees : List Markup}
    (h : Markup.All (IsPlain isWithin) trees) :
    Markup.All (IsSettled isInner hasForm isRaw) trees :=
  h.imp fun _ htree ↦ .plain htree.weaken

theorem isPlain_text {value : List Char} (hline : isInner → IsSingleLine value) :
    IsPlain isInner (.leaf value) :=
  ⟨trivial, rfl, fun _ ↦ rfl, hline⟩

/-- Tags of plain elements. -/
def isPlainTag (tag : List Char) : Bool :=
  isTagName tag && !mayList tag && (headingLevel? tag).isNone

theorem isPlain_element {tag : List Char} {attrs : Attributes} {inner : List Markup}
    (htag : isPlainTag tag = true) (hattrs : attrs.All (IsPlainEntry isInner))
    (hbare : isVoid tag = true → inner = []) : IsPlain isInner (.element tag attrs inner) := by
  simp only [isPlainTag, Bool.and_eq_true, Bool.not_eq_true', Option.isNone_iff_eq_none] at htag
  refine ⟨⟨htag.1.1, htag.1.2, fun entry hentry ↦ (hattrs entry hentry).1⟩, ?_, hbare,
    fun hin entry hentry ↦ (hattrs entry hentry).2 hin⟩
  simp [headingMarkup?, htag.2]

theorem IsPlain.attributes {tag : List Char} {attrs : Attributes} {inner : List Markup}
    (h : IsPlain isInner (.element tag attrs inner)) : attrs.All (IsPlainEntry isInner) :=
  fun entry hentry ↦ ⟨h.quiet.2.2 entry hentry, fun hin ↦ h.single_line hin entry hentry⟩

theorem isSingleLine_of_isSlugChar {s : List Char} (h : ∀ c ∈ s, isSlugChar c = true) :
    IsSingleLine s := by
  intro c hc
  refine isLineEnd_of_isTagChar ?_
  rcases Bool.or_eq_true_iff.1 (h c hc) with halnum | hhyphen
  · simp [isTagChar, halnum]
  · simp [isTagChar, beq_iff_eq.1 hhyphen]

theorem isSingleLine_toDigits (n : Nat) : IsSingleLine (Nat.toDigits 10 n) := by
  exact isSingleLine_of_isSlugChar fun c hc ↦ isSlugChar_of_mem_toDigits hc

end Plain

/-! ### Passes that look into headings -/

section Inside

variable {isInner : Prop} {hasForm : Attributes → Prop} {isRaw : List Char → Prop}

theorem headingMarkup?_node (kind : Kind) (inner inner' : List Markup) :
    headingMarkup? (.node kind inner) = headingMarkup? (.node kind inner') := by
  cases kind <;> rfl

theorem isPlain_descend {σ : Type} {rewrite : Rewrite σ} {state : σ} {kind : Kind}
    {inner : List Markup} (h : IsPlain isInner (.node kind inner)) :
    IsPlain isInner (.node kind (rewrite.trees state inner).2) :=
  ⟨h.quiet, headingMarkup?_node kind _ _ ▸ h.not_heading, isBare_descend h.bare, h.single_line⟩

/-- Where the trees in a heading are rewritten they stay plain, if the rewrite keeps plain trees. -/
theorem isSettled_descend {σ : Type} {rewrite : Rewrite σ}
    (hkeeps : rewrite.Keeps (IsPlain isInner)) {state : σ} {kind : Kind} {inner : List Markup}
    (h : IsSettled isInner hasForm isRaw (.node kind inner)) :
    IsSettled isInner hasForm isRaw (.node kind (rewrite.trees state inner).2) := by
  cases h with
  | plain hplain => exact .plain (isPlain_descend hplain)
  | heading htag hattrs hinner => exact .heading htag hattrs (hkeeps.trees state inner hinner)
  | raw hraw => exact .raw hraw

/-- An element that is no heading is settled only if it is plain. -/
theorem IsSettled.isPlain {tag : List Char} {attrs : Attributes} {inner : List Markup}
    (h : IsSettled isInner hasForm isRaw (.element tag attrs inner))
    (htag : headingLevel? tag = none) : IsPlain False (.element tag attrs inner) := by
  cases h with
  | plain hplain => exact hplain
  | heading hheading => simp [htag] at hheading

/-! #### Images -/

theorem isPlainEntry {key : AttributeKey} {value : List Char}
    (hkey : key.name.all isTagChar = true) (hvalue : isInner → IsSingleLine value) :
    IsPlainEntry isInner (key, value) := ⟨hkey, hvalue⟩

theorem missingImage_isSingleLine : IsSingleLine missingImage := by
  unfold missingImage
  simp only [String.toList_append]
  refine (IsSingleLine.append ?_ ?_).append ?_
  all_goals decide +kernel

theorem missingAttributes_isPlain {attrs : Attributes} (h : attrs.All (IsPlainEntry isInner)) :
    (missingAttributes attrs).All (IsPlainEntry isInner) := by
  refine ((h.set ?_).set ?_).set ?_
  · exact isPlainEntry (by decide) fun _ ↦ missingImage_isSingleLine
  · exact isPlainEntry (by decide) fun _ ↦ by decide
  · exact isPlainEntry (by decide) fun _ ↦ by decide

theorem sourceAttributes_isPlain (size : ImageSize) {src : List Char} {attrs : Attributes}
    (h : attrs.All (IsPlainEntry isInner)) (hsrc : isInner → IsSingleLine src) :
    (sourceAttributes size src attrs).All (IsPlainEntry isInner) := by
  have hlazy : IsPlainEntry isInner (.loading, "lazy".toList) :=
    isPlainEntry (by decide) fun _ ↦ by decide
  have htrue : IsSingleLine "true".toList := by decide
  unfold sourceAttributes
  cases imageSource src with
  | localPath =>
    refine (((((h.erase .src).set ?_).set ?_).set hlazy).set ?_).set ?_
    · exact isPlainEntry (by decide) fun _ ↦ htrue
    · exact isPlainEntry (by decide) hsrc
    · exact isPlainEntry (by decide) fun _ ↦ isSingleLine_toDigits size.width
    · exact isPlainEntry (by decide) fun _ ↦ isSingleLine_toDigits size.height
  | external => exact h.set hlazy
  | cloudinary =>
    exact (h.set hlazy).set (isPlainEntry (by decide) fun _ ↦ htrue)

/-- An adjusted image is plain if it was before. -/
theorem adjustImageMarkup_isPlain {size : ImageSize} {state : Unit × Diagnostics} {tree : Markup}
    {result : (Unit × Diagnostics) × Markup} (h : adjustImageMarkup size state tree = some result)
    (hplain : IsPlain isInner tree) : Markup.All (IsPlain isInner) [result.2] := by
  have helement {attrs attrs' : Attributes} {inner : List Markup}
      (hplain : IsPlain isInner (.element "img".toList attrs inner))
      (hattrs : attrs'.All (IsPlainEntry isInner)) :
      Markup.All (IsPlain isInner) [.element "img".toList attrs' inner] := by
    obtain rfl : inner = [] := hplain.bare rfl
    exact Markup.All.singleton.2 ⟨isPlain_element (by decide) hattrs fun _ ↦ rfl, .nil⟩
  obtain ⟨attrs, inner, rfl, ⟨-, rfl⟩ | ⟨src, haddress, rfl⟩⟩ := adjustImageMarkup_eq_some h
  · exact helement hplain (missingAttributes_isPlain hplain.attributes)
  · have hattrs := hplain.attributes
    have hsrc : attrs.get? .src = some src := (Option.filter_eq_some_iff.1 haddress).1
    refine helement hplain (sourceAttributes_isPlain size (hattrs.set ?_) (hattrs.of_get? hsrc).2)
    refine isPlainEntry (by decide) fun hin ↦ ?_
    cases halt : attrs.get? .alt with
    | none => simp [IsSingleLine]
    | some alt => exact (hattrs.of_get? halt).2 hin

theorem adjustImageMarkup_keeps_isPlain (size : ImageSize) :
    (adjustImageMarkup size).Keeps (IsPlain isInner) where
  descend _ _ _ _ h _ := isPlain_descend h
  replace _ _ _ hresult h := adjustImageMarkup_isPlain hresult (Markup.All.singleton.1 h).1

theorem adjustImageMarkup_keeps_isSettled (size : ImageSize) :
    (adjustImageMarkup size).Keeps (IsSettled isInner hasForm isRaw) where
  descend _ _ _ _ h _ := isSettled_descend (adjustImageMarkup_keeps_isPlain size) h
  replace _ _ _ hresult h := by
    obtain ⟨attrs, inner, rfl, -⟩ := adjustImageMarkup_eq_some hresult
    have hplain := (Markup.All.singleton.1 h).1.isPlain (by decide)
    exact all_isSettled (adjustImageMarkup_isPlain hresult hplain)

/-! #### Diagrams -/

/-- The code of a diagram is a text in the block. -/
theorem isSingleLine_of_diagramSourceMarkup? {inner : List Markup} {source : List Char}
    (h : Markup.All (IsPlain isInner) inner) (hsource : diagramSourceMarkup? inner = some source)
    (hin : isInner) : IsSingleLine source := by
  unfold diagramSourceMarkup? at hsource
  split at hsource
  · next tag attrs below _ =>
    rw [Option.ite_none_right_eq_some] at hsource
    have hbelow := (Markup.All.cons.1 h).1.2
    have htext := hsource.2
    unfold diagramTextMarkup? at htext
    split at htext
    · obtain rfl : [] = source := by simpa using htext
      simp [IsSingleLine]
    · next value _ _ =>
      obtain rfl : value = source := by simpa using htext
      exact (Markup.All.cons.1 hbelow).1.1.single_line hin
    · simp at htext
  · simp at hsource

theorem placeholderMarkup_isPlain {source : List Char} (hline : isInner → IsSingleLine source) :
    Markup.All (IsPlain isInner) [placeholderMarkup source] := by
  have htext : IsPlain isInner (.leaf loadingText) := isPlain_text fun _ ↦ by decide
  have hloading : loadingAttributes.All (IsPlainEntry isInner) :=
    Attributes.All.empty.set (isPlainEntry (by decide) fun _ ↦ by decide)
  have hplaceholder : (placeholderAttributes source).All (IsPlainEntry isInner) := by
    refine (Attributes.All.empty.set ?_).set (isPlainEntry (by decide) hline)
    exact isPlainEntry (by decide) fun _ ↦ by decide
  refine Markup.All.singleton.2 ⟨isPlain_element (by decide) hplaceholder
    fun hvoid ↦ absurd hvoid (by decide), ?_⟩
  refine Markup.All.singleton.2 ⟨isPlain_element (by decide) hloading
    fun hvoid ↦ absurd hvoid (by decide), ?_⟩
  exact Markup.All.singleton.2 ⟨htext, .nil⟩

theorem replaceDiagramMarkup_keeps_isPlain :
    replaceDiagramMarkup.Keeps (IsPlain isInner) where
  descend _ _ _ _ h _ := isPlain_descend h
  replace _ _ _ hresult h := by
    obtain ⟨attrs, inner, rfl, rfl | ⟨source, hsource, rfl⟩⟩ := replaceDiagramMarkup_eq_some hresult
    · exact h
    · exact placeholderMarkup_isPlain
        (isSingleLine_of_diagramSourceMarkup? (Markup.All.singleton.1 h).2 hsource)

theorem replaceDiagramMarkup_keeps_isSettled :
    replaceDiagramMarkup.Keeps (IsSettled isInner hasForm isRaw) where
  descend _ _ _ _ h _ := isSettled_descend replaceDiagramMarkup_keeps_isPlain h
  replace _ _ _ hresult h := by
    obtain ⟨attrs, inner, rfl, rfl | ⟨source, -, rfl⟩⟩ := replaceDiagramMarkup_eq_some hresult
    · exact h
    · have hplain : Markup.All (IsPlain False) [placeholderMarkup source] :=
        placeholderMarkup_isPlain False.elim
      exact all_isSettled hplain

end Inside

/-! ### Passes over headings -/

section Headings

variable {isInner : Prop} {isRaw : List Char → Prop}

theorem headingMarkup?_of_assignIdMarkup {state : Slugger × Diagnostics} {tree : Markup}
    (h : assignIdMarkup state tree = none) : headingMarkup? tree = none :=
  Option.map_eq_none_iff.1 h

theorem headingMarkup?_of_wrapHeadingMarkup {className : List Char} {state : Unit × Diagnostics}
    {tree : Markup} (h : wrapHeadingMarkup className state tree = none) :
    headingMarkup? tree = none :=
  Option.map_eq_none_iff.1 h

/-- A tree that is no heading is settled whatever the form of the attributes of headings. -/
theorem IsSettled.node {hasForm hasForm' : Attributes → Prop} {kind : Kind}
    {inner inner' : List Markup} (h : IsSettled isInner hasForm isRaw (.node kind inner))
    (hheading : headingMarkup? (.node kind inner) = none) (hbare : inner = [] → inner' = []) :
    IsSettled isInner hasForm' isRaw (.node kind inner') := by
  cases h with
  | plain hplain =>
    exact .plain ⟨hplain.quiet, headingMarkup?_node kind _ _ ▸ hheading,
      fun hleaf ↦ hbare (hplain.bare hleaf), False.elim⟩
  | heading htag hattrs hinner => simp [headingMarkup?, htag] at hheading
  | raw hraw =>
    rw [hbare rfl]
    exact .raw hraw

theorem Rewrite.trees_eq_nil {σ : Type} {rewrite : Rewrite σ} {state : σ} {inner : List Markup}
    (hinner : inner = []) : (rewrite.trees state inner).2 = [] := by
  rw [hinner]
  rfl

/-- The attributes and the content of a settled heading. -/
theorem IsSettled.of_heading {hasForm : Attributes → Prop} {tag : List Char} {attrs : Attributes}
    {inner : List Markup} (h : IsSettled isInner hasForm isRaw (.element tag attrs inner))
    (htag : (headingLevel? tag).isSome = true) :
    hasForm attrs ∧ Markup.All (IsPlain isInner) inner := by
  cases h with
  | plain hplain => simpa [headingMarkup?, htag] using hplain.not_heading
  | heading _ hattrs hinner => exact ⟨hattrs, hinner⟩

/-- The slug that a heading gets is one. -/
theorem isNamed_nextId (slugger : Slugger) (text : List Char) :
    IsNamed (Attributes.empty.set .id (slugger.nextId text).2) :=
  ⟨_, rfl, Slugger.nameFor_ne_nil (headingId_ne_nil text),
    Slugger.nameFor_chars (headingId_chars text)⟩

/-- A heading without attributes gets the next identifier for its text. -/
theorem assignIdMarkup_of_empty {state : Slugger × Diagnostics} {tree : Markup}
    {result : (Slugger × Diagnostics) × Markup} (hresult : assignIdMarkup state tree = some result)
    (h : Markup.All (IsSettled isInner (· = .empty) isRaw) [tree]) : ∃ tag inner,
      (headingLevel? tag).isSome = true ∧ Markup.All (IsPlain isInner) inner ∧
        result = (((state.1.nextId tree.text).1, state.2),
          .element tag (Attributes.empty.set .id (state.1.nextId tree.text).2) inner) := by
  obtain ⟨tag, attrs, inner, rfl, htag, hcases⟩ := assignIdMarkup_eq_some hresult
  obtain ⟨rfl, hinner⟩ := (Markup.All.singleton.1 h).1.of_heading htag
  obtain ⟨c, rest, hid, -⟩ | ⟨-, heq⟩ := hcases
  · simp [Attributes.get?, Attributes.empty] at hid
  · exact ⟨tag, inner, htag, hinner, heq⟩

/-- A heading that has an identifier stays as it is. -/
theorem assignIdMarkup_of_isNamed {state : Slugger × Diagnostics} {tree : Markup}
    {result : (Slugger × Diagnostics) × Markup} (hresult : assignIdMarkup state tree = some result)
    (h : Markup.All (IsSettled isInner IsNamed isRaw) [tree]) : result.2 = tree := by
  obtain ⟨tag, attrs, inner, rfl, htag, ⟨c, rest, -, rfl⟩ | ⟨hnone, -⟩⟩ :=
    assignIdMarkup_eq_some hresult
  · rfl
  · obtain ⟨⟨id, rfl, hne, -⟩, -⟩ := (Markup.All.singleton.1 h).1.of_heading htag
    obtain ⟨c, rest, rfl⟩ := List.exists_cons_of_ne_nil hne
    exact absurd rfl (hnone c rest)

/-- Headings without attributes get an identifier. -/
theorem assignIdMarkup_carries :
    assignIdMarkup.Carries (IsSettled isInner (· = .empty) isRaw)
      (IsSettled isInner IsNamed isRaw) where
  descend _ _ _ hnone h _ :=
    h.node (headingMarkup?_of_assignIdMarkup hnone) Rewrite.trees_eq_nil
  replace state tree result hresult h := by
    obtain ⟨tag, inner, htag, hinner, rfl⟩ := assignIdMarkup_of_empty hresult h
    exact Markup.All.singleton.2 ⟨.heading htag (isNamed_nextId _ _) hinner, all_isSettled hinner⟩

/-- Identifiers are kept. -/
theorem assignIdMarkup_keeps_isSettled :
    assignIdMarkup.Keeps (IsSettled isInner IsNamed isRaw) where
  descend _ _ _ hnone h _ :=
    h.node (headingMarkup?_of_assignIdMarkup hnone) Rewrite.trees_eq_nil
  replace state tree result hresult h := by
    rwa [assignIdMarkup_of_isNamed hresult h]

theorem anchorAttributes_isPlain {className id : List Char} (hid : ∀ c ∈ id, isSlugChar c = true)
    (hclass : IsSingleLine className) :
    (anchorAttributes className id).All (IsPlainEntry isInner) := by
  have hhref : IsSingleLine (['#'] ++ id) :=
    IsSingleLine.append (by decide) (isSingleLine_of_isSlugChar hid)
  have hattrs : (Attributes.empty.set .href ('#' :: id)).All (IsPlainEntry isInner) :=
    Attributes.All.empty.set (isPlainEntry (by decide) fun _ ↦ hhref)
  unfold anchorAttributes
  split_ifs
  · exact hattrs
  · exact hattrs.set (isPlainEntry (by decide) fun _ ↦ hclass)

/-- A link around the content of a heading is plain if its class is on a single line. -/
theorem wrapHeadingMarkup_keeps_isSettled {className : List Char}
    (hclass : IsSingleLine className) :
    (wrapHeadingMarkup className).Keeps (IsSettled isInner IsNamed isRaw) where
  descend _ _ _ hnone h _ :=
    h.node (headingMarkup?_of_wrapHeadingMarkup hnone) Rewrite.trees_eq_nil
  replace state tree result hresult h := by
    obtain ⟨tag, attrs, inner, rfl, htag, rfl | ⟨id, hid, rfl⟩⟩ :=
      wrapHeadingMarkup_eq_some hresult
    · exact h
    · obtain ⟨hnamed, hinner⟩ := (Markup.All.singleton.1 h).1.of_heading htag
      have hslug : ∀ c ∈ id, isSlugChar c = true := by
        obtain ⟨id', rfl, -, hchars⟩ := hnamed
        obtain rfl : id' = id := by simpa [Attributes.get?] using hid
        exact hchars
      have hlink : Markup.All (IsPlain isInner)
          [.element ['a'] (anchorAttributes className id) inner] := by
        refine Markup.All.singleton.2 ⟨isPlain_element (by decide)
          (anchorAttributes_isPlain hslug hclass) fun hvoid ↦ absurd hvoid (by decide), hinner⟩
      exact Markup.All.singleton.2 ⟨.heading htag hnamed hlink, all_isSettled hlink⟩

end Headings

/-- The class of the links that a pass adds is on a single line. -/
def BuiltIn.IsSingleLine : BuiltIn → Prop
  | headingAnchors className => Html.IsSingleLine className
  | headingIds => True
  | images _ => True
  | diagrams => True

/-- Every pass keeps documents settled whose headings are named. -/
theorem BuiltIn.keeps_isSettled {builtIn : BuiltIn} (hline : builtIn.IsSingleLine)
    {isInner : Prop} {isRaw : List Char → Prop} :
    builtIn.Keeps (IsSettled isInner IsNamed isRaw) := by
  cases builtIn with
  | headingIds => exact assignIdMarkup_keeps_isSettled
  | headingAnchors className => exact wrapHeadingMarkup_keeps_isSettled hline
  | images size => exact adjustImageMarkup_keeps_isSettled size
  | diagrams => exact replaceDiagramMarkup_keeps_isSettled

/-! ### Identifiers -/

/-- The identifier of a node that is a heading. -/
def carriedId? : Kind → Option (List Char)
  | .element tag attrs => if (headingLevel? tag).isSome then attrs.get? .id else none
  | _ => none

/-- The identifiers of the headings in trees, in order. -/
def carriedIds (trees : List Markup) : List (List Char) :=
  (Markup.subtreesAll trees).filterMap (carriedId? ·.kind)

section Identifiers

variable {isInner : Prop} {isRaw : List Char → Prop}

theorem carriedIds_append (trees others : List Markup) :
    carriedIds (trees ++ others) = carriedIds trees ++ carriedIds others := by
  simp [carriedIds]

theorem carriedIds_singleton (kind : Kind) (inner : List Markup) :
    carriedIds [.node kind inner] = (carriedId? kind).toList ++ carriedIds inner := by
  cases hid : carriedId? kind <;>
    simp [carriedIds, Markup.subtreesAll, Markup.subtrees, Markup.kind, hid]

theorem carriedId?_of_headingMarkup? {tree : Markup} (h : headingMarkup? tree = none) :
    carriedId? tree.kind = none := by
  obtain ⟨kind, inner⟩ := tree
  cases kind with
  | element tag attrs =>
    have htag : (headingLevel? tag).isSome = false := by simpa [headingMarkup?] using h
    simp [carriedId?, Markup.kind, htag]
  | _ => rfl

theorem carriedIds_of_isPlain {trees : List Markup} (h : Markup.All (IsPlain isInner) trees) :
    carriedIds trees = [] :=
  List.filterMap_eq_nil_iff.2 fun tree htree ↦
    carriedId?_of_headingMarkup? (h tree htree).not_heading

/-- A slugger has handed out names since another state of it, none of them twice. -/
structure Hands (before after : Slugger) (ids : List (List Char)) : Prop where
  used : after.used = ids.reverse ++ before.used
  nodup : before.used.Nodup → after.used.Nodup

theorem Hands.nil (slugger : Slugger) : Hands slugger slugger [] := ⟨rfl, id⟩

theorem Hands.append {first second third : Slugger} {ids others : List (List Char)}
    (h : Hands first second ids) (h' : Hands second third others) :
    Hands first third (ids ++ others) :=
  ⟨by rw [h'.used, h.used, List.reverse_append, List.append_assoc], h'.nodup ∘ h.nodup⟩

theorem Hands.nextId (slugger : Slugger) (text : List Char) :
    Hands slugger (slugger.nextId text).1 [(slugger.nextId text).2] :=
  ⟨rfl, fun hnodup ↦ List.nodup_cons.2 ⟨Slugger.nameFor_notMem slugger (headingId text), hnodup⟩⟩

mutual

/-- The identifiers that headings get are names that the slugger hands out. -/
theorem hands_tree : ∀ (top : Markup) (state : Slugger × Diagnostics),
    Markup.All (IsSettled isInner (· = .empty) isRaw) [top] →
      Hands state.1 (assignIdMarkup.tree state top).1.1
        (carriedIds [(assignIdMarkup.tree state top).2])
  | .node kind inner, state, h => by
    have hbelow := hands_trees inner state (Markup.All.singleton.1 h).2
    rw [Rewrite.tree]
    cases hrewrite : assignIdMarkup state (.node kind inner) with
    | none =>
      have hnone : carriedId? kind = none :=
        carriedId?_of_headingMarkup? (headingMarkup?_of_assignIdMarkup hrewrite)
      rw [carriedIds_singleton, hnone]
      exact hbelow
    | some result =>
      obtain ⟨tag, inner', htag, hinner, rfl⟩ := assignIdMarkup_of_empty hrewrite h
      rw [carriedIds_singleton, carriedIds_of_isPlain hinner]
      simpa [carriedId?, htag] using Hands.nextId state.1 _

theorem hands_trees : ∀ (tops : List Markup) (state : Slugger × Diagnostics),
    Markup.All (IsSettled isInner (· = .empty) isRaw) tops →
      Hands state.1 (assignIdMarkup.trees state tops).1.1
        (carriedIds (assignIdMarkup.trees state tops).2)
  | [], state, _ => .nil state.1
  | top :: rest, state, h => by
    rw [Markup.All.cons, ← Markup.All.singleton] at h
    have htop := hands_tree top state h.1
    have hrest := hands_trees rest (assignIdMarkup.tree state top).1 h.2
    have hboth := htop.append hrest
    rw [← carriedIds_append, List.singleton_append] at hboth
    exact hboth

end

/-- No two headings get the same identifier. -/
theorem nodup_carriedIds (diagnostics : Diagnostics) {trees : List Markup}
    (h : Markup.All (IsSettled isInner (· = .empty) isRaw) trees) :
    (carriedIds (BuiltIn.headingIds.rewrite diagnostics trees).2).Nodup := by
  have hhands := hands_trees trees (.empty, diagnostics) h
  have hnodup := hhands.nodup List.nodup_nil
  rw [hhands.used, List.nodup_append] at hnodup
  exact List.nodup_reverse.1 hnodup.1

theorem wrapHeadingMarkup_carriedIds {className : List Char} {state : Unit × Diagnostics}
    {tree : Markup} {result : (Unit × Diagnostics) × Markup}
    (h : wrapHeadingMarkup className state tree = some result) :
    carriedIds [result.2] = carriedIds [tree] := by
  obtain ⟨tag, attrs, inner, rfl, -, rfl | ⟨id, -, rfl⟩⟩ := wrapHeadingMarkup_eq_some h
  · rfl
  · simp [carriedIds_singleton, carriedId?, headingLevel?]

theorem adjustImageMarkup_carriedIds {size : ImageSize} {state : Unit × Diagnostics}
    {tree : Markup} {result : (Unit × Diagnostics) × Markup}
    (h : adjustImageMarkup size state tree = some result) :
    carriedIds [result.2] = carriedIds [tree] := by
  obtain ⟨attrs, inner, rfl, ⟨-, rfl⟩ | ⟨src, -, rfl⟩⟩ := adjustImageMarkup_eq_some h
  · simp [carriedIds_singleton, carriedId?, headingLevel?]
  · simp [carriedIds_singleton, carriedId?, headingLevel?]

theorem replaceDiagramMarkup_carriedIds {state : Unit × Diagnostics} {tree : Markup}
    {result : (Unit × Diagnostics) × Markup} (h : replaceDiagramMarkup state tree = some result) :
    (carriedIds [result.2]).Sublist (carriedIds [tree]) := by
  obtain ⟨attrs, inner, rfl, rfl | ⟨source, -, rfl⟩⟩ := replaceDiagramMarkup_eq_some h
  · exact .refl _
  · have hplain : Markup.All (IsPlain False) [placeholderMarkup source] :=
      placeholderMarkup_isPlain False.elim
    rw [carriedIds_of_isPlain hplain]
    exact List.nil_sublist _

theorem carriedIds_trees {σ : Type} (rewrite : Rewrite σ) {good : Markup → Prop}
    (h : ∀ state tree result, rewrite state tree = some result → Markup.All good [tree] →
      (carriedIds [result.2]).Sublist (carriedIds [tree])) (state : σ) {trees : List Markup}
    (hgood : Markup.All good trees) :
    (carriedIds (rewrite.trees state trees).2).Sublist (carriedIds trees) :=
  Rewrite.trees_sublist carriedId? h trees state hgood

/-- No pass changes the identifier of a heading that has one, or moves a heading. -/
theorem BuiltIn.carriedIds_rewrite (builtIn : BuiltIn) (diagnostics : Diagnostics)
    {trees : List Markup} (h : Markup.All (IsSettled isInner IsNamed isRaw) trees) :
    (carriedIds (builtIn.rewrite diagnostics trees).2).Sublist (carriedIds trees) := by
  cases builtIn with
  | headingIds =>
    refine carriedIds_trees assignIdMarkup (fun state tree result hresult htree ↦ ?_) _ h
    rw [assignIdMarkup_of_isNamed hresult htree]
  | headingAnchors className =>
    refine carriedIds_trees (wrapHeadingMarkup className) (fun state tree result hresult _ ↦ ?_) _ h
    rw [wrapHeadingMarkup_carriedIds hresult]
  | images size =>
    refine carriedIds_trees (adjustImageMarkup size) (fun state tree result hresult _ ↦ ?_) _ h
    rw [adjustImageMarkup_carriedIds hresult]
  | diagrams =>
    exact carriedIds_trees _ (fun _ _ _ hresult _ ↦ replaceDiagramMarkup_carriedIds hresult) _ h

/-- After identifiers are given, passes keep a document settled and its identifiers distinct. -/
theorem settled_rewriteAll {builtIns : List BuiltIn}
    (hlines : ∀ builtIn ∈ builtIns, builtIn.IsSingleLine) (diagnostics : Diagnostics)
    {trees : List Markup} (h : Markup.All (IsSettled isInner IsNamed isRaw) trees)
    (hnodup : (carriedIds trees).Nodup) :
    let after := (BuiltIn.rewriteAll builtIns diagnostics trees).2
    Markup.All (IsSettled isInner IsNamed isRaw) after ∧ (carriedIds after).Nodup := by
  induction builtIns generalizing diagnostics trees with
  | nil => exact ⟨h, hnodup⟩
  | cons builtIn rest ih =>
    have hkept := (BuiltIn.keeps_isSettled (hlines builtIn (by simp))).rewrite diagnostics h
    exact ih (fun other hother ↦ hlines other (by simp [hother])) _ hkept
      (hnodup.sublist (builtIn.carriedIds_rewrite diagnostics h))

end Identifiers

end Galley.Enrich
