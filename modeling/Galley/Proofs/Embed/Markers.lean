import Galley.Proofs.Embed.Accounts
import Galley.Proofs.Html.StartTag
import Galley.Proofs.Text.Words

/-!
Markers as they are read. No value that an author gives to a recording ends its quotes: a marker is
read as an empty element with the attributes of the recording and no others
(`Recording.isEmptyDiv_marker`), and only recordings with a good name have one, which is then read
of it (`isNamedMarker_of_mem_rawLeft`).
-/

set_option autoImplicit false
set_option relaxedAutoImplicit false

namespace Galley.Embed

open Html Markdown

/-! ### Names of recordings -/

/-- A name that recordings may have. -/
def IsCastId (name : List Char) : Prop :=
  name ≠ [] ∧ ∀ c ∈ name, Recording.isNameChar c = true

instance (name : List Char) : Decidable (IsCastId name) :=
  decidable_of_iff ((!name.isEmpty && name.all Recording.isNameChar) = true)
    (by simp [IsCastId])

theorem Recording.isCastId_iff {r : Recording} :
    IsCastId r.castId ↔ r.castId.isEmpty = false ∧ r.isValid = true := by
  rw [IsCastId, Recording.isValid, List.all_eq_true, List.isEmpty_eq_false_iff]

/-- The name in a shortcode: what stands before the first colon. -/
def shortcodeName (params : List Char) : List Char := params.takeWhile (· != ':')

@[simp] theorem Recording.castId_ofShortcode (params : List Char) :
    (Recording.ofShortcode params).castId = shortcodeName params := by
  have hfirst := Text.getElem?_zero_splitBy (· == ':') params
  rw [ofShortcode, hfirst]
  rfl

theorem shortcodeMarkup?_eq_some_iff {params markup : List Char} :
    shortcodeMarkup? params = some markup ↔
      IsCastId (shortcodeName params) ∧ markup = (Recording.ofShortcode params).marker := by
  rw [← Recording.castId_ofShortcode, Recording.isCastId_iff, shortcodeMarkup?,
    Option.ite_none_right_eq_some, Bool.and_eq_true, Bool.not_eq_true', Option.some.injEq,
    eq_comm (a := markup)]

theorem eq_of_blockMarkup? {body markup : List Char} (h : blockMarkup? body = some markup) :
    markup = missingNotice ∨
      IsCastId (Recording.ofBlock body).castId ∧ markup = (Recording.ofBlock body).marker := by
  rw [Recording.isCastId_iff]
  simp only [blockMarkup?] at h
  split_ifs at h with hname hvalid
  · exact .inl (Option.some.inj h).symm
  · exact .inr ⟨⟨by simpa using hname, hvalid⟩, (Option.some.inj h).symm⟩

/-! ### Attributes of markers -/

/-- The keys of the attributes of a marker. -/
def markerKeys : List AttributeKey :=
  [.className, .data .castId, .data .theme, .data .speed, .data .autoPlay, .data .loop,
    .data .cols, .data .rows]

theorem Recording.attributes_hasKeys (r : Recording) : r.attributes.HasKeys markerKeys := by
  have hclass : (Attributes.empty.set .className "asciinema-embed".toList).HasKeys markerKeys :=
    Attributes.HasKeys.empty.set (by decide) _
  unfold Recording.attributes
  exact (((((((hclass.set (by decide) _).setIf (by decide) _).setIf (by decide) _).setIf
    (by decide) _).setIf (by decide) _).setIf (by decide) _).setIf (by decide) _)

theorem Recording.get?_castId (r : Recording) :
    r.attributes.get? (.data .castId) = some r.castId := by
  simp [Recording.attributes, Attributes.get?_setIf_of_ne]

/-- Markup that is read as an empty element with the given attributes and nothing behind it. -/
def IsEmptyDiv (markup : List Char) (attrs : Attributes) : Prop :=
  ∃ tag, readTag? markup = some (tag, endTag "div".toList) ∧ tag.name = "div".toList ∧
    tag.toAttributes = attrs

/-- A marker is read as what its recording says, whatever that is. -/
theorem Recording.isEmptyDiv_marker (r : Recording) : IsEmptyDiv r.marker r.attributes := by
  have hdiv : IsProperName "div".toList := by decide
  have hproper : ∀ key ∈ markerKeys, IsProperName key.name := by decide
  have hplain : ∀ key ∈ markerKeys, key ∈ AttributeKey.known ∧ key.isBoolean = false := by
    decide
  have hread := (readsBack_startTag hdiv fun entry hentry ↦
    hproper _ (r.attributes_hasKeys entry hentry)).read (endTag "div".toList)
  have hattributes := toAttributes_readOf "div".toList fun entry hentry ↦
    hplain _ (r.attributes_hasKeys entry hentry)
  exact ⟨_, hread, rfl, hattributes⟩

/-- Markup that is read as an empty element with a good name of a recording. -/
def IsNamedMarker (markup : List Char) : Prop :=
  ∃ attrs name, IsEmptyDiv markup attrs ∧ attrs.get? (.data .castId) = some name ∧ IsCastId name

theorem Recording.isNamedMarker {r : Recording} (h : IsCastId r.castId) :
    IsNamedMarker r.marker :=
  ⟨r.attributes, r.castId, r.isEmptyDiv_marker, r.get?_castId, h⟩

/-- Raw markup that is left of a leaf was there before, or is the notice that a name is missing, or
is a marker with a good name. -/
theorem isNamedMarker_of_mem_rawLeft {value : Atom} {markup : List Char}
    (h : markup ∈ rawLeft value) :
    value = .html markup ∨ markup = missingNotice ∨ IsNamedMarker markup := by
  cases value with
  | text text =>
    obtain ⟨params, -, hmarkup⟩ := List.mem_filterMap.1 h
    obtain ⟨hname, rfl⟩ := shortcodeMarkup?_eq_some_iff.1 hmarkup
    exact .inr (.inr (Recording.isNamedMarker (by rwa [Recording.castId_ofShortcode])))
  | code language remark body place =>
    cases hleaf : leafMarkup? (.code language remark body place) with
    | none => simp [rawLeft, hleaf, rawOf] at h
    | some markup' =>
      obtain rfl : markup = markup' := by simpa [rawLeft, hleaf] using h
      obtain ⟨block, -, hmarkup⟩ := Option.bind_eq_some_iff.1 hleaf
      rcases eq_of_blockMarkup? hmarkup with hnotice | ⟨hname, rfl⟩
      · exact .inr (.inl hnotice)
      · exact .inr (.inr (Recording.isNamedMarker hname))
  | html own =>
    obtain rfl : markup = own := by simpa [rawLeft, leafMarkup?, block?, rawOf] using h
    exact .inl rfl
  | _ => simp [rawLeft, leafMarkup?, block?, rawOf] at h

/-- No value of an attribute breaks out of its tag. Every tag with proper names is read as what was
written, with no bracket but the one at either end; so every marker is read as the attributes of its
recording. The raw markup of an expanded tree is, leaf by leaf, what the leaves of the tree leave:
raw markup that was there, the notice that a name is missing, or a marker with a good name. -/
theorem tags_read_back :
    (∀ (tag : List Char) (attrs : Attributes), IsProperName tag →
      (attrs.All fun entry ↦ IsProperName entry.1.name) → ReadsBack tag attrs) ∧
    (∀ r : Recording, IsEmptyDiv r.marker r.attributes) ∧
    ∀ (tree : Node) (d : Diagnostics),
      (Node.atomsIn (expand tree d).1.children).flatMap rawOf =
        (Node.atomsIn tree.children).flatMap rawLeft ∧
      ∀ value ∈ Node.atomsIn tree.children, ∀ markup ∈ rawLeft value,
        value = .html markup ∨ markup = missingNotice ∨ IsNamedMarker markup := by
  refine ⟨fun _ _ ↦ readsBack_startTag, Recording.isEmptyDiv_marker, fun tree d ↦ ⟨?_, ?_⟩⟩
  · cases tree with
    | atom value => rfl
    | branch construct children =>
      rw [expand_branch]
      exact flatMap_rawOf_expandedAll children
  · exact fun value _ markup ↦ isNamedMarker_of_mem_rawLeft

/-- A value that looks like the end of its tag, and an attribute without a value. -/
def breakout : Attributes :=
  ⟨[(.other "data-note".toList, "\"><b>&amp;".toList), (.disabled, [])]⟩

theorem tags_read_back_of_breakout :
    IsProperName "x-note".toList ∧ (breakout.All fun entry ↦ IsProperName entry.1.name) ∧
      ReadsBack "x-note".toList breakout ∧
      startTag "x-note".toList breakout =
        "<x-note data-note=\"&quot;&gt;&lt;b&gt;&amp;amp;\" disabled>".toList := by
  have htag : IsProperName "x-note".toList := by decide
  have hattrs : ∀ entry ∈ breakout.entries, IsProperName entry.1.name := by decide
  exact ⟨htag, hattrs, tags_read_back.1 _ _ htag hattrs, by decide⟩

end Galley.Embed
