import Galley.Metadata.FrontMatter
import Galley.Proofs.Data.Schema

/-!
Which metadata is read, and what is read of it. The title, the date and the summary are scalars,
and the tags are a list of scalars; each of them may be missing or have no value, and nothing else
in the metadata matters (`frontMatter_reads_scalars`).
-/

set_option autoImplicit false
set_option relaxedAutoImplicit false

namespace Galley

/-! ### Scalars -/

namespace Data

/-- A text, a number or a truth value. -/
def isScalar : Data → Bool
  | .bool _ | .integer _ | .number _ | .text _ => true
  | .null | .list _ | .record _ => false

/-- A scalar as a text. -/
inductive ScalarText : Data → List Char → Prop
  | bool (value : Bool) : ScalarText (.bool value) (boolText value)
  | integer (value : Int) : ScalarText (.integer value) (Decimal.writeInt value)
  | number (value : Decimal.Double) : ScalarText (.number value) value.scientific
  | text (value : List Char) : ScalarText (.text value) value

theorem exists_scalarText_iff {d : Data} : (∃ text, ScalarText d text) ↔ d.isScalar = true := by
  constructor
  · rintro ⟨text, h⟩
    cases h <;> rfl
  · intro h
    cases d with
    | bool value => exact ⟨_, .bool value⟩
    | integer value => exact ⟨_, .integer value⟩
    | number value => exact ⟨_, .number value⟩
    | text value => exact ⟨_, .text value⟩
    | null => cases h
    | list => cases h
    | record => cases h

theorem exists_scalarTexts_iff {items : List Data} :
    (∃ texts, List.Forall₂ ScalarText items texts) ↔ ∀ item ∈ items, item.isScalar = true := by
  induction items with
  | nil => simp
  | cons item rest ih =>
    rw [List.forall_mem_cons, ← exists_scalarText_iff, ← ih]
    constructor
    · rintro ⟨texts, h⟩
      obtain ⟨text, more, hfirst, hrest, -⟩ := List.forall₂_cons_left_iff.1 h
      exact ⟨⟨text, hfirst⟩, more, hrest⟩
    · rintro ⟨⟨text, hfirst⟩, more, hrest⟩
      exact ⟨text :: more, .cons hfirst hrest⟩

end Data

namespace Metadata

variable {fields : List (List Char × Data)} {matter : FrontMatter}

/-! ### Scalars as texts -/

theorem asText_asTexts_iff {d : Data} {text : List Char} :
    (asTexts d).asText = .ok text ↔ d.ScalarText text := by
  constructor
  · intro h
    cases d <;> cases h
    · exact .bool _
    · exact .integer _
    · exact .number _
    · exact .text _
  · intro h
    cases h <;> rfl

theorem mapM_asText_iff {items : List Data} {texts : List (List Char)} :
    (itemsAsTexts items).mapM Data.asText = .ok texts ↔
      List.Forall₂ Data.ScalarText items texts := by
  induction items generalizing texts with
  | nil =>
    rw [List.forall₂_nil_left_iff]
    exact ⟨fun h ↦ (Except.ok.inj h).symm, fun h ↦ h ▸ rfl⟩
  | cons item rest ih =>
    rw [itemsAsTexts, List.mapM_cons, List.forall₂_cons_left_iff]
    simp only [← asText_asTexts_iff, ← ih]
    cases (asTexts item).asText with
    | error misfit => exact iff_of_false nofun fun ⟨_, _, h, _⟩ ↦ nomatch h
    | ok text =>
      cases (itemsAsTexts rest).mapM Data.asText with
      | error misfit => exact iff_of_false nofun fun ⟨_, _, _, h, _⟩ ↦ nomatch h
      | ok more =>
        constructor
        · intro h
          exact ⟨text, more, rfl, rfl, (Except.ok.inj h).symm⟩
        · rintro ⟨_, _, htext, hmore, rfl⟩
          cases htext
          cases hmore
          rfl

/-! ### Fields -/

/-- The text of a field: that of a scalar, and none if there is no field or no value. -/
inductive GivesText : Option Data → List Char → Prop
  | missing : GivesText none []
  | null : GivesText (some .null) []
  | scalar {d : Data} {text : List Char} (h : d.ScalarText text) : GivesText (some d) text

/-- The texts of a field: those of the scalars in a list, and none if there is no field or no
value. -/
inductive GivesTexts : Option Data → List (List Char) → Prop
  | missing : GivesTexts none []
  | null : GivesTexts (some .null) []
  | list {items : List Data} {texts : List (List Char)}
    (h : List.Forall₂ Data.ScalarText items texts) : GivesTexts (some (.list items)) texts

theorem exists_givesText_iff {d? : Option Data} :
    (∃ text, GivesText d? text) ↔ ∀ d, d? = some d → d = .null ∨ d.isScalar = true := by
  constructor
  · rintro ⟨text, h⟩ d rfl
    cases h with
    | null => exact .inl rfl
    | scalar h => exact .inr (Data.exists_scalarText_iff.1 ⟨text, h⟩)
  · intro h
    cases d? with
    | none => exact ⟨[], .missing⟩
    | some d =>
      rcases h d rfl with rfl | hscalar
      · exact ⟨[], .null⟩
      · obtain ⟨text, htext⟩ := Data.exists_scalarText_iff.2 hscalar
        exact ⟨text, .scalar htext⟩

theorem exists_givesTexts_iff {d? : Option Data} : (∃ texts, GivesTexts d? texts) ↔
    ∀ d, d? = some d → d = .null ∨ ∃ items, d = .list items ∧
      ∀ item ∈ items, item.isScalar = true := by
  constructor
  · rintro ⟨texts, h⟩ d rfl
    cases h with
    | null => exact .inl rfl
    | list h => exact .inr ⟨_, rfl, Data.exists_scalarTexts_iff.1 ⟨texts, h⟩⟩
  · intro h
    cases d? with
    | none => exact ⟨[], .missing⟩
    | some d =>
      rcases h d rfl with rfl | ⟨items, rfl, hitems⟩
      · exact ⟨[], .null⟩
      · obtain ⟨texts, htexts⟩ := Data.exists_scalarTexts_iff.2 hitems
        exact ⟨texts, .list htexts⟩

theorem cleanFields_cons (name : List Char) (d : Data) (rest : List (List Char × Data)) :
    cleanFields ((name, d) :: rest) =
      if d.isNull = true then cleanFields rest else (name, asTexts d) :: cleanFields rest := by
  cases hnull : d.isNull <;> simp [cleanFields, hnull]

theorem nodup_cleanFields (hnames : (fields.map Prod.fst).Nodup) :
    ((cleanFields fields).map Prod.fst).Nodup := by
  rw [cleanFields, List.map_map]
  exact hnames.sublist (List.filter_sublist.map Prod.fst)

/-- A field whose value is null is left out, and the value of another is made of texts. -/
theorem lookup_cleanFields (hnames : (fields.map Prod.fst).Nodup) (name : List Char) :
    (cleanFields fields).lookup name =
      ((fields.lookup name).filter fun d ↦ !d.isNull).map asTexts := by
  induction fields with
  | nil => rfl
  | cons field rest ih =>
    obtain ⟨first, d⟩ := field
    obtain ⟨hnew, hnames⟩ := List.nodup_cons.1 hnames
    have hrest := ih hnames
    by_cases hname : name = first
    · subst hname
      rw [Data.lookup_eq_none hnew] at hrest
      rw [List.lookup_cons_self, cleanFields_cons]
      split_ifs with hnull
      · simp [hrest, hnull]
      · simp [hnull]
    · rw [Data.lookup_cons_of_ne hname, ← hrest, cleanFields_cons]
      split_ifs
      · rfl
      · exact Data.lookup_cons_of_ne hname _

/-! ### Metadata -/

/-- The names of the fields that metadata is read from. -/
def matterNames : List (List Char) :=
  ["title".toList, "date".toList, "tags".toList, "summary".toList]

theorem FrontMatter.schema_hasSingleNames : FrontMatter.schema.HasSingleNames := by
  simp [Schema.HasSingleNames, FrontMatter.schema, Field.of]

theorem isKnown_iff {name : List Char} :
    FrontMatter.schema.isKnown name = true ↔ name ∈ matterNames :=
  FrontMatter.schema_hasSingleNames.isKnown_iff

theorem reads_title : FrontMatter.schema.Reads "title".toList Data.asText (·.title) := by
  refine FrontMatter.schema_hasSingleNames.reads rfl (Field.map_of fun _ _ ↦ rfl) ?_
  simp only [FrontMatter.schema, List.forall_mem_cons]
  exact ⟨.inl rfl, .inr (Field.keeps_of fun _ _ ↦ rfl), .inr (Field.keeps_of fun _ _ ↦ rfl),
    .inr (Field.keeps_of fun _ _ ↦ rfl), nofun⟩

theorem reads_date : FrontMatter.schema.Reads "date".toList Data.asText (·.date) := by
  refine FrontMatter.schema_hasSingleNames.reads rfl (Field.map_of fun _ _ ↦ rfl) ?_
  simp only [FrontMatter.schema, List.forall_mem_cons]
  exact ⟨.inr (Field.keeps_of fun _ _ ↦ rfl), .inl rfl, .inr (Field.keeps_of fun _ _ ↦ rfl),
    .inr (Field.keeps_of fun _ _ ↦ rfl), nofun⟩

theorem reads_tags : FrontMatter.schema.Reads "tags".toList Data.asTexts (·.tags) := by
  refine FrontMatter.schema_hasSingleNames.reads rfl (Field.map_of fun _ _ ↦ rfl) ?_
  simp only [FrontMatter.schema, List.forall_mem_cons]
  exact ⟨.inr (Field.keeps_of fun _ _ ↦ rfl), .inr (Field.keeps_of fun _ _ ↦ rfl), .inl rfl,
    .inr (Field.keeps_of fun _ _ ↦ rfl), nofun⟩

theorem reads_summary : FrontMatter.schema.Reads "summary".toList Data.asText (·.summary) := by
  refine FrontMatter.schema_hasSingleNames.reads rfl (Field.map_of fun _ _ ↦ rfl) ?_
  simp only [FrontMatter.schema, List.forall_mem_cons]
  exact ⟨.inr (Field.keeps_of fun _ _ ↦ rfl), .inr (Field.keeps_of fun _ _ ↦ rfl),
    .inr (Field.keeps_of fun _ _ ↦ rfl), .inl rfl, nofun⟩

theorem frontMatter_eq_foldlM (hnames : (fields.map Prod.fst).Nodup) :
    frontMatter fields = .ok matter ↔
      fields.foldlM FrontMatter.schema.readField {} = .ok matter := by
  have hread : FrontMatter.schema.read (.record fields) =
      fields.foldlM FrontMatter.schema.readField {} :=
    Schema.readRecord_eq_foldlM FrontMatter.schema_hasSingleNames hnames
      (List.forall_mem_nil _) {}
  rw [frontMatter, hread]
  cases fields.foldlM FrontMatter.schema.readField {} with
  | ok m => simp
  | error misfit => exact iff_of_false nofun nofun

/-- Metadata is read if its four fields are, and it is what they say. -/
theorem frontMatter_eq_ok_iff (hnames : (fields.map Prod.fst).Nodup) :
    frontMatter fields = .ok matter ↔
      (fields.lookup "title".toList).elim (.ok []) Data.asText = .ok matter.title ∧
      (fields.lookup "date".toList).elim (.ok []) Data.asText = .ok matter.date ∧
      (fields.lookup "tags".toList).elim (.ok []) Data.asTexts = .ok matter.tags ∧
      (fields.lookup "summary".toList).elim (.ok []) Data.asText = .ok matter.summary := by
  have hparts {m : FrontMatter} (h : fields.foldlM FrontMatter.schema.readField {} = .ok m) :=
    And.intro (reads_title.of_foldlM hnames h) (And.intro (reads_date.of_foldlM hnames h)
      (And.intro (reads_tags.of_foldlM hnames h) (reads_summary.of_foldlM hnames h)))
  rw [frontMatter_eq_foldlM hnames]
  refine ⟨hparts, fun ⟨htitle, hdate, htags, hsummary⟩ ↦ ?_⟩
  have hfields : ∀ field ∈ fields, ∀ m,
      ∃ next, FrontMatter.schema.readField m field = .ok next := by
    rintro ⟨name, d⟩ hfield m
    have hlookup : fields.lookup name = some d := Data.lookup_of_mem hnames hfield
    by_cases hname : name ∈ matterNames
    · simp only [matterNames, List.mem_cons, List.not_mem_nil, or_false] at hname
      obtain rfl | rfl | rfl | rfl := hname
      · exact reads_title.exists_readField (hlookup ▸ htitle) m
      · exact reads_date.exists_readField (hlookup ▸ hdate) m
      · exact reads_tags.exists_readField (hlookup ▸ htags) m
      · exact reads_summary.exists_readField (hlookup ▸ hsummary) m
    · have hknown := Bool.eq_false_iff.2 (isKnown_iff.not.2 hname)
      exact ⟨m, Schema.readField_of_not_isKnown hknown m d⟩
  obtain ⟨last, hlast⟩ := Schema.exists_of_foldlM hfields {}
  obtain ⟨htitle', hdate', htags', hsummary'⟩ := hparts hlast
  rw [hlast]
  cases last
  cases matter
  rw [Except.ok.injEq, FrontMatter.mk.injEq]
  exact ⟨Except.ok.inj (htitle'.symm.trans htitle), Except.ok.inj (hdate'.symm.trans hdate),
    Except.ok.inj (htags'.symm.trans htags), Except.ok.inj (hsummary'.symm.trans hsummary)⟩

theorem readsText_iff (hnames : (fields.map Prod.fst).Nodup) {name text : List Char} :
    ((cleanFields fields).lookup name).elim (.ok []) Data.asText = .ok text ↔
      GivesText (fields.lookup name) text := by
  rw [lookup_cleanFields hnames]
  cases fields.lookup name with
  | none =>
    refine ⟨fun h ↦ ?_, fun h ↦ by cases h; rfl⟩
    obtain rfl : [] = text := Except.ok.inj h
    exact .missing
  | some d =>
    cases hnull : d.isNull with
    | true =>
      cases d <;> cases hnull
      refine ⟨fun h ↦ ?_, fun h ↦ ?_⟩
      · obtain rfl : [] = text := Except.ok.inj h
        exact .null
      · cases h with
        | null => rfl
        | scalar h => cases h
    | false =>
      rw [Option.filter_some, hnull]
      change (asTexts d).asText = _ ↔ _
      rw [asText_asTexts_iff]
      refine ⟨.scalar, fun h ↦ ?_⟩
      cases h with
      | null => cases hnull
      | scalar h => exact h

theorem readsTexts_iff (hnames : (fields.map Prod.fst).Nodup) {name : List Char}
    {texts : List (List Char)} :
    ((cleanFields fields).lookup name).elim (.ok []) Data.asTexts = .ok texts ↔
      GivesTexts (fields.lookup name) texts := by
  rw [lookup_cleanFields hnames]
  cases fields.lookup name with
  | none =>
    refine ⟨fun h ↦ ?_, fun h ↦ by cases h; rfl⟩
    obtain rfl : [] = texts := Except.ok.inj h
    exact .missing
  | some d =>
    cases d with
    | null =>
      refine ⟨fun h ↦ ?_, fun h ↦ by cases h; rfl⟩
      obtain rfl : [] = texts := Except.ok.inj h
      exact .null
    | list items =>
      change (itemsAsTexts items).mapM Data.asText = _ ↔ _
      rw [mapM_asText_iff]
      refine ⟨.list, fun h ↦ ?_⟩
      cases h
      assumption
    | bool | integer | number | text | record => exact iff_of_false nofun nofun

/-- In the record that a value stands for no name occurs twice. -/
theorem nodup_of_dataOf {value : Yaml.Value} (h : dataOf value = .ok (.record fields)) :
    (fields.map Prod.fst).Nodup := by
  cases value with
  | null => cases h
  | bool => cases h
  | integer => cases h
  | number d =>
    rw [dataOf] at h
    split_ifs at h <;> cases h
  | text => cases h
  | sequence items =>
    rw [dataOf] at h
    cases hitems : dataOfItems items <;> rw [hitems] at h <;> cases h
  | mapping entries =>
    rw [dataOf] at h
    cases hentries : dataOfEntries entries with
    | error fault =>
      rw [hentries] at h
      cases h
    | ok named =>
      rw [hentries] at h
      obtain ⟨sorted, hsorted, hnames⟩ := Data.isSorted_ofFields named
      obtain rfl : sorted = fields := Data.record.inj (hsorted.symm.trans (Except.ok.inj h))
      exact hnames.nodup
  | tagged tag value =>
    rw [dataOf] at h
    cases hvalue : dataOf value with
    | error fault =>
      rw [hvalue] at h
      cases h
    | ok d =>
      rw [hvalue] at h
      obtain rfl : [(tagName tag, d)] = fields := Data.record.inj (Except.ok.inj h)
      exact List.nodup_singleton _

/-- Fields of other names make no difference. -/
theorem frontMatter_filter (fields : List (List Char × Data)) : frontMatter (cleanFields fields) =
    frontMatter (cleanFields (fields.filter fun field ↦ matterNames.contains field.1)) := by
  have hread (fields : List (List Char × Data)) : FrontMatter.schema.read (.record fields) =
      FrontMatter.schema.read
        (.record (fields.filter fun field ↦ matterNames.contains field.1)) := by
    have hknown : (fun field : List Char × Data ↦ FrontMatter.schema.isKnown field.1) =
        fun field ↦ matterNames.contains field.1 := by
      funext field
      rw [Bool.eq_iff_iff, isKnown_iff, List.contains_iff_mem]
    have hfilter := Schema.readRecord_filter FrontMatter.schema [] FrontMatter.schema.default fields
    rwa [hknown] at hfilter
  have hclean : (cleanFields fields).filter (fun field ↦ matterNames.contains field.1) =
      cleanFields (fields.filter fun field ↦ matterNames.contains field.1) := by
    rw [cleanFields, cleanFields, List.filter_map, List.filter_filter, List.filter_filter]
    exact congrArg _ (List.filter_congr fun field _ ↦ Bool.and_comm _ _)
  rw [frontMatter, hread, hclean, frontMatter]

/-- Of the record that a value stands for metadata is read if and only if each of the title, the
date and the summary is missing, null or a scalar, and the tags are missing, null or a list of
scalars. The metadata is what these say, as texts, and no other field makes a difference. -/
theorem frontMatter_reads_scalars {value : Yaml.Value} {fields : List (List Char × Data)}
    (hvalue : dataOf value = .ok (.record fields)) :
    ((∃ matter, fieldsOf (.record fields) >>= frontMatter = .ok matter) ↔
      (∀ name ∈ ["title".toList, "date".toList, "summary".toList], ∀ d,
        fields.lookup name = some d → d = .null ∨ d.isScalar = true) ∧
      ∀ d, fields.lookup "tags".toList = some d → d = .null ∨
        ∃ items, d = .list items ∧ ∀ item ∈ items, item.isScalar = true) ∧
    (∀ matter, fieldsOf (.record fields) >>= frontMatter = .ok matter ↔
      GivesText (fields.lookup "title".toList) matter.title ∧
      GivesText (fields.lookup "date".toList) matter.date ∧
      GivesTexts (fields.lookup "tags".toList) matter.tags ∧
      GivesText (fields.lookup "summary".toList) matter.summary) ∧
    fieldsOf (.record fields) >>= frontMatter =
      fieldsOf (.record (fields.filter fun field ↦ matterNames.contains field.1)) >>=
        frontMatter := by
  have hnames := nodup_of_dataOf hvalue
  have hmatter (matter : FrontMatter) : fieldsOf (.record fields) >>= frontMatter = .ok matter ↔
      GivesText (fields.lookup "title".toList) matter.title ∧
      GivesText (fields.lookup "date".toList) matter.date ∧
      GivesTexts (fields.lookup "tags".toList) matter.tags ∧
      GivesText (fields.lookup "summary".toList) matter.summary := by
    change frontMatter (cleanFields fields) = _ ↔ _
    rw [frontMatter_eq_ok_iff (nodup_cleanFields hnames), readsText_iff hnames,
      readsText_iff hnames, readsTexts_iff hnames, readsText_iff hnames]
  refine ⟨?_, hmatter, frontMatter_filter fields⟩
  simp only [hmatter, List.forall_mem_cons, ← exists_givesText_iff, ← exists_givesTexts_iff]
  constructor
  · rintro ⟨matter, htitle, hdate, htags, hsummary⟩
    exact ⟨⟨⟨_, htitle⟩, ⟨_, hdate⟩, ⟨_, hsummary⟩, nofun⟩, _, htags⟩
  · rintro ⟨⟨⟨title, htitle⟩, ⟨date, hdate⟩, ⟨summary, hsummary⟩, -⟩, tags, htags⟩
    exact ⟨⟨title, date, tags, summary⟩, htitle, hdate, htags, hsummary⟩

/-- A title that is a number, a summary without a value, tags of several kinds, and a field of
another name. -/
def mixedMatter : Yaml.Value := .mapping [(.text "title".toList, .integer 1984),
  (.text "tags".toList, .sequence [.text ['a'], .bool true, .integer 7]),
  (.text "summary".toList, .null), (.text "extra".toList, .mapping [])]

/-- The record of such metadata. -/
def mixedFields : List (List Char × Data) := [("extra".toList, .record []),
  ("summary".toList, .null), ("tags".toList, .list [.text ['a'], .bool true, .integer 7]),
  ("title".toList, .integer 1984)]

theorem frontMatter_reads_scalars_of_mixedMatter :
    dataOf mixedMatter = .ok (.record mixedFields) ∧
      fieldsOf (.record mixedFields) >>= frontMatter =
        .ok { title := "1984".toList, tags := [['a'], "true".toList, ['7']] } := by
  have hvalue : dataOf mixedMatter = .ok (.record mixedFields) := rfl
  refine ⟨hvalue, ((frontMatter_reads_scalars hvalue).2.1 _).2 ⟨?_, .missing, ?_, .null⟩⟩
  · exact .scalar (.integer 1984)
  · exact .list (.cons (.text _) (.cons (.bool true) (.cons (.integer 7) .nil)))

end Metadata

end Galley
