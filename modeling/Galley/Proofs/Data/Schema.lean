import Mathlib
import Galley.Data.Schema

/-!
Records and what is read of them. The fields of a record are in the order of their names
(`Data.isSorted_ofFields`), so that no name occurs twice. Where each field of a structure has a
single name, such a record is read field by field (`Schema.readRecord_eq_foldlM`), and a part of the
structure that one field sets depends on the value of that field only
(`Schema.Reads.of_foldlM`). Fields that the structure does not have are passed over
(`Schema.readRecord_filter`).
-/

set_option autoImplicit false
set_option relaxedAutoImplicit false

namespace Galley

/-! ### Records -/

namespace Data

variable {fields : List (List Char × Data)}

theorem lookup_eq_none {name : List Char} (h : name ∉ fields.map Prod.fst) :
    fields.lookup name = none := by
  rw [List.lookup_eq_none_iff]
  intro other hother
  simpa using fun heq : name = other.1 ↦ h (List.mem_map.2 ⟨other, hother, heq.symm⟩)

theorem lookup_cons_of_ne {name first : List Char} (h : name ≠ first) (d : Data) :
    List.lookup name ((first, d) :: fields) = fields.lookup name := by
  rw [List.lookup_cons, beq_false_of_ne h]

/-- A name that occurs once leads to its field. -/
theorem lookup_of_mem (hnames : (fields.map Prod.fst).Nodup) {field : List Char × Data}
    (h : field ∈ fields) : fields.lookup field.1 = some field.2 := by
  induction fields with
  | nil => cases h
  | cons first rest ih =>
    obtain ⟨hnew, hnames⟩ := List.nodup_cons.1 hnames
    rcases List.mem_cons.1 h with rfl | hrest
    · exact List.lookup_cons_self
    · have hne : field.1 ≠ first.1 := fun heq ↦ hnew (List.mem_map.2 ⟨field, hrest, heq⟩)
      rw [lookup_cons_of_ne hne]
      exact ih hnames hrest

/-- The names of fields come one after the other, and none comes twice. -/
def IsSorted (fields : List (List Char × Data)) : Prop :=
  (fields.map Prod.fst).Pairwise (· < ·)

theorem IsSorted.nodup (h : IsSorted fields) : (fields.map Prod.fst).Nodup :=
  h.imp fun hlt ↦ ne_of_lt hlt

theorem mem_map_putField {name other : List Char} {value : Data}
    (h : other ∈ (putField name value fields).map Prod.fst) :
    other = name ∨ other ∈ fields.map Prod.fst := by
  induction fields with
  | nil => simpa [putField] using h
  | cons field rest ih =>
    rw [putField] at h
    split_ifs at h with heq hlt
    · exact (List.mem_cons.1 h).imp_right fun hrest ↦ List.mem_cons_of_mem _ hrest
    · exact List.mem_cons.1 h
    · rcases List.mem_cons.1 h with rfl | hrest
      · exact .inr (List.mem_cons_self ..)
      · exact (ih hrest).imp_right fun hrest ↦ List.mem_cons_of_mem _ hrest

theorem isSorted_putField (h : IsSorted fields) (name : List Char) (value : Data) :
    IsSorted (putField name value fields) := by
  induction fields with
  | nil => exact List.pairwise_singleton _ _
  | cons field rest ih =>
    obtain ⟨hfirst, hrest⟩ := List.pairwise_cons.1 h
    rw [putField]
    split_ifs with heq hlt
    · rw [IsSorted, List.map_cons, heq]
      exact h
    · exact List.pairwise_cons.2
        ⟨List.forall_mem_cons.2 ⟨hlt, fun other hother ↦ hlt.trans (hfirst other hother)⟩, h⟩
    · refine List.pairwise_cons.2 ⟨fun other hother ↦ ?_, ih hrest⟩
      rcases mem_map_putField hother with rfl | hother
      · exact lt_of_le_of_ne (not_lt.1 hlt) (Ne.symm heq)
      · exact hfirst other hother

/-- A record of fields in any order is sorted by their names. -/
theorem isSorted_ofFields (entries : List (List Char × Data)) :
    ∃ fields, ofFields entries = .record fields ∧ IsSorted fields := by
  refine ⟨_, rfl, ?_⟩
  have hfold (done : List (List Char × Data)) (h : IsSorted done) :
      IsSorted (entries.foldl (fun done field ↦ putField field.1 field.2 done) done) := by
    induction entries generalizing done with
    | nil => exact h
    | cons entry rest ih => exact ih _ (isSorted_putField h entry.1 entry.2)
  exact hfold [] .nil

end Data

/-! ### Reading -/

/-- A field leaves a part of a structure alone. -/
def Field.Keeps {σ α : Type} (field : Field σ) (part : σ → α) : Prop :=
  ∀ s d next, field.read s d = .ok next → part next = part s

theorem Field.keeps_of {σ α β : Type} {part : σ → α} {names : List String}
    {value : Data → Except Misfit β} {set : σ → β → σ} (h : ∀ s b, part (set s b) = part s) :
    (Field.of names value set).Keeps part := by
  intro s d next hread
  change (value d).map (set s) = .ok next at hread
  cases hd : value d with
  | error misfit =>
    rw [hd] at hread
    cases hread
  | ok b =>
    rw [hd] at hread
    rw [← Except.ok.inj hread]
    exact h s b

/-- What a field sets is the value that it reads. -/
theorem Field.map_of {σ α : Type} {part : σ → α} {names : List String}
    {value : Data → Except Misfit α} {set : σ → α → σ} (h : ∀ s a, part (set s a) = a) (s : σ)
    (d : Data) : ((Field.of names value set).read s d).map part = value d := by
  change ((value d).map (set s)).map part = value d
  cases value d with
  | error misfit => rfl
  | ok a => exact congrArg Except.ok (h s a)

namespace Schema

variable {σ α : Type} {schema : Schema σ} {fields : List (List Char × Data)}

/-- Whether a structure has a field of a name. -/
def isKnown (schema : Schema σ) (name : List Char) : Bool :=
  (schema.fields.find? (·.hasName name)).isSome

/-- Reads a single field; one that the structure does not have is passed. -/
def readField (schema : Schema σ) (s : σ) (field : List Char × Data) : Except Misfit σ :=
  match schema.fields.find? (·.hasName field.1) with
  | none => .ok s
  | some known => known.read s field.2

/-- Fields that a structure does not have make no difference. -/
theorem readRecord_filter (schema : Schema σ) (seen : List (List Char)) (s : σ)
    (fields : List (List Char × Data)) : schema.readRecord seen s fields =
      schema.readRecord seen s (fields.filter fun field ↦ schema.isKnown field.1) := by
  induction fields generalizing seen s with
  | nil => rfl
  | cons field rest ih =>
    rw [readRecord]
    cases hfind : schema.fields.find? (·.hasName field.1) with
    | none => rw [List.filter_cons_of_neg (by simp [isKnown, hfind]), ← ih]
    | some known =>
      rw [List.filter_cons_of_pos (by simp [isKnown, hfind]), readRecord, hfind]
      dsimp only
      split_ifs
      · rfl
      · cases known.read s field.2 with
        | ok next => exact ih _ next
        | error misfit => rfl

/-- Each field has a single name. -/
def HasSingleNames (schema : Schema σ) : Prop := ∀ known ∈ schema.fields, known.others = []

theorem HasSingleNames.name_eq (h : schema.HasSingleNames) {name : List Char} {known : Field σ}
    (hfind : schema.fields.find? (·.hasName name) = some known) : known.name = name := by
  have hname := List.find?_some hfind
  rw [Field.hasName, h known (List.mem_of_find?_eq_some hfind)] at hname
  simpa using hname

/-- A structure has the fields whose names are listed. -/
theorem HasSingleNames.isKnown_iff (h : schema.HasSingleNames) {name : List Char} :
    schema.isKnown name = true ↔ name ∈ schema.fields.map (·.name) := by
  rw [isKnown, List.find?_isSome, List.mem_map]
  refine exists_congr fun known ↦ and_congr_right fun hknown ↦ ?_
  rw [Field.hasName, h known hknown]
  simp

theorem readField_of_not_isKnown {name : List Char} (h : schema.isKnown name = false) (s : σ)
    (d : Data) : schema.readField s (name, d) = .ok s := by
  rw [isKnown, Option.isSome_eq_false_iff, Option.isNone_iff_eq_none] at h
  rw [readField, h]

/-- A record in which no name occurs twice is read field by field. -/
theorem readRecord_eq_foldlM (h : schema.HasSingleNames) (hnames : (fields.map Prod.fst).Nodup)
    {seen : List (List Char)} (hseen : ∀ name ∈ seen, name ∉ fields.map Prod.fst) (s : σ) :
    schema.readRecord seen s fields = fields.foldlM schema.readField s := by
  induction fields generalizing seen s with
  | nil => rfl
  | cons field rest ih =>
    obtain ⟨hnew, hnames⟩ := List.nodup_cons.1 hnames
    have hlater : ∀ name ∈ seen, name ∉ rest.map Prod.fst := fun name hname hmem ↦
      hseen name hname (List.mem_cons_of_mem _ hmem)
    rw [readRecord, List.foldlM_cons, readField]
    cases hfind : schema.fields.find? (·.hasName field.1) with
    | none => exact ih hnames hlater s
    | some known =>
      have hfirst : known.name ∉ seen := h.name_eq hfind ▸ fun hmem ↦
        hseen _ hmem (List.mem_cons_self ..)
      simp only [List.contains_eq_mem, hfirst, decide_false, Bool.false_eq_true, ↓reduceIte]
      cases known.read s field.2 with
      | error misfit => rfl
      | ok next =>
        refine ih hnames (List.forall_mem_cons.2 ⟨?_, hlater⟩) next
        rw [h.name_eq hfind]
        exact hnew

/-- Reading succeeds if that of each field does, whatever was read before. -/
theorem exists_of_foldlM {f : σ → List Char × Data → Except Misfit σ}
    (h : ∀ field ∈ fields, ∀ s, ∃ next, f s field = .ok next) (s : σ) :
    ∃ last, fields.foldlM f s = .ok last := by
  induction fields generalizing s with
  | nil => exact ⟨s, rfl⟩
  | cons field rest ih =>
    obtain ⟨next, hnext⟩ := h field (List.mem_cons_self ..) s
    rw [List.foldlM_cons, hnext]
    exact ih (fun field hfield ↦ h field (List.mem_cons_of_mem _ hfield)) next

/-- The field of one name sets a part of a structure, and no other field does. -/
structure Reads (schema : Schema σ) (name : List Char) (value : Data → Except Misfit α)
    (part : σ → α) : Prop where
  own : ∀ s d, (schema.readField s (name, d)).map part = value d
  others : ∀ s next field, field.1 ≠ name → schema.readField s field = .ok next →
    part next = part s

/-- A part that the field of a name sets and the other fields leave alone. -/
theorem HasSingleNames.reads (h : schema.HasSingleNames) {name : List Char} {own : Field σ}
    {value : Data → Except Misfit α} {part : σ → α}
    (hfind : schema.fields.find? (·.hasName name) = some own)
    (hown : ∀ s d, (own.read s d).map part = value d)
    (hothers : ∀ known ∈ schema.fields, known.name = name ∨ known.Keeps part) :
    schema.Reads name value part where
  own s d := by
    rw [readField, hfind]
    exact hown s d
  others s next field hne hread := by
    rw [readField] at hread
    cases hfind : schema.fields.find? (·.hasName field.1) with
    | none =>
      rw [hfind] at hread
      obtain rfl : s = next := Except.ok.inj hread
      rfl
    | some known =>
      rw [hfind] at hread
      rcases hothers known (List.mem_of_find?_eq_some hfind) with hname | hkeeps
      · exact absurd ((h.name_eq hfind).symm.trans hname) hne
      · exact hkeeps s field.2 next hread

/-- A field whose value can be read is read, whatever was read before. -/
theorem Reads.exists_readField {name : List Char} {value : Data → Except Misfit α} {part : σ → α}
    (h : schema.Reads name value part) {d : Data} {a : α} (hd : value d = .ok a) (s : σ) :
    ∃ next, schema.readField s (name, d) = .ok next := by
  have hown := (h.own s d).trans hd
  cases hread : schema.readField s (name, d) with
  | ok next => exact ⟨next, rfl⟩
  | error misfit =>
    rw [hread] at hown
    cases hown

/-- What is read of a part is what its field says, or what was there before if there is none. -/
theorem Reads.of_foldlM {name : List Char} {value : Data → Except Misfit α} {part : σ → α}
    (h : schema.Reads name value part) (hnames : (fields.map Prod.fst).Nodup) {s last : σ}
    (hread : fields.foldlM schema.readField s = .ok last) :
    (fields.lookup name).elim (.ok (part s)) value = .ok (part last) := by
  induction fields generalizing s with
  | nil =>
    obtain rfl : s = last := Except.ok.inj hread
    rfl
  | cons field rest ih =>
    obtain ⟨hnew, hnames⟩ := List.nodup_cons.1 hnames
    rw [List.foldlM_cons] at hread
    cases hfirst : schema.readField s field with
    | error misfit =>
      rw [hfirst] at hread
      cases hread
    | ok next =>
      rw [hfirst] at hread
      have hrest := ih hnames hread
      obtain ⟨first, d⟩ := field
      by_cases hname : first = name
      · subst hname
        have hown := h.own s d
        rw [hfirst] at hown
        rw [Data.lookup_eq_none hnew, Option.elim_none] at hrest
        rw [List.lookup_cons_self, Option.elim_some, ← hown, ← hrest]
        rfl
      · rw [h.others s next _ hname hfirst] at hrest
        rw [Data.lookup_cons_of_ne (Ne.symm hname)]
        exact hrest

end Schema

end Galley
