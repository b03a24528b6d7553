import Mathlib
import Galley.Html.Attributes

/-!
Attributes and their entries: what holds of all entries after each of the operations, given that it
holds before, what is read after a value is set or removed, and which entries an operation leaves
alone (`Attributes.without`).
-/

set_option autoImplicit false
set_option relaxedAutoImplicit false

namespace Galley.Html

/-- A property holds of all entries. -/
def Attributes.All (good : AttributeKey × List Char → Prop) (attrs : Attributes) : Prop :=
  ∀ entry ∈ attrs.entries, good entry

/-- All keys are among the given ones. -/
def Attributes.HasKeys (attrs : Attributes) (keys : List AttributeKey) : Prop :=
  attrs.All fun entry ↦ entry.1 ∈ keys

/-- No key occurs twice. This holds of all attributes that are built by the operations. -/
def Attributes.HasDistinctKeys (attrs : Attributes) : Prop :=
  (attrs.entries.map Prod.fst).Nodup

instance (attrs : Attributes) : Decidable attrs.HasDistinctKeys :=
  inferInstanceAs (Decidable (List.Nodup _))

/-- The entries with other keys than the given ones, in their order. -/
def Attributes.without (attrs : Attributes) (keys : List AttributeKey) :
    List (AttributeKey × List Char) :=
  attrs.entries.filter (·.1 ∉ keys)

theorem mem_setEntry {key : AttributeKey} {value : List Char}
    {entries : List (AttributeKey × List Char)} {entry : AttributeKey × List Char}
    (hmem : entry ∈ setEntry key value entries) : entry = (key, value) ∨ entry ∈ entries := by
  induction entries with
  | nil => exact .inl (by simpa [setEntry] using hmem)
  | cons first rest ih =>
    rw [setEntry] at hmem
    split_ifs at hmem with hkey
    · rcases List.mem_cons.1 hmem with rfl | hmem
      · exact .inl (by rw [hkey])
      · exact .inr (List.mem_cons_of_mem _ hmem)
    · rcases List.mem_cons.1 hmem with rfl | hmem
      · exact .inr (by simp)
      · exact (ih hmem).imp_right (List.mem_cons_of_mem _)

theorem lookup_setEntry_self (key : AttributeKey) (value : List Char)
    (entries : List (AttributeKey × List Char)) :
    (setEntry key value entries).lookup key = some value := by
  induction entries with
  | nil => simp [setEntry]
  | cons first rest ih =>
    obtain ⟨key', value'⟩ := first
    rw [setEntry]
    split_ifs with hkey
    · obtain rfl : key' = key := hkey
      exact List.lookup_cons_self
    · have hne : (key == key') = false := beq_false_of_ne fun heq ↦ hkey heq.symm
      rw [List.lookup_cons, hne]
      exact ih

theorem lookup_setEntry_of_ne {key other : AttributeKey} (h : other ≠ key) (value : List Char)
    (entries : List (AttributeKey × List Char)) :
    (setEntry key value entries).lookup other = entries.lookup other := by
  have hne : (other == key) = false := beq_false_of_ne h
  induction entries with
  | nil => rw [setEntry, List.lookup_cons, hne]
  | cons first rest ih =>
    obtain ⟨key', value'⟩ := first
    rw [setEntry]
    split_ifs with hkey
    · obtain rfl : key' = key := hkey
      rw [List.lookup_cons, List.lookup_cons, hne]
    · rw [List.lookup_cons, List.lookup_cons, ih]

theorem filter_setEntry {keep : AttributeKey × List Char → Bool} {key : AttributeKey}
    (hkey : ∀ value, keep (key, value) = false) (value : List Char)
    (entries : List (AttributeKey × List Char)) :
    (setEntry key value entries).filter keep = entries.filter keep := by
  induction entries with
  | nil => simp [setEntry, hkey]
  | cons first rest ih =>
    obtain ⟨key', value'⟩ := first
    rw [setEntry]
    split_ifs with heq
    · obtain rfl : key' = key := heq
      rw [List.filter_cons_of_neg (by simp [hkey]), List.filter_cons_of_neg (by simp [hkey])]
    · rw [List.filter_cons, List.filter_cons, ih]

/-- A new key is added at the end. -/
theorem map_fst_setEntry (key : AttributeKey) (value : List Char)
    (entries : List (AttributeKey × List Char)) : (setEntry key value entries).map Prod.fst =
      if key ∈ entries.map Prod.fst then entries.map Prod.fst
      else entries.map Prod.fst ++ [key] := by
  induction entries with
  | nil => rfl
  | cons first rest ih =>
    obtain ⟨key', value'⟩ := first
    rw [setEntry]
    by_cases heq : key' = key
    · simp [heq]
    · simp only [heq, ↓reduceIte, List.map_cons, ih, List.mem_cons, Ne.symm heq, false_or]
      split_ifs <;> rfl

theorem mem_of_lookup {key : AttributeKey} {value : List Char}
    {entries : List (AttributeKey × List Char)} (h : entries.lookup key = some value) :
    (key, value) ∈ entries := by
  obtain ⟨front, back, rfl, -⟩ := List.lookup_eq_some_iff.1 h
  simp

namespace Attributes

variable {attrs : Attributes} {keys : List AttributeKey}

@[simp] theorem get?_set_self (attrs : Attributes) (key : AttributeKey) (value : List Char) :
    (attrs.set key value).get? key = some value :=
  lookup_setEntry_self key value attrs.entries

theorem get?_set_of_ne {key other : AttributeKey} (h : other ≠ key) (attrs : Attributes)
    (value : List Char) : (attrs.set key value).get? other = attrs.get? other :=
  lookup_setEntry_of_ne h value attrs.entries

theorem get?_setIf_of_ne {key other : AttributeKey} (h : other ≠ key) (attrs : Attributes)
    (value : Option (List Char)) : (attrs.setIf key value).get? other = attrs.get? other := by
  cases value with
  | none => rfl
  | some value => exact get?_set_of_ne h attrs value

theorem HasDistinctKeys.set (h : attrs.HasDistinctKeys) (key : AttributeKey) (value : List Char) :
    (attrs.set key value).HasDistinctKeys := by
  rw [HasDistinctKeys, Attributes.set, map_fst_setEntry]
  split_ifs with hmem
  · exact h
  · exact h.append (List.nodup_singleton key) (List.disjoint_singleton.2 hmem)

theorem HasDistinctKeys.erase (h : attrs.HasDistinctKeys) (key : AttributeKey) :
    (attrs.erase key).HasDistinctKeys :=
  h.sublist ((List.eraseP_sublist ..).map Prod.fst)

/-- Attributes that are put together from any pairs have distinct keys. -/
theorem hasDistinctKeys_ofList (pairs : List (AttributeKey × List Char)) :
    (ofList pairs).HasDistinctKeys :=
  List.foldlRecOn pairs _ List.nodup_nil fun _ h pair _ ↦ h.set pair.1 pair.2

/-- A key that occurs once has no value after it is removed. -/
theorem HasDistinctKeys.get?_erase_self (h : attrs.HasDistinctKeys) (key : AttributeKey) :
    (attrs.erase key).get? key = none := by
  obtain ⟨entries⟩ := attrs
  induction entries with
  | nil => rfl
  | cons first rest ih =>
    obtain ⟨key', value'⟩ := first
    obtain ⟨hfirst, hrest⟩ := List.nodup_cons.1 h
    simp only [Attributes.erase, get?, List.eraseP_cons] at ih ⊢
    by_cases heq : key' = key
    · subst heq
      rw [beq_self_eq_true, cond_true, List.lookup_eq_none_iff]
      exact fun entry hentry ↦ bne_iff_ne.2 fun hkey ↦
        hfirst (List.mem_map.2 ⟨entry, hentry, hkey.symm⟩)
    · rw [beq_false_of_ne heq, cond_false, List.lookup_cons, beq_false_of_ne (Ne.symm heq)]
      exact ih hrest

theorem get?_erase_of_ne {key other : AttributeKey} (h : other ≠ key) (attrs : Attributes) :
    (attrs.erase key).get? other = attrs.get? other := by
  obtain ⟨entries⟩ := attrs
  induction entries with
  | nil => rfl
  | cons first rest ih =>
    obtain ⟨key', value'⟩ := first
    simp only [erase, get?, List.eraseP_cons] at ih ⊢
    by_cases heq : key' = key
    · subst heq
      rw [beq_self_eq_true, cond_true, List.lookup_cons, beq_false_of_ne h]
    · rw [beq_false_of_ne heq, cond_false, List.lookup_cons, List.lookup_cons, ih]

/-- To set a value changes no entry with another key. -/
theorem without_set {key : AttributeKey} (hkey : key ∈ keys) (attrs : Attributes)
    (value : List Char) : (attrs.set key value).without keys = attrs.without keys :=
  filter_setEntry (by simp [hkey]) value attrs.entries

/-- To remove a value changes no entry with another key. -/
theorem without_erase {key : AttributeKey} (hkey : key ∈ keys) (attrs : Attributes) :
    (attrs.erase key).without keys = attrs.without keys := by
  obtain ⟨entries⟩ := attrs
  induction entries with
  | nil => rfl
  | cons first rest ih =>
    simp only [erase, without, List.eraseP_cons] at ih ⊢
    by_cases heq : first.1 = key
    · rw [heq, beq_self_eq_true, cond_true, List.filter_cons_of_neg (by simp [heq, hkey])]
    · rw [beq_false_of_ne heq, cond_false, List.filter_cons, List.filter_cons, ih]

namespace All

variable {good : AttributeKey × List Char → Prop} {key : AttributeKey}

@[simp] theorem empty : Attributes.empty.All good := fun entry hmem ↦ by
  simp [Attributes.empty] at hmem

theorem set (h : attrs.All good) {value : List Char} (hnew : good (key, value)) :
    (attrs.set key value).All good := by
  intro entry hmem
  rcases mem_setEntry hmem with rfl | hmem
  · exact hnew
  · exact h entry hmem

theorem erase (h : attrs.All good) (key : AttributeKey) : (attrs.erase key).All good :=
  fun entry hmem ↦ h entry (List.mem_of_mem_eraseP hmem)

theorem of_get? (h : attrs.All good) {value : List Char} (hget : attrs.get? key = some value) :
    good (key, value) :=
  h _ (mem_of_lookup hget)

end All

namespace HasKeys

@[simp] theorem empty : Attributes.empty.HasKeys keys := All.empty

theorem set (h : attrs.HasKeys keys) {key : AttributeKey} (hkey : key ∈ keys)
    (value : List Char) : (attrs.set key value).HasKeys keys :=
  All.set h hkey

theorem setIf (h : attrs.HasKeys keys) {key : AttributeKey} (hkey : key ∈ keys)
    (value : Option (List Char)) : (attrs.setIf key value).HasKeys keys := by
  cases value with
  | none => exact h
  | some value => exact h.set hkey value

theorem mono (h : attrs.HasKeys keys) {more : List AttributeKey} (hsubset : keys ⊆ more) :
    attrs.HasKeys more :=
  fun entry hmem ↦ hsubset (h entry hmem)

theorem get?_eq_none (h : attrs.HasKeys keys) {key : AttributeKey} (hkey : key ∉ keys) :
    attrs.get? key = none :=
  Option.eq_none_iff_forall_ne_some.2 fun _ hget ↦ hkey (All.of_get? h hget)

theorem ofList {pairs : List (AttributeKey × List Char)} (h : ∀ pair ∈ pairs, pair.1 ∈ keys) :
    (Attributes.ofList pairs).HasKeys keys := by
  unfold Attributes.ofList
  refine List.foldlRecOn pairs _ empty fun attrs hattrs pair hpair ↦ ?_
  exact HasKeys.set hattrs (h pair hpair) pair.2

end HasKeys

end Attributes

end Galley.Html
