import Mathlib
import Galley.Html.AttributeHistory
import Galley.Proofs.Html.Attributes
import Galley.Proofs.Text.Words

/-!
Attributes that calls have made, compared with the changes that the calls come down to. One relation
(`IsMadeBy`) says that keys are distinct, that values are those given last and that keys stand in
the order in which they were set; every change keeps it, and every call makes the changes that it
comes down to. Adding a class sets one value and is told from the classes that are listed.
-/

set_option autoImplicit false
set_option relaxedAutoImplicit false

namespace Galley.Html.Attributes

variable {attrs : Attributes} {changes : List Change} {key : AttributeKey} {value : List Char}

/-! ### What changes say -/

theorem Change.outcome?_eq_some_some_iff {change : Change} :
    change.outcome? key = some (some value) ↔ change = .give key value := by
  cases change with
  | give key' value' => simp [outcome?]
  | remove key' => simp [outcome?]
  | clear => simp [outcome?]

theorem valueAfter?_concat (changes : List Change) (change : Change) (key : AttributeKey) :
    valueAfter? (changes ++ [change]) key =
      (change.outcome? key).getD (valueAfter? changes key) := by
  rw [valueAfter?, List.filterMap_append]
  cases houtcome : change.outcome? key with
  | none => rw [List.filterMap_cons_none houtcome, List.filterMap_nil, List.append_nil]; rfl
  | some outcome =>
    rw [List.filterMap_cons_some houtcome, List.filterMap_nil, List.getLast?_concat]
    rfl

/-- A key has a value if it was given this value, and no later change concerns the key. -/
theorem valueAfter?_eq_some_iff : valueAfter? changes key = some value ↔ ∃ before after,
    changes = before ++ .give key value :: after ∧
      ∀ change ∈ after, change.outcome? key = none := by
  rw [valueAfter?, Option.join_eq_some_iff, List.getLast?_eq_some_iff]
  constructor
  · rintro ⟨outcomes, hlast⟩
    obtain ⟨front, back, rfl, -, hback⟩ := List.filterMap_eq_append_iff.1 hlast
    obtain ⟨middle, change, after, rfl, -, houtcome, hafter⟩ := List.filterMap_eq_cons_iff.1 hback
    obtain rfl := Change.outcome?_eq_some_some_iff.1 houtcome
    exact ⟨front ++ middle, after, (List.append_assoc ..).symm, List.filterMap_eq_nil_iff.1 hafter⟩
  · rintro ⟨before, after, rfl, hafter⟩
    refine ⟨before.filterMap (Change.outcome? key), ?_⟩
    rw [List.filterMap_append,
      List.filterMap_cons_some (Change.outcome?_eq_some_some_iff.2 rfl),
      List.filterMap_eq_nil_iff.2 hafter]

/-- A later change takes away the keys that it removes, and sets no key that was set before. -/
theorem keySince?_concat {i : Nat} (hi : i < changes.length) (change : Change) :
    keySince? (changes ++ [change]) i =
      (keySince? changes i).filter fun key ↦ change.outcome? key ≠ some none := by
  unfold keySince?
  rw [List.getElem?_append_left hi, List.take_append_of_le_length (Nat.le_of_lt hi),
    List.drop_append_of_le_length hi]
  split
  · next key value _ =>
    simp only [List.map_append, List.map_cons, List.map_nil, List.mem_append, List.mem_singleton,
      not_or]
    split_ifs with hnow hbefore hbefore
    · simp [Option.filter, Ne.symm hnow.2.2]
    · exact absurd ⟨hnow.1, hnow.2.1⟩ hbefore
    · have hremoved : change.outcome? key = some none := by
        by_contra hkept
        exact hnow ⟨hbefore.1, hbefore.2, fun heq ↦ hkept heq.symm⟩
      simp [Option.filter, hremoved]
    · rfl
  · rfl

theorem keysAfter_concat (changes : List Change) (change : Change) :
    keysAfter (changes ++ [change]) =
      (keysAfter changes).filter (fun key ↦ change.outcome? key ≠ some none) ++
        (keySince? (changes ++ [change]) changes.length).toList := by
  have hearlier : (List.range changes.length).filterMap (keySince? (changes ++ [change])) =
      (keysAfter changes).filter (fun key ↦ change.outcome? key ≠ some none) := by
    rw [keysAfter, List.filter_filterMap]
    exact List.filterMap_congr fun i hi ↦ keySince?_concat (List.mem_range.1 hi) change
  rw [keysAfter, List.length_append, List.length_singleton, List.range_succ, List.filterMap_append,
    hearlier]
  rfl

theorem keysAfter_give (changes : List Change) (key : AttributeKey) (value : List Char) :
    keysAfter (changes ++ [.give key value]) =
      keysAfter changes ++ if valueAfter? changes key = none then [key] else [] := by
  have hnone : ∀ other, Change.outcome? other (.give key value) ≠ some none := by
    intro other
    rw [Change.outcome?]
    split_ifs <;> simp
  rw [keysAfter_concat, List.filter_eq_self.2 fun other _ ↦ decide_eq_true (hnone other)]
  congr 1
  simp only [keySince?, List.getElem?_concat_length, List.take_left, List.drop_of_length_le,
    List.length_append, List.length_singleton, le_refl, List.map_nil, List.not_mem_nil,
    not_false_eq_true, and_true]
  split_ifs <;> rfl

theorem keysAfter_remove (changes : List Change) (key : AttributeKey) :
    keysAfter (changes ++ [.remove key]) = (keysAfter changes).filter (· != key) := by
  rw [keysAfter_concat]
  simp only [keySince?, List.getElem?_concat_length, Option.toList_none, List.append_nil]
  refine List.filter_congr fun other _ ↦ ?_
  rw [Change.outcome?]
  split_ifs with heq
  · simp [heq]
  · simpa using Ne.symm heq

theorem keysAfter_clear (changes : List Change) : keysAfter (changes ++ [.clear]) = [] := by
  rw [keysAfter_concat]
  simp [keySince?, Change.outcome?]

/-! ### What calls make -/

/-- Attributes are what changes have led to. -/
structure IsMadeBy (attrs : Attributes) (changes : List Change) : Prop where
  distinct : attrs.HasDistinctKeys
  value : ∀ key, attrs.get? key = valueAfter? changes key
  order : attrs.entries.map Prod.fst = keysAfter changes

theorem mem_keys_iff : key ∈ attrs.entries.map Prod.fst ↔ attrs.get? key ≠ none := by
  rw [get?, Ne, List.lookup_eq_none_iff]
  simp only [List.mem_map, bne_iff_ne, not_forall, not_not]
  constructor
  · rintro ⟨entry, hentry, rfl⟩
    exact ⟨entry, hentry, rfl⟩
  · rintro ⟨entry, hentry, hkey⟩
    exact ⟨entry, hentry, hkey.symm⟩

namespace IsMadeBy

theorem empty : Attributes.empty.IsMadeBy [] := ⟨List.nodup_nil, fun _ ↦ rfl, rfl⟩

/-- The keys after a value is set: a key that has no value before is added at the end. -/
theorem order_set (h : attrs.IsMadeBy changes) (key : AttributeKey) (value : List Char) :
    (attrs.set key value).entries.map Prod.fst = keysAfter (changes ++ [.give key value]) := by
  rw [Attributes.set, map_fst_setEntry, keysAfter_give, ← h.order]
  have hmem : key ∈ attrs.entries.map Prod.fst ↔ attrs.get? key ≠ none := mem_keys_iff
  rw [h.value] at hmem
  by_cases hnone : valueAfter? changes key = none
  · rw [if_neg fun hkey ↦ hmem.1 hkey hnone, if_pos hnone]
  · rw [if_pos (hmem.2 hnone), if_neg hnone, List.append_nil]

theorem order_erase (h : attrs.IsMadeBy changes) (key : AttributeKey) :
    (attrs.erase key).entries.map Prod.fst = keysAfter (changes ++ [.remove key]) := by
  rw [keysAfter_remove, ← h.order, ← List.Nodup.erase_eq_filter h.distinct, List.erase_eq_eraseP',
    List.eraseP_map]
  rfl

/-- One more change. -/
theorem apply (h : attrs.IsMadeBy changes) (change : Change) :
    (change.apply attrs).IsMadeBy (changes ++ [change]) := by
  cases change with
  | give key value =>
    refine ⟨h.distinct.set key value, fun other ↦ ?_, h.order_set key value⟩
    rw [valueAfter?_concat, Change.outcome?, Change.apply]
    split_ifs with heq
    · rw [heq, get?_set_self, Option.getD_some]
    · rw [get?_set_of_ne (Ne.symm heq), h.value, Option.getD_none]
  | remove key =>
    refine ⟨h.distinct.erase key, fun other ↦ ?_, h.order_erase key⟩
    rw [valueAfter?_concat, Change.outcome?, Change.apply]
    split_ifs with heq
    · rw [← heq, h.distinct.get?_erase_self, Option.getD_some]
    · rw [get?_erase_of_ne (Ne.symm heq), h.value, Option.getD_none]
  | clear =>
    refine ⟨List.nodup_nil, fun other ↦ ?_, (keysAfter_clear changes).symm⟩
    rw [valueAfter?_concat]
    rfl

theorem foldl_apply (h : attrs.IsMadeBy changes) (more : List Change) :
    (more.foldl Change.apply attrs).IsMadeBy (changes ++ more) := by
  induction more generalizing attrs changes with
  | nil => rwa [List.append_nil]
  | cons change more ih =>
    rw [List.append_cons]
    exact ih (h.apply change)

end IsMadeBy

theorem foldl_apply_give (attrs : Attributes) (pairs : List (AttributeKey × List Char)) :
    (pairs.map fun (key, value) ↦ Change.give key value).foldl Change.apply attrs =
      pairs.foldl (fun attrs (key, value) ↦ attrs.set key value) attrs := by
  rw [List.foldl_map]
  rfl

/-- Adding a class that is not listed sets the classes, behind those before if there are any. -/
theorem addClass_eq_set {name : List Char} (hnew : name ∉ attrs.classes) :
    attrs.addClass name = attrs.set .className
      (if (attrs.get? .className).getD [] = [] then name
        else (attrs.get? .className).getD [] ++ ' ' :: name) := by
  rw [addClass, if_neg (by simpa [hasClass] using hnew)]
  rcases attrs.get? .className with - | - | ⟨c, rest⟩ <;> rfl

theorem addClass_of_mem {name : List Char} (hmem : name ∈ attrs.classes) :
    attrs.addClass name = attrs := by
  rw [addClass, if_pos (by simpa [hasClass] using hmem)]

/-- A call makes the changes that it comes down to. -/
theorem Call.run_eq_foldl (h : attrs.IsMadeBy changes) (call : Call) :
    call.run attrs = (call.changes changes).foldl Change.apply attrs := by
  cases call with
  | set key value => rfl
  | erase key => rfl
  | ofList pairs => exact (foldl_apply_give .empty pairs).symm
  | addClass name =>
    rw [Call.run, Call.changes, ← h.value, ← classes]
    by_cases hmem : name ∈ attrs.classes
    · rw [addClass_of_mem hmem, if_pos hmem, List.foldl_nil]
    · rw [addClass_eq_set hmem, if_neg hmem]
      rfl

theorem Call.runAll_concat (attrs : Attributes) (calls : List Call) (call : Call) :
    runAll attrs (calls ++ [call]) = call.run (runAll attrs calls) :=
  List.foldl_concat ..

theorem Call.allChanges_concat (calls : List Call) (call : Call) :
    allChanges (calls ++ [call]) = allChanges calls ++ call.changes (allChanges calls) :=
  List.foldl_concat ..

theorem Call.isMadeBy_runAll (calls : List Call) :
    (Call.runAll .empty calls).IsMadeBy (Call.allChanges calls) := by
  induction calls using List.reverseRecOn with
  | nil => exact .empty
  | append_singleton calls call ih =>
    rw [Call.runAll_concat, Call.allChanges_concat, Call.run_eq_foldl ih]
    exact ih.foldl_apply _

/-! ### Classes -/

/-- A name is added as its words, which is at the end whatever blanks stand between the classes. -/
theorem classes_addClass (attrs : Attributes) (name : List Char) :
    (attrs.addClass name).classes =
      if name ∈ attrs.classes then attrs.classes
      else attrs.classes ++ Text.wordsBy Text.isAsciiBlank name := by
  split_ifs with hmem
  · rw [addClass_of_mem hmem]
  · rw [addClass_eq_set hmem, classes, classes, get?_set_self, Option.getD_some]
    split_ifs with hempty
    · rw [hempty]; rfl
    · exact Text.wordsBy_append_cons rfl _ _

theorem without_addClass (attrs : Attributes) (name : List Char) :
    (attrs.addClass name).without [.className] = attrs.without [.className] := by
  by_cases hmem : name ∈ attrs.classes
  · rw [addClass_of_mem hmem]
  · rw [addClass_eq_set hmem, without_set (List.mem_singleton.2 rfl)]

theorem mem_classes_addClass {name : List Char}
    (hword : Text.wordsBy Text.isAsciiBlank name = [name]) (attrs : Attributes) :
    name ∈ (attrs.addClass name).classes := by
  rw [classes_addClass, hword]
  split_ifs with hmem
  · exact hmem
  · exact List.mem_append_right _ (List.mem_singleton.2 rfl)

/-- Whatever calls are made, from no attributes on: no key occurs twice, a key has a value exactly
if it was given this value and no later change concerns it, and the keys stand in the order in which
they were set. A class that is added is listed at the end, unless it is listed already, and nothing
else is changed. -/
theorem Call.runAll_follows_changes (calls : List Call) :
    let attrs := Call.runAll .empty calls
    let changes := Call.allChanges calls
    (attrs.entries.map Prod.fst).Nodup ∧
      (∀ key value, attrs.get? key = some value ↔ ∃ before after,
        changes = before ++ .give key value :: after ∧
          ∀ change ∈ after, change.outcome? key = none) ∧
      attrs.entries.map Prod.fst = keysAfter changes ∧
      ∀ name, name ≠ [] → (∀ c ∈ name, Text.isAsciiBlank c = false) →
        (attrs.addClass name).classes =
            (if name ∈ attrs.classes then attrs.classes else attrs.classes ++ [name]) ∧
          (attrs.addClass name).without [.className] = attrs.without [.className] ∧
          (attrs.addClass name).addClass name = attrs.addClass name := by
  intro attrs changes
  have hmade : attrs.IsMadeBy changes := Call.isMadeBy_runAll calls
  refine ⟨hmade.distinct, fun key value ↦ ?_, hmade.order, fun name hne hblank ↦ ?_⟩
  · rw [hmade.value, valueAfter?_eq_some_iff]
  · have hword := Text.wordsBy_of_forall_not hblank hne
    have hclasses := classes_addClass attrs name
    rw [hword] at hclasses
    exact ⟨hclasses, without_addClass attrs name, addClass_of_mem (mem_classes_addClass hword attrs)⟩

/-- A source that was removed and set again stands at the end, and a class comes behind those that
unequal blanks set apart. -/
theorem Call.runAll_follows_changes_of_reset_source :
    let calls : List Call := [.set .id "x".toList,
      .ofList [(.src, "a.png".toList), (.className, " a  b ".toList), (.alt, [])],
      .addClass "c".toList, .erase .src, .set .alt "A".toList, .set .src "b.png".toList]
    let attrs := Call.runAll .empty calls
    attrs.get? .src = some "b.png".toList ∧
      attrs.entries.map Prod.fst = [.className, .alt, .src] ∧
      (attrs.addClass "d".toList).classes =
        ["a".toList, "b".toList, "c".toList, "d".toList] := by
  intro calls attrs
  obtain ⟨-, hvalue, horder, hclass⟩ := Call.runAll_follows_changes calls
  refine ⟨(hvalue .src _).2 ⟨(Call.allChanges calls).dropLast, [], by decide, by simp⟩,
    horder.trans (by decide), ?_⟩
  exact (hclass "d".toList (by decide) (by simp [Text.isAsciiBlank])).1.trans (by decide)

end Galley.Html.Attributes
