import Mathlib
import Galley.Typeset.Footnotes

/-!
The numbers of footnotes. The identifiers of all calls, one after the other, say what the numbers
are (`Calls.of`): those of the first calls come in their order, none twice, and no later call
changes the number of a footnote that was called before. So a number is at most one more than all
numbers before it, and the largest is the number of footnotes. The calls of one footnote are counted
from one on without gaps (`exists_countUpTo_eq`).
-/

set_option autoImplicit false
set_option relaxedAutoImplicit false

namespace Galley.Typeset

/-- The largest of numbers, and zero if there are none. -/
def largest (numbers : List Nat) : Nat := numbers.foldr max 0

theorem le_largest {numbers : List Nat} {n : Nat} (h : n ∈ numbers) : n ≤ largest numbers := by
  induction numbers with
  | nil => simp at h
  | cons first rest ih =>
    rcases List.mem_cons.1 h with rfl | h
    · exact le_max_left _ _
    · exact (ih h).trans (le_max_right _ _)

theorem largest_le {numbers : List Nat} {bound : Nat} (h : ∀ n ∈ numbers, n ≤ bound) :
    largest numbers ≤ bound := by
  induction numbers with
  | nil => exact Nat.zero_le _
  | cons first rest ih =>
    exact max_le (h first (by simp)) (ih fun n hn ↦ h n (by simp [hn]))

namespace Calls

/-- The calls of footnotes with the given identifiers, one after the other. -/
def of (called : List (List Char)) : Calls := called.foldl add {}

variable {called more : List (List Char)} {identifier : List Char}

@[simp] theorem of_nil : of [] = {} := rfl

theorem foldl_add_of (called more : List (List Char)) :
    more.foldl add (of called) = of (called ++ more) := by
  rw [of, of, List.foldl_append]

theorem add_of (called : List (List Char)) (identifier : List Char) :
    (of called).add identifier = of (called ++ [identifier]) := by
  simpa using foldl_add_of called [identifier]

theorem order_add (calls : Calls) (identifier : List Char) : (calls.add identifier).order =
    if identifier ∈ calls.order then calls.order else calls.order ++ [identifier] := by
  simp [add]

@[simp] theorem all_of (called : List (List Char)) : (of called).all = called := by
  induction called using List.reverseRecOn with
  | nil => rfl
  | append_singleton called identifier ih => rw [← add_of, add, ih]

theorem nodup_order_of (called : List (List Char)) : (of called).order.Nodup := by
  induction called using List.reverseRecOn with
  | nil => exact List.nodup_nil
  | append_singleton called identifier ih =>
    rw [← add_of, order_add]
    split_ifs with hmem
    · exact ih
    · exact List.nodup_append.2 ⟨ih, by simp, fun other hother _ hnew heq ↦
        hmem (by simp_all)⟩

@[simp] theorem mem_order_of : identifier ∈ (of called).order ↔ identifier ∈ called := by
  induction called using List.reverseRecOn with
  | nil => rfl
  | append_singleton called last ih =>
    rw [← add_of, order_add]
    split_ifs with hmem
    · have hlast : identifier = last → identifier ∈ (of called).order := fun heq ↦ heq ▸ hmem
      rw [List.mem_append, List.mem_singleton, ← ih]
      exact ⟨.inl, fun h ↦ h.elim id hlast⟩
    · rw [List.mem_append, List.mem_append, ih]

/-- Later calls add to the order at its end. -/
theorem order_of_prefix (called more : List (List Char)) :
    (of called).order <+: (of (called ++ more)).order := by
  induction more using List.reverseRecOn with
  | nil => simp
  | append_singleton more last ih =>
    refine ih.trans ?_
    rw [← List.append_assoc, ← add_of, order_add]
    split_ifs
    · exact List.prefix_rfl
    · exact List.prefix_append _ _

/-- Later calls keep the numbers. -/
theorem number_of_append (h : identifier ∈ called) (more : List (List Char)) :
    (of (called ++ more)).number identifier = (of called).number identifier := by
  obtain ⟨rest, hrest⟩ := order_of_prefix called more
  rw [number, number, ← hrest, List.idxOf_append_of_mem (mem_order_of.2 h)]

theorem number_le_length (h : identifier ∈ called) :
    (of called).number identifier ≤ (of called).order.length :=
  List.idxOf_lt_length_iff.2 (mem_order_of.2 h)

/-- A footnote is called first when there are as many as its number says. -/
theorem number_le_of_append_singleton (called : List (List Char)) (identifier : List Char) :
    (of (called ++ [identifier])).number identifier ≤ (of called).order.length + 1 := by
  refine (number_le_length (by simp)).trans ?_
  rw [← add_of, order_add]
  split_ifs
  · exact Nat.le_succ _
  · simp

/-- The number of footnotes is the largest number. -/
theorem largest_numbers (called : List (List Char)) :
    largest (called.map (of called).number) = (of called).order.length := by
  refine le_antisymm (largest_le ?_) ?_
  · intro n hn
    obtain ⟨identifier, hmem, rfl⟩ := List.mem_map.1 hn
    exact number_le_length hmem
  · cases hlast : (of called).order.getLast? with
    | none => simp [List.getLast?_eq_none_iff.1 hlast]
    | some last =>
      obtain ⟨front, hfront⟩ := List.getLast?_eq_some_iff.1 hlast
      have hmem : last ∈ called := mem_order_of.1 (by simp [hfront])
      have hnew : last ∉ front := by
        have hnodup := nodup_order_of called
        rw [hfront, List.nodup_append] at hnodup
        exact fun hold ↦ hnodup.2.2 last hold last (by simp) rfl
      have hnumber : (of called).number last = (of called).order.length := by
        rw [number, hfront, List.idxOf_append_of_notMem hnew]
        simp
      exact hnumber ▸ le_largest (List.mem_map_of_mem hmem)

/-- A number is at most one more than the largest of those of the calls before. -/
theorem number_le_largest_add_one (front : List (List Char)) (identifier : List Char)
    (back : List (List Char)) :
    let calls := of (front ++ identifier :: back)
    calls.number identifier ≤ largest (front.map calls.number) + 1 := by
  intro calls
  have hfront : front.map calls.number = front.map (of front).number :=
    List.map_congr_left fun other hother ↦ number_of_append hother (identifier :: back)
  have hnumber : calls.number identifier = (of (front ++ [identifier])).number identifier := by
    have hmem : identifier ∈ front ++ [identifier] := by simp
    simpa using number_of_append hmem back
  rw [hfront, largest_numbers, hnumber]
  exact number_le_of_append_singleton front identifier

end Calls

/-! ### Counts of calls -/

/-- How often a footnote was called up to the given call. -/
def countUpTo (called : List (List Char)) (index : Nat) (identifier : List Char) : Nat :=
  (called.take (index + 1)).count identifier

section Counts

variable {called : List (List Char)} {index other : Nat} {identifier : List Char}

theorem countUpTo_of_call (hcall : called[index]? = some identifier) :
    countUpTo called index identifier = (called.take index).count identifier + 1 := by
  rw [countUpTo, List.take_add_one, hcall, List.count_append]
  simp

theorem countUpTo_pos (hcall : called[index]? = some identifier) :
    1 ≤ countUpTo called index identifier := by
  rw [countUpTo_of_call hcall]
  exact Nat.le_add_left _ _

theorem countUpTo_le (called : List (List Char)) (index : Nat) (identifier : List Char) :
    countUpTo called index identifier ≤ called.count identifier :=
  (List.take_sublist _ _).count_le _

/-- The first call of a footnote is the only one up to there. -/
theorem countUpTo_idxOf (h : identifier ∈ called) :
    countUpTo called (called.idxOf identifier) identifier = 1 := by
  obtain ⟨front, back, rfl, hfirst⟩ := List.eq_append_cons_of_mem h
  have hindex : (front ++ identifier :: back).idxOf identifier = front.length := by
    rw [List.idxOf_append_of_notMem hfirst, List.idxOf_cons_self, add_zero]
  rw [hindex, countUpTo_of_call (by simp), List.take_left, List.count_eq_zero_of_not_mem hfirst]

/-- Each call of a footnote has a count of its own. -/
theorem countUpTo_lt (hother : called[other]? = some identifier) (hlt : index < other) :
    countUpTo called index identifier < countUpTo called other identifier := by
  rw [countUpTo_of_call hother, Nat.lt_add_one_iff]
  have hprefix : called.take (index + 1) <+: called.take other :=
    List.take_prefix_take_left (by omega)
  exact hprefix.sublist.count_le _

/-- Every number up to the count of a footnote is the count of one of its calls. -/
theorem exists_countUpTo_eq {n : Nat} (hpos : 1 ≤ n) (hle : n ≤ called.count identifier) :
    ∃ index, called[index]? = some identifier ∧ countUpTo called index identifier = n := by
  induction called using List.reverseRecOn with
  | nil =>
    rw [List.count_nil] at hle
    omega
  | append_singleton called last ih =>
    by_cases hold : n ≤ called.count identifier
    · obtain ⟨index, hcall, hcount⟩ := ih hold
      have hlt := (List.getElem?_eq_some_iff.1 hcall).1
      refine ⟨index, by rw [List.getElem?_append_left hlt, hcall], ?_⟩
      rw [← hcount, countUpTo, countUpTo, List.take_append_of_le_length hlt]
    · rw [List.count_append, List.count_singleton] at hle
      have hlast : last = identifier := by
        by_contra hne
        simp [hne] at hle
        omega
      subst hlast
      have hcall : (called ++ [last])[called.length]? = some last := by simp
      refine ⟨called.length, hcall, ?_⟩
      rw [countUpTo_of_call hcall, List.take_left]
      simp at hle
      omega

end Counts

end Galley.Typeset
