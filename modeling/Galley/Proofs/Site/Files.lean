import Mathlib
import Galley.Site.Files

/-!
Trees of files that list every place once (`Files.ListsOnce`). A tree without entries does, and
every operation on trees keeps it, so that all trees that are made by writing and removing do. In
such a tree no name stands twice in a directory.
-/

set_option autoImplicit false
set_option relaxedAutoImplicit false

namespace Galley.Site.Files

/-- Every place is listed once. -/
def ListsOnce (files : Files) : Prop := (files.entries.map Prod.fst).Nodup

theorem ListsOnce.of_nil (base : List Char) : ListsOnce { base } := List.nodup_nil

theorem ListsOnce.filter {files : Files} (h : files.ListsOnce)
    (keeps : List Name × Entry → Bool) :
    ListsOnce { files with entries := files.entries.filter keeps } :=
  List.Nodup.sublist (List.filter_sublist.map Prod.fst) h

theorem ListsOnce.put {files : Files} (h : files.ListsOnce) (names : List Name) (entry : Entry) :
    (files.put names entry).ListsOnce := by
  refine List.nodup_cons.2 ⟨fun hmem ↦ ?_, h.filter _⟩
  obtain ⟨other, hother, rfl⟩ := List.mem_map.1 hmem
  simp at hother

theorem ListsOnce.makeDirectories (names : List Name) :
    ∀ {files : Files} (place : List Name), files.ListsOnce →
      (Files.makeDirectories place names files).ListsOnce := by
  induction names with
  | nil => exact fun _ h ↦ h
  | cons name rest ih =>
    intro files place h
    refine ih _ ?_
    split_ifs
    · exact h
    · exact h.put _ _

theorem ListsOnce.makeDirectory {files : Files} (h : files.ListsOnce) (path : List Char) :
    (files.makeDirectory path).ListsOnce :=
  h.makeDirectories _ _

theorem ListsOnce.write {files : Files} (h : files.ListsOnce) (path : List Char)
    (bytes : List UInt8) : (files.write path bytes).ListsOnce :=
  (h.makeDirectories _ _).put _ _

theorem ListsOnce.remove {files : Files} (h : files.ListsOnce) (path : List Char) :
    (files.remove path).ListsOnce :=
  h.filter _

theorem nameIn?_eq_some {place names : List Name} {name : Name} :
    nameIn? place names = some name ↔ names = place ++ [name] := by
  unfold nameIn?
  constructor
  · intro h
    cases hlast : names.getLast? with
    | none => simp [hlast] at h
    | some last =>
      obtain ⟨hplace, rfl⟩ : names.dropLast = place ∧ last = name := by simpa [hlast] using h
      rw [← hplace, List.dropLast_append_getLast? last hlast]
  · rintro rfl
    simp

/-- No name stands twice in a directory. -/
theorem ListsOnce.nodup_list {files : Files} (h : files.ListsOnce) {path : List Char}
    {names : List Name} (hlist : files.list path = .ok names) : names.Nodup := by
  unfold list at hlist
  split at hlist
  case h_3 place _ =>
    cases hlist
    rw [show (fun entry : List Name × Entry ↦ nameIn? place entry.1) = nameIn? place ∘ Prod.fst
      from rfl, ← List.filterMap_map]
    refine List.Nodup.filterMap (fun a b name ha hb ↦ ?_) h
    rw [nameIn?_eq_some.1 ha, nameIn?_eq_some.1 hb]
  all_goals cases hlist

end Galley.Site.Files
