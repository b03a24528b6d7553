import Mathlib
import Galley.Site.Drafts
import Galley.Proofs.Site.Paths

/-!
What saving a file changes. Where nothing stood before, an entry changes no lookup but its own, so
that every path that led somewhere leads there still (`Files.find_put_eq_ok`), and the saved file is
found at its path (`Files.find_save_self`).
-/

set_option autoImplicit false
set_option relaxedAutoImplicit false

namespace Galley.Site.Files

variable {files : Files}

theorem entry?_put_self {names : List Name} (hne : names ≠ []) (entry : Entry) :
    Files.entry? (files.put names entry) names = some entry := by
  simp [entry?_eq_lookup hne, put]

theorem entry?_put_of_ne {names other : List Name} (hother : other ≠ names) (entry : Entry) :
    Files.entry? (files.put names entry) other = files.entry? other := by
  cases other with
  | nil => rfl
  | cons name rest =>
    rw [entry?_eq_lookup (List.cons_ne_nil name rest),
      entry?_eq_lookup (List.cons_ne_nil name rest), put, List.lookup_cons, beq_false_of_ne hother]
    dsimp only
    induction files.entries with
    | nil => rfl
    | cons first entries ih =>
      by_cases hfirst : first.1 = names
      · rw [List.filter_cons_of_neg (by simp [hfirst]), ih, List.lookup_cons,
          beq_false_of_ne (hfirst ▸ hother)]
      · rw [List.filter_cons_of_pos (by simp [hfirst]), List.lookup_cons, List.lookup_cons, ih]

/-- Where nothing stood before, an entry is in nobody's way. -/
theorem follow_put_eq_ok {names : List Name} (hfree : files.entry? names = none) (entry : Entry)
    {place path found : List Name} {other : Entry}
    (h : files.follow place path = .ok (found, other)) :
    (files.put names entry).follow place path = .ok (found, other) := by
  have hkeeps {place : List Name} {above : Entry} (hplace : files.entry? place = some above) :
      Files.entry? (files.put names entry) place = some above := by
    rw [entry?_put_of_ne ?_ entry, hplace]
    rintro rfl
    simp [hfree] at hplace
  induction path generalizing place with
  | nil =>
    have hplace := entry?_of_follow_eq_ok h
    obtain rfl : place = found := by
      rw [follow] at h
      split at h
      · exact (Prod.mk.inj (Except.ok.inj h)).1
      · cases h
    rw [follow, hkeeps hplace]
  | cons name rest ih =>
    rw [follow] at h ⊢
    cases hplace : files.entry? place with
    | none => simp [hplace] at h
    | some above =>
      rw [hkeeps hplace]
      cases above with
      | file bytes => simp [hplace] at h
      | directory =>
        simp only [hplace] at h ⊢
        split_ifs at h ⊢
        · exact ih h
        · exact ih h

theorem find_put_eq_ok {names : List Name} (hfree : files.entry? names = none) (entry : Entry)
    {path : List Char} {found : List Name × Entry} (h : files.find path = .ok found) :
    (files.put names entry).find path = .ok found := by
  obtain ⟨hnul, hasks, below, hbelow, hfollow⟩ := find_eq_ok.1 h
  exact find_eq_ok.2 ⟨hnul, hasks, below, hbelow, follow_put_eq_ok hfree entry hfollow⟩

/-- What a path has to lead to for a file to be saved there: a directory, and in it a name that no
directory has. -/
structure CanSave (files : Files) (path : List Char) (directory : List Name) (name : Name) :
    Prop where
  noNul : '\x00' ∉ path
  noDirectory : asksForDirectory path = false
  leads : ∃ names, files.below? path = some (names ++ [name]) ∧
    files.follow [] names = .ok (directory, .directory)
  isShort : Metadata.byteCount name ≤ nameLimit
  ne_dots : name ≠ ['.', '.']
  ne_directory : files.entry? (directory ++ [name]) ≠ some .directory

theorem save_eq_ok {path : List Char} {bytes : List UInt8} {files' : Files}
    (h : files.save path bytes = .ok files') :
    ∃ directory name, files.CanSave path directory name ∧
      files' = files.put (directory ++ [name]) (.file bytes) := by
  unfold save at h
  split_ifs at h with hnul
  split at h
  case h_1 => cases h
  case h_2 names hbelow =>
    split at h
    case h_1 => cases h
    case h_2 name hname =>
      split at h
      case h_1 => cases h
      case h_2 => cases h
      case h_3 directory hdirectory =>
        split_ifs at h with hlong hplace
        simp only [Bool.or_eq_true, beq_iff_eq, not_or, Bool.not_eq_true] at hplace
        obtain ⟨⟨hdots, hasks⟩, hentry⟩ := hplace
        refine ⟨directory, name, ⟨by simpa using hnul, hasks, ⟨names.dropLast, ?_, hdirectory⟩,
          Nat.not_lt.1 hlong, hdots, hentry⟩, (Except.ok.inj h).symm⟩
        rw [hbelow, List.dropLast_append_getLast? name hname]

variable {path : List Char} {directory : List Name} {name : Name}

/-- What stands where a file can be saved is what the path leads to. -/
theorem CanSave.find_eq_ok_iff (h : files.CanSave path directory name) {bytes : List UInt8} :
    files.find path = .ok (directory ++ [name], .file bytes) ↔
      files.entry? (directory ++ [name]) = some (.file bytes) := by
  obtain ⟨names, hbelow, hdirectory⟩ := h.leads
  constructor
  · intro hfind
    obtain ⟨-, -, below, hbelow', hfollow⟩ := find_eq_ok.1 hfind
    exact entry?_of_follow_eq_ok hfollow
  · intro hentry
    refine find_eq_ok.2 ⟨h.noNul, by simp [h.noDirectory], _, hbelow, ?_⟩
    exact follow_append_eq_ok.2 ⟨directory, .directory, hdirectory,
      (follow_singleton_eq_ok h.ne_dots).2
        ⟨entry?_of_follow_eq_ok hdirectory, h.isShort, rfl, hentry⟩⟩

/-- No entry stands where a file can be saved, if the path leads to no file. -/
theorem CanSave.entry?_eq_none (h : files.CanSave path directory name)
    (hfree : files.isFile path = false) : files.entry? (directory ++ [name]) = none := by
  cases hentry : files.entry? (directory ++ [name]) with
  | none => rfl
  | some entry =>
    cases entry with
    | directory => exact absurd hentry h.ne_directory
    | file bytes =>
      have hfile : files.isFile path = true :=
        isFile_iff.2 ⟨_, bytes, h.find_eq_ok_iff.2 hentry⟩
      exact absurd hfile (by simp [hfree])

/-- A file that is saved at a free path is found there. -/
theorem CanSave.find_put_self (h : files.CanSave path directory name)
    (hfree : files.isFile path = false) (bytes : List UInt8) :
    (files.put (directory ++ [name]) (.file bytes)).find path =
      .ok (directory ++ [name], .file bytes) := by
  have hnone := h.entry?_eq_none hfree
  have hself : Files.entry? (files.put (directory ++ [name]) (.file bytes)) (directory ++ [name]) =
      some (.file bytes) := entry?_put_self (by simp) _
  obtain ⟨names, hbelow, hdirectory⟩ := h.leads
  have hafter : (files.put (directory ++ [name]) (.file bytes)).CanSave path directory name :=
    { h with
      leads := ⟨names, hbelow, follow_put_eq_ok hnone _ hdirectory⟩
      ne_directory := by simp [hself] }
  exact hafter.find_eq_ok_iff.2 hself

end Galley.Site.Files
