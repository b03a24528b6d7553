import Mathlib
import Galley.Proofs.Site.Files
import Galley.Proofs.Text.Words

/-!
Paths that end in a name. Such a path leads through the names of the path before it, and where it
leads to a file the path before it leads to the directory that the name stands in
(`Files.exists_list_of_isFile`).
-/

set_option autoImplicit false
set_option relaxedAutoImplicit false

namespace Galley.Site

/-- A name that stands for an entry of the directory before it. -/
structure IsEntryName (name : Name) : Prop where
  ne_nil : name ≠ []
  noSlash : '/' ∉ name
  ne_dot : name ≠ ['.']
  ne_dots : name ≠ ['.', '.']

variable {name : Name}

theorem IsEntryName.pathNames_eq (h : IsEntryName name) : pathNames name = [name] := by
  have hslash : ∀ c ∈ name, (c == '/') = false := by
    intro c hc
    refine beq_eq_false_iff_ne.2 ?_
    rintro rfl
    exact h.noSlash hc
  rw [pathNames, Text.wordsBy_of_forall_not hslash h.ne_nil]
  simp [h.ne_dot]

theorem pathNames_append_slash (front back : List Char) :
    pathNames (front ++ '/' :: back) = pathNames front ++ pathNames back := by
  rw [pathNames, Text.wordsBy_append_cons (by rfl), List.filter_append, ← pathNames, ← pathNames]

theorem IsEntryName.isRelative (h : IsEntryName name) : name.head? ≠ some '/' := by
  intro hhead
  exact h.noSlash (List.mem_of_head? hhead)

theorem joinPath_eq {below : List Char} (h : below.head? ≠ some '/') (path : List Char) :
    joinPath path below = path ++ below ∧ (path = [] ∨ ∃ front, path = front ++ ['/']) ∨
      joinPath path below = path ++ '/' :: below := by
  unfold joinPath
  split
  case h_1 => exact absurd rfl h
  case h_2 =>
    split_ifs with hpath
    · refine .inl ⟨rfl, ?_⟩
      rw [Bool.or_eq_true, List.isEmpty_iff, beq_iff_eq, List.getLast?_eq_some_iff] at hpath
      exact hpath
    · exact .inr rfl

/-- A path that is not absolute leads on from the path that it is joined to. -/
theorem pathNames_joinPath {below : List Char} (h : below.head? ≠ some '/') (path : List Char) :
    pathNames (joinPath path below) = pathNames path ++ pathNames below := by
  obtain ⟨heq, rfl | ⟨front, rfl⟩⟩ | heq := joinPath_eq h path
  · rw [heq]
    rfl
  · have hfront : pathNames (front ++ ['/']) = pathNames front := by
      rw [pathNames_append_slash]
      exact List.append_nil _
    rw [heq, List.append_assoc, List.singleton_append, pathNames_append_slash, hfront]
  · rw [heq, pathNames_append_slash]

theorem asksForDirectory_iff {path : List Char} :
    asksForDirectory path = true ↔ ['/'] <:+ path ∨ ['/', '.'] <:+ path := by
  simp [asksForDirectory]

/-- A path that ends in the name of an entry may be one of a file. -/
theorem asksForDirectory_joinPath (h : IsEntryName name) (path : List Char) :
    asksForDirectory (joinPath path name) = false := by
  obtain ⟨front, hfront⟩ : ∃ front, joinPath path name = front ++ name := by
    obtain ⟨heq, -⟩ | heq := joinPath_eq h.isRelative path
    · exact ⟨path, heq⟩
    · exact ⟨path ++ ['/'], by rw [heq, List.append_assoc, List.singleton_append]⟩
  have hname : name <:+ front ++ name := List.suffix_append front name
  rw [← Bool.not_eq_true, asksForDirectory_iff, hfront, not_or]
  constructor
  · intro hslash
    obtain hslash | hslash := List.suffix_or_suffix_of_suffix hslash hname
    · exact h.noSlash (hslash.subset (by simp))
    · rcases List.suffix_cons_iff.1 hslash with rfl | hnil
      · exact h.noSlash (by simp)
      · exact h.ne_nil (List.suffix_nil.1 hnil)
  · intro hdot
    obtain hdot | hdot := List.suffix_or_suffix_of_suffix hdot hname
    · exact h.noSlash (hdot.subset (by simp))
    · rcases List.suffix_cons_iff.1 hdot with rfl | hdot
      · exact h.noSlash (by simp)
      · rcases List.suffix_cons_iff.1 hdot with rfl | hnil
        · exact h.ne_dot rfl
        · exact h.ne_nil (List.suffix_nil.1 hnil)

theorem mem_joinPath (h : IsEntryName name) {path : List Char} {c : Char} (hc : c ∈ path) :
    c ∈ joinPath path name := by
  obtain ⟨heq, -⟩ | heq := joinPath_eq h.isRelative path
  · rw [heq]
    exact List.mem_append_left _ hc
  · rw [heq]
    exact List.mem_append_left _ hc

namespace Files

variable {files : Files}

theorem entry?_eq_lookup {names : List Name} (hne : names ≠ []) :
    files.entry? names = files.entries.lookup names := by
  cases names with
  | nil => exact absurd rfl hne
  | cons name rest => rfl

theorem mem_entries_of_entry?_eq_some {names : List Name} {entry : Entry} (hne : names ≠ [])
    (h : files.entry? names = some entry) : (names, entry) ∈ files.entries := by
  rw [entry?_eq_lookup hne] at h
  obtain ⟨front, back, hentries, -⟩ := List.lookup_eq_some_iff.1 h
  simp [hentries]

theorem entry?_of_follow_eq_ok {place names found : List Name} {entry : Entry}
    (h : files.follow place names = .ok (found, entry)) : files.entry? found = some entry := by
  induction names generalizing place with
  | nil =>
    rw [follow] at h
    split at h
    case h_1 entry' hentry =>
      obtain ⟨rfl, rfl⟩ : place = found ∧ entry' = entry := by simpa using h
      exact hentry
    case h_2 => cases h
  | cons name rest ih =>
    rw [follow] at h
    split at h
    case h_1 => cases h
    case h_2 => cases h
    case h_3 =>
      split_ifs at h
      · exact ih h
      · exact ih h

/-- Names are followed up to a place, and from there on. -/
theorem follow_append (files : Files) (place names more : List Name) :
    files.follow place (names ++ more) =
      (files.follow place names).bind fun found ↦ files.follow found.1 more := by
  induction names generalizing place with
  | nil =>
    rw [List.nil_append, follow.eq_def files place []]
    cases hplace : files.entry? place with
    | none => cases more <;> simp [follow, hplace, Except.bind]
    | some entry => rfl
  | cons name rest ih =>
    rw [List.cons_append, follow, follow]
    cases hplace : files.entry? place with
    | none => rfl
    | some entry =>
      cases entry with
      | file bytes => rfl
      | directory =>
        dsimp only
        split_ifs
        · rfl
        · rfl
        · exact ih _
        · exact ih _

theorem follow_append_eq_ok {place names more found : List Name} {entry : Entry} :
    files.follow place (names ++ more) = .ok (found, entry) ↔ ∃ between above,
      files.follow place names = .ok (between, above) ∧
        files.follow between more = .ok (found, entry) := by
  rw [follow_append]
  cases files.follow place names with
  | error fault => simp [Except.bind]
  | ok first => exact ⟨fun h ↦ ⟨first.1, first.2, rfl, h⟩, by rintro ⟨_, _, ⟨⟩, h⟩; exact h⟩

theorem follow_singleton_eq_ok (hname : name ≠ ['.', '.']) {place found : List Name}
    {entry : Entry} : files.follow place [name] = .ok (found, entry) ↔
      files.entry? place = some .directory ∧ Metadata.byteCount name ≤ nameLimit ∧
        found = place ++ [name] ∧ files.entry? found = some entry := by
  rw [follow]
  cases hplace : files.entry? place with
  | none => simp
  | some above =>
    cases above with
    | file bytes => simp
    | directory =>
      simp only [beq_eq_false_iff_ne.2 hname, Bool.false_eq_true, ↓reduceIte, true_and]
      split_ifs with hlong
      · simp [Nat.not_le.2 hlong]
      · rw [follow]
        cases hfound : files.entry? (place ++ [name]) with
        | none =>
          simp only [reduceCtorEq, Nat.not_lt.1 hlong, true_and, false_iff, not_and]
          rintro rfl
          simp [hfound]
        | some below =>
          simp only [Except.ok.injEq, Prod.mk.injEq, Nat.not_lt.1 hlong, true_and]
          constructor
          · rintro ⟨rfl, rfl⟩
            exact ⟨rfl, hfound⟩
          · rintro ⟨rfl, hentry⟩
            exact ⟨rfl, Option.some.inj (hfound.symm.trans hentry)⟩

theorem below?_joinPath (hname : IsEntryName name) {path : List Char} {names : List Name}
    (h : files.below? (joinPath path name) = some names) :
    names = [] ∨ ∃ above, files.below? path = some above ∧ names = above ++ [name] := by
  simp only [below?, pathNames_joinPath hname.isRelative, hname.pathNames_eq] at h ⊢
  split_ifs at h with hbase
  obtain rfl := Option.some.inj h
  obtain hbase | hbase := List.prefix_concat_iff.1 (List.isPrefixOf_iff_prefix.1 hbase)
  · rw [hbase]
    exact .inl List.drop_length
  · refine .inr ⟨_, if_pos (List.isPrefixOf_iff_prefix.2 hbase), ?_⟩
    exact List.drop_append_of_le_length hbase.length_le

theorem find_eq_ok {path : List Char} {place : List Name} {entry : Entry} :
    files.find path = .ok (place, entry) ↔ '\x00' ∉ path ∧
      (asksForDirectory path = true → entry = .directory) ∧
      ∃ names, files.below? path = some names ∧ files.follow [] names = .ok (place, entry) := by
  unfold find
  by_cases hnul : '\x00' ∈ path
  · simp [hnul]
  · cases hbelow : files.below? path with
    | none => simp [hnul]
    | some names =>
      cases hfollow : files.follow [] names with
      | error fault => simp [hnul, hfollow]
      | ok found =>
        obtain ⟨place', entry'⟩ := found
        simp only [hnul, hfollow, Option.some.injEq, exists_eq_left', Except.ok.injEq,
          Prod.mk.injEq, List.contains_eq_mem, decide_false, Bool.false_eq_true, ↓reduceIte,
          Bool.and_eq_true, bne_iff_ne, not_false_eq_true, true_and]
        split_ifs with hasks
        · simp only [false_iff, not_and]
          rintro hdirectory rfl rfl
          exact hasks.2 (hdirectory hasks.1)
        · simp only [Except.ok.injEq, Prod.mk.injEq]
          refine ⟨?_, fun h ↦ h.2⟩
          rintro ⟨rfl, rfl⟩
          exact ⟨fun h ↦ by_contra fun hne ↦ hasks ⟨h, hne⟩, rfl, rfl⟩

theorem isFile_iff {path : List Char} :
    files.isFile path = true ↔ ∃ place bytes, files.find path = .ok (place, .file bytes) := by
  unfold isFile
  split
  case h_1 place bytes hfind => simp [hfind]
  case h_2 hfind =>
    simp only [Bool.false_eq_true, false_iff]
    rintro ⟨place, bytes, heq⟩
    exact hfind place bytes heq

/-- The directory of a file is listed, and the name of the file with it. -/
theorem exists_list_of_isFile (hname : IsEntryName name) {path : List Char}
    (h : files.isFile (joinPath path name) = true) :
    ∃ names, files.list path = .ok names ∧ name ∈ names := by
  obtain ⟨found, bytes, hfind⟩ := isFile_iff.1 h
  obtain ⟨hnul, -, names, hbelow, hfollow⟩ := find_eq_ok.1 hfind
  obtain rfl | ⟨above, habove, rfl⟩ := below?_joinPath hname hbelow
  · simp [follow, entry?] at hfollow
  · obtain ⟨directory, entry, hdirectory, hlast⟩ := follow_append_eq_ok.1 hfollow
    obtain ⟨habove', -, rfl, hentry⟩ := (follow_singleton_eq_ok hname.ne_dots).1 hlast
    obtain rfl : entry = .directory :=
      Option.some.inj ((entry?_of_follow_eq_ok hdirectory).symm.trans habove')
    have hpath : files.find path = .ok (directory, .directory) :=
      find_eq_ok.2 ⟨fun hmem ↦ hnul (mem_joinPath hname hmem), fun _ ↦ rfl, above, habove,
        hdirectory⟩
    refine ⟨files.entries.filterMap fun entry ↦ nameIn? directory entry.1, by simp [list, hpath],
      ?_⟩
    rw [List.mem_filterMap]
    exact ⟨(directory ++ [name], .file bytes), mem_entries_of_entry?_eq_some (by simp) hentry,
      nameIn?_eq_some.2 rfl⟩

end Files

end Galley.Site
