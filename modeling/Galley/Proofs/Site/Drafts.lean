import Mathlib
import Galley.Slug.Search
import Galley.Site.Drafts
import Galley.Proofs.Slugger
import Galley.Proofs.Site.Addresses
import Galley.Proofs.Site.Saving

/-!
Slugs for new posts. No more slugs have a post than there are entries in a tree of files
(`Layout.length_le_of_forall_hasPost`), whatever the directory of a kind and the extension are, so
that the search for a slug ends with one that no file has. A draft that is saved under it takes no
file's place, and its own slug is not free from then on. So drafts that are saved one after the
other leave every file as it was, and have slugs that differ from each other
(`Layout.drafts_overwrite_nothing`).
-/

set_option autoImplicit false
set_option relaxedAutoImplicit false

namespace Galley.Site.Layout

/-- The slug that a post with the given title asks for. -/
def titleSlug (title : List Char) : List Char :=
  if slugify title = [] then untitled else slugify title

theorem titleSlug_chars (title : List Char) : ∀ c ∈ titleSlug title, isSlugChar c = true := by
  unfold titleSlug
  split_ifs
  · exact List.all_eq_true.1 (by decide)
  · exact slugRest_chars false false _

theorem titleSlug_ne_nil (title : List Char) : titleSlug title ≠ [] := by
  unfold titleSlug
  split_ifs with hnil
  · decide
  · exact hnil

theorem isAddressable_of_chars {slug : List Char} (hne : slug ≠ [])
    (hchars : ∀ c ∈ slug, isSlugChar c = true) : IsAddressable slug := by
  have hnotMem {c : Char} (hc : isSlugChar c = false) : c ∉ slug := fun hmem ↦
    Bool.false_ne_true (hc.symm.trans (hchars c hmem))
  have hdot : '.' ∉ slug := hnotMem (by decide)
  exact
    { ne_nil := hne
      noDotFirst := fun hhead ↦ hdot (List.mem_of_head? hhead)
      noSlash := hnotMem (by decide)
      noBackslash := hnotMem (by decide)
      noDoubleDot := fun hdots ↦ hdot (hdots.subset (by simp)) }

/-! ### Slugs with posts -/

section

variable (l : Layout)

/-- The first name of the file of a slug, up to a slash in the extension. -/
def firstName (slug : List Char) : Name := slug ++ '.' :: l.extension.takeWhile (· != '/')

theorem firstName_injective : Function.Injective l.firstName :=
  fun _ _ heq ↦ List.append_cancel_right heq

variable {l} {slug : List Char}

theorem isRelative_fileName (hslug : IsAddressable slug) : (l.fileName slug).head? ≠ some '/' := by
  obtain ⟨c, rest, rfl⟩ := List.exists_cons_of_ne_nil hslug.ne_nil
  rintro ⟨⟩
  exact hslug.noSlash List.mem_cons_self

theorem isEntryName_firstName (hslug : IsAddressable slug) : IsEntryName (l.firstName slug) := by
  have hslash : '/' ∉ l.extension.takeWhile (· != '/') := by
    intro hmem
    simpa using List.mem_takeWhile_imp hmem
  exact isEntryName_fileName (l := { l with extension := l.extension.takeWhile (· != '/') })
    hslash hslug

theorem exists_pathNames_fileName (hslug : IsAddressable slug) :
    ∃ more, pathNames (l.fileName slug) = l.firstName slug :: more := by
  have hfirst := (isEntryName_firstName (l := l) hslug).pathNames_eq
  have hname : l.fileName slug = l.firstName slug ++ l.extension.dropWhile (· != '/') := by
    rw [fileName, firstName, List.append_assoc, List.cons_append, List.takeWhile_append_dropWhile]
  rw [hname]
  cases hrest : l.extension.dropWhile (· != '/') with
  | nil => exact ⟨[], by rw [List.append_nil, hfirst]⟩
  | cons c rest =>
    obtain rfl : c = '/' := by
      simpa [hrest] using List.head_dropWhile_not (· != '/') (l := l.extension) (by simp [hrest])
    exact ⟨pathNames rest, by rw [pathNames_append_slash, hfirst, List.singleton_append]⟩

variable {files : Files} {kind : Kind}

/-- The names that lead to a file of a slug, if there is one. -/
theorem exists_names_of_hasPost (h : l.hasPost files kind slug = true) :
    ∃ more, pathNames files.base <+:
        pathNames (l.directory kind) ++ l.firstName slug :: more ∧
      ∃ place bytes, files.follow []
        ((pathNames (l.directory kind) ++ l.firstName slug :: more).drop
          (pathNames files.base).length) = .ok (place, .file bytes) := by
  obtain ⟨hslug, hfile⟩ := hasPost_iff.1 h
  obtain ⟨more, hmore⟩ := exists_pathNames_fileName (l := l) hslug
  obtain ⟨place, bytes, hfind⟩ := Files.isFile_iff.1 hfile
  obtain ⟨-, -, names, hbelow, hfollow⟩ := Files.find_eq_ok.1 hfind
  simp only [Files.below?, pathNames_joinPath (isRelative_fileName hslug), hmore] at hbelow
  split_ifs at hbelow with hbase
  obtain rfl := Option.some.inj hbelow
  exact ⟨more, List.isPrefixOf_iff_prefix.1 hbase, place, bytes, hfollow⟩

theorem entries_ne_nil_of_hasPost (h : l.hasPost files kind slug = true) : files.entries ≠ [] := by
  obtain ⟨more, -, place, bytes, hfollow⟩ := exists_names_of_hasPost h
  have hentry := Files.entry?_of_follow_eq_ok hfollow
  have hne : place ≠ [] := by
    rintro rfl
    cases hentry
  exact List.ne_nil_of_mem (Files.mem_entries_of_entry?_eq_some hne hentry)

/-- In a tree that begins no further down than the directory of a kind, the first name of every post
is that of an entry of one directory. -/
theorem exists_directory_of_hasPost
    (hbase : (pathNames files.base).length ≤ (pathNames (l.directory kind)).length) :
    ∃ directory : List Name, ∀ slug, l.hasPost files kind slug = true →
      directory ++ [l.firstName slug] ∈ files.entries.map Prod.fst := by
  cases hfollow : files.follow [] ((pathNames (l.directory kind)).drop
      (pathNames files.base).length) with
  | error fault =>
    refine ⟨[], fun slug hslug ↦ ?_⟩
    obtain ⟨more, -, place, bytes, hpost⟩ := exists_names_of_hasPost hslug
    rw [List.drop_append_of_le_length hbase, Files.follow_append, hfollow] at hpost
    cases hpost
  | ok found =>
    refine ⟨found.1, fun slug hslug ↦ ?_⟩
    obtain ⟨more, -, place, bytes, hpost⟩ := exists_names_of_hasPost hslug
    rw [List.drop_append_of_le_length hbase, Files.follow_append, hfollow] at hpost
    change files.follow found.1 ([l.firstName slug] ++ more) = _ at hpost
    rw [Files.follow_append_eq_ok] at hpost
    obtain ⟨between, entry, hfirst, -⟩ := hpost
    obtain ⟨-, -, rfl, hentry⟩ := (Files.follow_singleton_eq_ok
      (isEntryName_firstName (hasPost_iff.1 hslug).1).ne_dots).1 hfirst
    exact List.mem_map.2 ⟨_, Files.mem_entries_of_entry?_eq_some (by simp) hentry, rfl⟩

/-- A tree that begins further down begins behind the first name of one slug, and no other slug has
a post in it. -/
theorem eq_of_hasPost {other : List Char}
    (hbase : (pathNames (l.directory kind)).length < (pathNames files.base).length)
    (hslug : l.hasPost files kind slug = true) (hother : l.hasPost files kind other = true) :
    slug = other := by
  have hfront {slug : List Char} (hslug : l.hasPost files kind slug = true) :
      pathNames (l.directory kind) ++ [l.firstName slug] <+: pathNames files.base := by
    obtain ⟨more, hnames, -⟩ := exists_names_of_hasPost hslug
    exact List.prefix_of_prefix_length_le ⟨more, by simp⟩ hnames (by simpa using hbase)
  have hsame := (List.prefix_of_prefix_length_le (hfront hslug) (hfront hother)
    (by simp)).eq_of_length (by simp)
  exact l.firstName_injective (by simpa using hsame)

/-- No more slugs have a post than there are entries. -/
theorem length_le_of_forall_hasPost {slugs : List (List Char)} (hnodup : slugs.Nodup)
    (hslugs : ∀ slug ∈ slugs, l.hasPost files kind slug = true) :
    slugs.length ≤ files.entries.length := by
  obtain hbase | hbase :=
    le_or_gt (pathNames files.base).length (pathNames (l.directory kind)).length
  · obtain ⟨directory, hdirectory⟩ := exists_directory_of_hasPost (l := l) hbase
    have hsubset : slugs.map (fun slug ↦ directory ++ [l.firstName slug]) ⊆
        files.entries.map Prod.fst := by
      intro place hplace
      obtain ⟨slug, hslug, rfl⟩ := List.mem_map.1 hplace
      exact hdirectory slug (hslugs slug hslug)
    have hdistinct : (slugs.map fun slug ↦ directory ++ [l.firstName slug]).Nodup :=
      hnodup.map fun slug other heq ↦ l.firstName_injective (by simpa using heq)
    simpa using (hdistinct.subperm hsubset).length_le
  · cases slugs with
    | nil => exact Nat.zero_le _
    | cons slug rest =>
      have hslug := hslugs slug List.mem_cons_self
      obtain rfl : rest = [] := by
        refine List.eq_nil_iff_forall_not_mem.2 fun other hother ↦ ?_
        obtain rfl := eq_of_hasPost hbase hslug (hslugs other (List.mem_cons_of_mem slug hother))
        exact (List.nodup_cons.1 hnodup).1 hother
      exact List.length_pos_iff.2 (entries_ne_nil_of_hasPost hslug)

/-! ### The search for a slug -/

/-- The first free name for a base: the base itself, or else the base with the least number from one
on. -/
inductive IsFreshName (taken : List Char → Bool) (base : List Char) : List Char → Prop
  | bare (hfree : taken base = false) : IsFreshName taken base base
  | numbered {n : Nat} (htaken : taken base = true) (hle : 1 ≤ n)
    (hfree : taken (numbered base n) = false)
    (hleast : ∀ m, 1 ≤ m → m < n → taken (Galley.numbered base m) = true) :
    IsFreshName taken base (Galley.numbered base n)

variable {title : List Char}

theorem freshSlug_eq (l : Layout) (files : Files) (kind : Kind) (title : List Char) :
    l.freshSlug files kind title =
      if l.hasPost files kind (titleSlug title) then
        firstFree (l.hasPost files kind) (titleSlug title) files.entries.length 1
      else titleSlug title := by
  unfold freshSlug titleSlug
  cases slugify title <;> rfl

theorem nodup_numbered (base : List Char) (n : Nat) :
    (base :: (List.range n).map fun i ↦ numbered base (1 + i)).Nodup := by
  refine List.nodup_cons.2 ⟨fun hmem ↦ ?_,
    List.nodup_range.map ((numbered_injective base).comp (add_right_injective 1))⟩
  obtain ⟨i, -, heq⟩ := List.mem_map.1 hmem
  exact numbered_ne_self base (1 + i) heq

/-- If a base and its first numbers all have posts, there are more entries than numbers. -/
theorem lt_of_forall_hasPost {base : List Char} {n : Nat}
    (hbase : l.hasPost files kind base = true)
    (hnumbered : ∀ i < n, l.hasPost files kind (numbered base (1 + i)) = true) :
    n < files.entries.length := by
  have htaken : ∀ slug ∈ base :: (List.range n).map fun i ↦ numbered base (1 + i),
      l.hasPost files kind slug = true := by
    intro slug hslug
    obtain rfl | hslug := List.mem_cons.1 hslug
    · exact hbase
    · obtain ⟨i, hi, rfl⟩ := List.mem_map.1 hslug
      exact hnumbered i (List.mem_range.1 hi)
  simpa using length_le_of_forall_hasPost (nodup_numbered base n) htaken

theorem hasPost_freshSlug (l : Layout) (files : Files) (kind : Kind) (title : List Char) :
    l.hasPost files kind (l.freshSlug files kind title) = false := by
  rw [freshSlug_eq]
  split_ifs with hbase
  · rw [← Bool.not_eq_true]
    intro htaken
    have hpassed := isTaken_of_firstFree htaken
    exact lt_irrefl _ (lt_of_forall_hasPost hbase fun i hi ↦ hpassed i hi.le)
  · simpa using hbase

theorem isFreshName_freshSlug (l : Layout) (files : Files) (kind : Kind) (title : List Char) :
    IsFreshName (l.hasPost files kind) (titleSlug title) (l.freshSlug files kind title) := by
  have hfree := hasPost_freshSlug l files kind title
  rw [freshSlug_eq] at hfree ⊢
  split_ifs at hfree ⊢ with hbase
  · obtain ⟨i, heq, hpassed⟩ := exists_firstFree (l.hasPost files kind) (titleSlug title)
      files.entries.length 1
    rw [heq] at hfree ⊢
    refine .numbered hbase (Nat.le_add_right 1 i) hfree fun m hle hlt ↦ ?_
    obtain ⟨j, rfl⟩ := Nat.exists_eq_add_of_le hle
    exact hpassed j (Nat.lt_of_add_lt_add_left hlt)
  · exact .bare hfree

/-- The search tries no more taken names than there are entries. -/
theorem exists_endsIn_freshSlug (l : Layout) (files : Files) (kind : Kind) (title : List Char) :
    ∃ turns ≤ files.entries.length,
      Search.EndsIn (l.hasPost files kind) (titleSlug title) turns ⟨titleSlug title, 1⟩
        (l.freshSlug files kind title) := by
  have hfresh := isFreshName_freshSlug l files kind title
  generalize l.freshSlug files kind title = slug at hfresh ⊢
  cases hfresh with
  | bare hfree =>
    exact ⟨0, Nat.zero_le _, .free ⟨titleSlug title, 1⟩ (by simp [Search.turn?, hfree])⟩
  | @numbered n htaken hle hfree hleast =>
    obtain ⟨turns, rfl⟩ := Nat.exists_eq_add_of_le hle
    have hpassed : ∀ i < turns, l.hasPost files kind (numbered (titleSlug title) (1 + i)) = true :=
      fun i hi ↦ hleast (1 + i) (Nat.le_add_right 1 i) (Nat.add_lt_add_left hi 1)
    exact ⟨turns + 1, lt_of_forall_hasPost htaken hpassed,
      .turn ⟨numbered (titleSlug title) 1, 2⟩ (by simp [Search.turn?, htaken])
        (Search.endsIn_numbered hpassed hfree)⟩

theorem isAddressable_freshSlug (l : Layout) (files : Files) (kind : Kind) (title : List Char) :
    IsAddressable (l.freshSlug files kind title) := by
  have hfresh := isFreshName_freshSlug l files kind title
  generalize l.freshSlug files kind title = slug at hfresh ⊢
  cases hfresh with
  | bare _ => exact isAddressable_of_chars (titleSlug_ne_nil title) (titleSlug_chars title)
  | numbered =>
    exact isAddressable_of_chars (by simp [numbered]) (numbered_chars (titleSlug_chars title) _)

end

/-! ### Drafts -/

section

variable {l : Layout} {files files' : Files} {draft : Draft} {slug : List Char}

/-- What a saved draft has done. -/
theorem addDraft_eq_ok (h : l.addDraft files draft = .ok (files', slug)) :
    slug = l.freshSlug files draft.kind draft.title ∧
      l.path? draft.kind slug = some (joinPath (l.directory draft.kind) (l.fileName slug)) ∧
      files.save (joinPath (l.directory draft.kind) (l.fileName slug)) draft.bytes =
        .ok files' := by
  have haddressable := isAddressable_freshSlug l files draft.kind draft.title
  unfold addDraft at h
  generalize l.freshSlug files draft.kind draft.title = fresh at h haddressable ⊢
  have hpath : l.path? draft.kind fresh =
      some (joinPath (l.directory draft.kind) (l.fileName fresh)) := by
    rw [path?_eq, if_pos haddressable]
  simp only [hpath] at h
  cases hsave : files.save (joinPath (l.directory draft.kind) (l.fileName fresh)) draft.bytes with
  | error fault => simp [hsave] at h
  | ok saved =>
    simp only [hsave, Except.ok.injEq, Prod.mk.injEq] at h
    obtain ⟨rfl, rfl⟩ := h
    exact ⟨rfl, hpath, hsave⟩

/-- All files of a tree are files of another one, with the same bytes. -/
def KeepsFiles (files files' : Files) : Prop :=
  ∀ path place bytes, files.find path = .ok (place, .file bytes) →
    files'.find path = .ok (place, .file bytes)

theorem KeepsFiles.hasPost (h : KeepsFiles files files') {kind : Kind}
    (hpost : l.hasPost files kind slug = true) : l.hasPost files' kind slug = true := by
  obtain ⟨hslug, hfile⟩ := hasPost_iff.1 hpost
  obtain ⟨place, bytes, hfind⟩ := Files.isFile_iff.1 hfile
  exact hasPost_iff.2 ⟨hslug, Files.isFile_iff.2 ⟨place, bytes, h _ _ _ hfind⟩⟩

/-- The file of a post holds the bytes of a draft. -/
def HoldsDraft (l : Layout) (files : Files) (draft : Draft) (slug : List Char) : Prop :=
  ∃ path place, l.path? draft.kind slug = some path ∧
    files.find path = .ok (place, .file draft.bytes)

theorem HoldsDraft.keep (h : l.HoldsDraft files draft slug) (hkeep : KeepsFiles files files') :
    l.HoldsDraft files' draft slug := by
  obtain ⟨path, place, hpath, hfind⟩ := h
  exact ⟨path, place, hpath, hkeep _ _ _ hfind⟩

theorem HoldsDraft.hasPost (h : l.HoldsDraft files draft slug) :
    l.hasPost files draft.kind slug = true := by
  obtain ⟨path, place, hpath, hfind⟩ := h
  simp [Layout.hasPost, hpath, Files.isFile_iff.2 ⟨place, draft.bytes, hfind⟩]

/-- A saved draft takes no file's place: all files stay, its slug had none, and the file of its slug
holds its bytes. -/
theorem addDraft_keeps (h : l.addDraft files draft = .ok (files', slug)) :
    KeepsFiles files files' ∧ l.hasPost files draft.kind slug = false ∧
      l.HoldsDraft files' draft slug := by
  obtain ⟨rfl, hpath, hsave⟩ := addDraft_eq_ok h
  have hpost := hasPost_freshSlug l files draft.kind draft.title
  have hfree : files.isFile (joinPath (l.directory draft.kind)
      (l.fileName (l.freshSlug files draft.kind draft.title))) = false := by
    simpa [Layout.hasPost, hpath] using hpost
  obtain ⟨directory, name, hcan, rfl⟩ := Files.save_eq_ok hsave
  exact ⟨fun path place bytes hfind ↦ Files.find_put_eq_ok (hcan.entry?_eq_none hfree) _ hfind,
    hpost, _, _, hpath, hcan.find_put_self hfree draft.bytes⟩

/-- Drafts that are saved one after the other take no file's place, and of those of one kind no two
have the same slug. -/
theorem addDrafts_keeps {drafts : List Draft} {slugs : List (List Char)}
    (h : l.addDrafts files drafts = .ok (files', slugs)) :
    KeepsFiles files files' ∧ List.Forall₂ (l.HoldsDraft files') drafts slugs ∧
      (∀ saved ∈ (drafts.map (·.kind)).zip slugs, l.hasPost files saved.1 saved.2 = false) ∧
      ((drafts.map (·.kind)).zip slugs).Nodup := by
  induction drafts generalizing files slugs with
  | nil =>
    obtain ⟨rfl, rfl⟩ : files = files' ∧ [] = slugs := by simpa [addDrafts] using h
    exact ⟨fun _ _ _ hfind ↦ hfind, .nil, by simp, List.nodup_nil⟩
  | cons draft rest ih =>
    simp only [addDrafts, bind, Except.bind, pure, Except.pure] at h
    split at h
    case h_1 => cases h
    case h_2 first hfirst =>
      obtain ⟨between, slug⟩ := first
      dsimp only at h
      split at h
      case h_1 => cases h
      case h_2 others hothers =>
        obtain ⟨after, others⟩ := others
        obtain ⟨rfl, rfl⟩ : after = files' ∧ slug :: others = slugs := by simpa using h
        obtain ⟨hkeeps, hfree, hholds⟩ := addDraft_keeps hfirst
        obtain ⟨hkeeps', hholds', hfree', hnodup⟩ := ih hothers
        refine ⟨fun path place bytes hfind ↦ hkeeps' _ _ _ (hkeeps _ _ _ hfind),
          .cons (hholds.keep hkeeps') hholds', ?_, ?_⟩
        · intro saved hsaved
          obtain rfl | hsaved := List.mem_cons.1 hsaved
          · exact hfree
          · rw [← Bool.not_eq_true]
            intro hpost
            have hfree := hfree' saved hsaved
            rw [hkeeps.hasPost hpost] at hfree
            cases hfree
        · refine List.nodup_cons.2 ⟨fun hmem ↦ ?_, hnodup⟩
          have hfree : l.hasPost between draft.kind slug = false := hfree' (draft.kind, slug) hmem
          rw [hholds.hasPost] at hfree
          cases hfree

/-- The slug of a new post is the first free name for that of its title, and found in no more turns
than there are entries. Drafts that are saved one after the other leave every file as it was and
each have a file of their own in the end, which was not there before; of those of one kind no two
have the same slug. -/
theorem drafts_overwrite_nothing (l : Layout) (files : Files) :
    (∀ kind title,
      (∃ path, l.path? kind (l.freshSlug files kind title) = some path) ∧
        l.hasPost files kind (l.freshSlug files kind title) = false ∧
        IsFreshName (l.hasPost files kind) (titleSlug title) (l.freshSlug files kind title) ∧
        ∃ turns ≤ files.entries.length,
          Search.EndsIn (l.hasPost files kind) (titleSlug title) turns ⟨titleSlug title, 1⟩
            (l.freshSlug files kind title)) ∧
    ∀ drafts files' slugs, l.addDrafts files drafts = .ok (files', slugs) →
      KeepsFiles files files' ∧ List.Forall₂ (l.HoldsDraft files') drafts slugs ∧
        (∀ saved ∈ (drafts.map (·.kind)).zip slugs, l.hasPost files saved.1 saved.2 = false) ∧
        ((drafts.map (·.kind)).zip slugs).Nodup := by
  refine ⟨fun kind title ↦ ⟨?_, hasPost_freshSlug l files kind title,
    isFreshName_freshSlug l files kind title, exists_endsIn_freshSlug l files kind title⟩,
    fun drafts files' slugs h ↦ addDrafts_keeps h⟩
  rw [path?_eq, if_pos (isAddressable_freshSlug l files kind title)]
  exact ⟨_, rfl⟩

/-- A post, and a note in a directory of its own. -/
def plainFiles : Files :=
  (({ base := [] } : Files).write "content/blog/setup.md".toList (Text.encodeUtf8 "1".toList)).write
    "content/til/grep.md".toList (Text.encodeUtf8 "2".toList)

/-- Drafts whose titles have the slugs of posts, of each other and of each other with a number. -/
def plainDrafts : List Draft :=
  [⟨.blog, "Setup!".toList, [49]⟩, ⟨.blog, "setup 1".toList, [50]⟩, ⟨.til, "Setup".toList, [51]⟩,
    ⟨.blog, "Setup".toList, [52]⟩, ⟨.blog, "???".toList, [53]⟩]

theorem drafts_overwrite_nothing_of_plainDrafts : ∃ files',
    ({} : Layout).addDrafts plainFiles plainDrafts = .ok (files', ["setup-1".toList,
      "setup-1-1".toList, "setup".toList, "setup-2".toList, "untitled".toList]) ∧
      KeepsFiles plainFiles files' := by
  have hslugs : (({} : Layout).addDrafts plainFiles plainDrafts).toOption.map Prod.snd = some
      ["setup-1".toList, "setup-1-1".toList, "setup".toList, "setup-2".toList,
        "untitled".toList] := by decide +kernel
  obtain ⟨⟨files', slugs⟩, hrun, rfl⟩ := Option.map_eq_some_iff.1 hslugs
  rw [toOption_eq_some] at hrun
  exact ⟨files', hrun, ((drafts_overwrite_nothing {} plainFiles).2 _ _ _ hrun).1⟩

end

end Galley.Site.Layout
