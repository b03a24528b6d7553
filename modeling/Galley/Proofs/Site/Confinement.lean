import Mathlib
import Galley.Site.Access
import Galley.Proofs.Site.Addresses

/-!
Posts are read within the directory of their kind. The path of a post is that directory with one
name behind it, its own, and the operations on posts ask for nothing else: whatever is replied, they
read files at paths of posts only, and look at no other paths than those of entries of the directory
(`Access.Keeps`). That a post is not found says that its slug is refused or that the directory has
no such name. `Layout.Confines` puts this together.
-/

set_option autoImplicit false
set_option relaxedAutoImplicit false

namespace Galley.Site

/-! ### Parts of paths -/

/-- What a path starts from: the root, or the directory that a dot in front stands for. -/
def pathStart : List Char → List Name
  | '/' :: _ => [['/']]
  | ['.'] => [['.']]
  | '.' :: '/' :: _ => [['.']]
  | _ => []

/-- The parts of a path. Paths of the same parts are one path. -/
def pathParts (path : List Char) : List Name := pathStart path ++ pathNames path

/-- The parts of the directory that the last part of a path stands in. -/
def parentParts (path : List Char) : List Name := (pathParts path).dropLast

variable {name : Name}

theorem IsEntryName.pathStart_eq (h : IsEntryName name) : pathStart name = [] := by
  unfold pathStart
  split
  case h_1 => exact absurd rfl h.isRelative
  case h_2 => exact absurd rfl h.ne_dot
  case h_3 => exact absurd (by simp) h.noSlash
  case h_4 => rfl

theorem pathStart_cons_cons (c d : Char) (rest : List Char) : pathStart (c :: d :: rest) =
    if c = '/' then [['/']] else if c = '.' ∧ d = '/' then [['.']] else [] := by
  unfold pathStart
  split
  case h_1 heq => rw [if_pos (List.cons.inj heq).1]
  case h_2 heq => cases heq
  case h_3 heq =>
    cases heq
    rfl
  case h_4 hroot _ hdot =>
    rw [if_neg fun hc ↦ hroot (d :: rest) (by rw [hc]),
      if_neg fun hcd ↦ hdot rest (by rw [hcd.1, hcd.2])]

theorem pathStart_append_slash {path : List Char} (hpath : path ≠ []) (name : List Char) :
    pathStart (path ++ '/' :: name) = pathStart path := by
  match path with
  | [] => exact absurd rfl hpath
  | [c] =>
    rw [List.singleton_append, pathStart_cons_cons]
    by_cases hroot : c = '/'
    · rw [hroot]
      rfl
    · by_cases hdot : c = '.'
      · rw [hdot]
        rfl
      · rw [if_neg hroot, if_neg fun hc ↦ hdot hc.1]
        unfold pathStart
        split <;> simp_all
  | c :: d :: rest =>
    rw [List.cons_append, List.cons_append, pathStart_cons_cons, pathStart_cons_cons]

theorem pathStart_joinPath (h : IsEntryName name) (path : List Char) :
    pathStart (joinPath path name) = pathStart path := by
  obtain ⟨heq, rfl | ⟨front, rfl⟩⟩ | heq := joinPath_eq h.isRelative path
  · rw [heq, List.nil_append, h.pathStart_eq]
    rfl
  · rw [heq, List.append_assoc, List.singleton_append]
    cases front with
    | nil => rfl
    | cons c front =>
      rw [pathStart_append_slash (List.cons_ne_nil c front),
        pathStart_append_slash (List.cons_ne_nil c front)]
  · cases path with
    | nil =>
      have hself : joinPath [] name = name := by
        obtain ⟨c, rest, rfl⟩ := List.exists_cons_of_ne_nil h.ne_nil
        unfold joinPath
        split <;> rfl
      rw [hself, h.pathStart_eq]
      rfl
    | cons c path => rw [heq, pathStart_append_slash (List.cons_ne_nil c path)]

theorem pathParts_joinPath (h : IsEntryName name) (path : List Char) :
    pathParts (joinPath path name) = pathParts path ++ [name] := by
  rw [pathParts, pathStart_joinPath h, pathNames_joinPath h.isRelative, h.pathNames_eq,
    ← List.append_assoc, ← pathParts]

/-! ### Programs over files -/

namespace Access

variable {α β : Type}

theorem run_bind (files : Files) (program : Access α) (next : α → Access β) :
    (program.bind next).run files = (next (program.run files)).run files := by
  induction program with
  | done value => rfl
  | isFile path rest ih => exact ih _
  | readText path rest ih => exact ih _
  | list path rest ih => exact ih _

theorem run_collect (files : Files) (program : α → Access (Option β)) (members : List α) :
    (collect program members).run files =
      members.filterMap fun member ↦ (program member).run files := by
  induction members with
  | nil => rfl
  | cons first rest ih =>
    rw [collect]
    change ((program first).bind fun found ↦ (collect program rest).bind fun others ↦
      done (found.toList ++ others)).run files = _
    rw [run_bind, run_bind, ih, List.filterMap_cons]
    cases (program first).run files <;> rfl

/-- What a program may ask for. -/
structure Permit where
  look : List Char → Prop
  read : List Char → Prop
  list : List Char → Prop

/-- A program asks for what is permitted only, whatever is replied; the names in a directory are
names of entries. -/
def Keeps (permit : Permit) : Access α → Prop
  | done _ => True
  | isFile path next => permit.look path ∧ ∀ reply, (next reply).Keeps permit
  | readText path next => permit.read path ∧ ∀ reply, (next reply).Keeps permit
  | list path next => permit.list path ∧
    ∀ reply, (∀ names, reply = .ok names → ∀ name ∈ names, IsEntryName name) →
      (next reply).Keeps permit

variable {permit : Permit}

theorem Keeps.bind {program : Access α} {next : α → Access β} (h : program.Keeps permit)
    (hnext : ∀ value, (next value).Keeps permit) : (program.bind next).Keeps permit := by
  induction program with
  | done value => exact hnext value
  | isFile path rest ih => exact ⟨h.1, fun reply ↦ ih reply (h.2 reply)⟩
  | readText path rest ih => exact ⟨h.1, fun reply ↦ ih reply (h.2 reply)⟩
  | list path rest ih => exact ⟨h.1, fun reply hreply ↦ ih reply (h.2 reply hreply)⟩

theorem Keeps.collect {program : α → Access (Option β)} {members : List α}
    (h : ∀ member ∈ members, (program member).Keeps permit) :
    (collect program members).Keeps permit := by
  induction members with
  | nil => trivial
  | cons first rest ih =>
    exact .bind (h first List.mem_cons_self) fun found ↦
      .bind (ih fun member hmember ↦ h member (List.mem_cons_of_mem first hmember)) fun others ↦
        trivial

end Access

/-! ### Names in a directory -/

namespace Files

variable {files : Files} {path : List Char} {names : List Name}

theorem find_eq_follow {below : List Name} (hnul : '\x00' ∉ path)
    (hasks : asksForDirectory path = false) (hbelow : files.below? path = some below) :
    files.find path = files.follow [] below := by
  unfold find
  rw [if_neg (by simpa using hnul), hbelow]
  dsimp only
  rw [hasks]
  cases files.follow [] below <;> rfl

theorem follow_singleton {place : List Name} (hplace : files.entry? place = some .directory)
    (hshort : Metadata.byteCount name ≤ nameLimit) (hdots : name ≠ ['.', '.']) :
    files.follow place [name] = match files.entry? (place ++ [name]) with
      | some entry => .ok (place ++ [name], entry)
      | none => .error .notFound := by
  cases hentry : files.entry? (place ++ [name]) with
  | none => simp [follow, hplace, Nat.not_lt.2 hshort, hdots, hentry]
  | some entry => simp [follow, hplace, Nat.not_lt.2 hshort, hdots, hentry]

theorem notMem_joinPath (h : IsEntryName name) {c : Char} (hc : c ≠ '/') (hpath : c ∉ path)
    (hname : c ∉ name) : c ∉ joinPath path name := by
  obtain ⟨heq, -⟩ | heq := joinPath_eq h.isRelative path
  · simp [heq, hpath, hname]
  · simp [heq, hpath, hname, hc]

/-- In a directory that is there, the path of a name leads to its entry, if it has one. -/
theorem find_joinPath (h : IsEntryName name) (hshort : Metadata.byteCount name ≤ nameLimit)
    (hnul : '\x00' ∉ name) {place : List Name}
    (hpath : files.find path = .ok (place, .directory)) :
    files.find (joinPath path name) = match files.entry? (place ++ [name]) with
      | some entry => .ok (place ++ [name], entry)
      | none => .error .notFound := by
  obtain ⟨hfree, -, below, hbelow, hfollow⟩ := find_eq_ok.1 hpath
  have hbelow' : files.below? (joinPath path name) = some (below ++ [name]) := by
    simp only [below?, pathNames_joinPath h.isRelative, h.pathNames_eq] at hbelow ⊢
    split_ifs at hbelow with hbase
    obtain rfl := Option.some.inj hbelow
    have hfront := List.isPrefixOf_iff_prefix.1 hbase
    rw [if_pos (List.isPrefixOf_iff_prefix.2 (hfront.trans (List.prefix_append _ _))),
      List.drop_append_of_le_length hfront.length_le]
  rw [find_eq_follow (notMem_joinPath h (by decide) hfree hnul) (asksForDirectory_joinPath h path)
    hbelow', follow_append, hfollow]
  exact follow_singleton (entry?_of_follow_eq_ok hfollow) hshort h.ne_dots

/-- A name is missing in a directory if and only if nothing is found at its path. -/
theorem find_joinPath_eq_notFound_iff (h : IsEntryName name)
    (hshort : Metadata.byteCount name ≤ nameLimit) (hnul : '\x00' ∉ name)
    (hlist : files.list path = .ok names) :
    files.find (joinPath path name) = .error .notFound ↔ name ∉ names := by
  unfold list at hlist
  split at hlist
  case h_1 => cases hlist
  case h_2 => cases hlist
  case h_3 place hpath =>
    obtain rfl := Except.ok.inj hlist
    rw [find_joinPath h hshort hnul hpath]
    cases hentry : files.entry? (place ++ [name]) with
    | some entry =>
      have hmem := mem_entries_of_entry?_eq_some (by simp) hentry
      have hlisted : name ∈ files.entries.filterMap fun entry ↦ nameIn? place entry.1 :=
        List.mem_filterMap.2 ⟨_, hmem, nameIn?_eq_some.2 rfl⟩
      simpa using hlisted
    | none =>
      rw [entry?_eq_lookup (by simp), List.lookup_eq_none_iff] at hentry
      simp only [true_iff]
      intro hlisted
      obtain ⟨entry, hmem, hname⟩ := List.mem_filterMap.1 hlisted
      exact absurd (nameIn?_eq_some.1 hname).symm (by simpa using hentry entry hmem)

end Files

namespace Layout

/-! ### The same operations as programs -/

section

variable (l : Layout) (files : Files) (kind : Kind) (slug : List Char)

theorem run_hasPostAccess : (l.hasPostAccess kind slug).run files = l.hasPost files kind slug := by
  unfold hasPostAccess hasPost
  cases l.path? kind slug <;> rfl

theorem run_loadAccess : (l.loadAccess kind slug).run files = l.load files kind slug := by
  unfold loadAccess load
  cases l.path? kind slug <;> rfl

theorem run_slugsAccess : (l.slugsAccess kind).run files = l.slugs files kind := by
  unfold slugsAccess slugs
  dsimp only [Access.run]
  cases files.list (l.directory kind) with
  | error fault => cases fault <;> rfl
  | ok names =>
    change (Access.bind _ _).run files = _
    rw [Access.run_bind, Access.run_collect]
    rfl

theorem run_summaryAccess : (l.summaryAccess kind slug).run files =
    (l.readSummary files kind slug).toOption := by
  unfold summaryAccess readSummary
  cases l.path? kind slug with
  | none => rfl
  | some path =>
    dsimp only [Access.run]
    cases files.readText path with
    | error fault => rfl
    | ok source =>
      cases hextract : Metadata.extract source with
      | error error => simp [hextract, Except.toOption]
      | ok extraction =>
        cases hmatter : Metadata.frontMatter extraction.fields <;>
          simp [hextract, hmatter, Except.toOption]

theorem run_listingAccess : (l.listingAccess kind).run files = l.listing files kind := by
  unfold listingAccess listing
  change (Access.bind _ _).run files = _
  rw [Access.run_bind, run_slugsAccess]
  cases l.slugs files kind with
  | error error => rfl
  | ok slugs =>
    change (Access.bind _ _).run files = _
    rw [Access.run_bind, Access.run_collect]
    simp only [run_summaryAccess]
    rfl

theorem run_inputAccess :
    (l.inputAccess kind slug).run files = l.batchInput? files kind slug := by
  unfold inputAccess batchInput?
  cases l.path? kind slug <;> rfl

theorem run_renderAllAccess (goesOn : Bool) :
    (l.renderAllAccess kind goesOn).run files = l.renderAll files kind goesOn := by
  unfold renderAllAccess renderAll
  change (Access.bind _ _).run files = _
  rw [Access.run_bind, run_slugsAccess]
  cases l.slugs files kind with
  | error error => rfl
  | ok slugs =>
    change (Access.bind _ _).run files = _
    rw [Access.run_bind, Access.run_collect]
    simp only [run_inputAccess]
    rfl

end

/-! ### What the operations ask for -/

/-- What may be asked for the sake of one slug: a file at its path. -/
def postPermit (l : Layout) (kind : Kind) (slug : List Char) : Access.Permit where
  look path := l.path? kind slug = some path
  read path := l.path? kind slug = some path
  list _ := False

/-- What may be asked for the sake of all posts of a kind: files at their paths are read, entries of
their directory are looked at, and it is listed. -/
def directoryPermit (l : Layout) (kind : Kind) : Access.Permit where
  look path := ∃ name, IsEntryName name ∧ path = joinPath (l.directory kind) name
  read path := ∃ slug, l.path? kind slug = some path
  list path := path = l.directory kind

section

variable {l : Layout} {slug path : List Char} {kind : Kind}

/-- The path of a post is its directory with the name of its file. -/
theorem eq_joinPath_of_path? (hslash : '/' ∉ l.extension) (h : l.path? kind slug = some path) :
    IsEntryName (l.fileName slug) ∧ path = joinPath (l.directory kind) (l.fileName slug) := by
  rw [path?_eq] at h
  split_ifs at h with hslug
  exact ⟨isEntryName_fileName hslash hslug, (Option.some.inj h).symm⟩

theorem keeps_hasPostAccess (l : Layout) (kind : Kind) (slug : List Char) :
    (l.hasPostAccess kind slug).Keeps (l.postPermit kind slug) := by
  unfold hasPostAccess
  cases hpath : l.path? kind slug with
  | none => trivial
  | some path => exact ⟨hpath, fun _ ↦ trivial⟩

theorem keeps_loadAccess (l : Layout) (kind : Kind) (slug : List Char) :
    (l.loadAccess kind slug).Keeps (l.postPermit kind slug) := by
  unfold loadAccess
  cases hpath : l.path? kind slug with
  | none => trivial
  | some path => exact ⟨hpath, fun _ ↦ trivial⟩

theorem keeps_slugsAccess (l : Layout) (kind : Kind) :
    (l.slugsAccess kind).Keeps (l.directoryPermit kind) := by
  refine ⟨rfl, fun reply hreply ↦ ?_⟩
  cases reply with
  | error fault => cases fault <;> trivial
  | ok names =>
    exact Access.Keeps.bind (.collect fun name hname ↦ ⟨⟨name, hreply names rfl name hname, rfl⟩,
      fun _ ↦ trivial⟩) fun _ ↦ trivial

theorem keeps_summaryAccess (l : Layout) (kind : Kind) (slug : List Char) :
    (l.summaryAccess kind slug).Keeps (l.directoryPermit kind) := by
  unfold summaryAccess
  cases hpath : l.path? kind slug with
  | none => trivial
  | some path => exact ⟨⟨slug, hpath⟩, fun _ ↦ trivial⟩

theorem keeps_inputAccess (l : Layout) (kind : Kind) (slug : List Char) :
    (l.inputAccess kind slug).Keeps (l.directoryPermit kind) := by
  unfold inputAccess
  cases hpath : l.path? kind slug with
  | none => trivial
  | some path => exact ⟨⟨slug, hpath⟩, fun _ ↦ trivial⟩

theorem keeps_listingAccess (l : Layout) (kind : Kind) :
    (l.listingAccess kind).Keeps (l.directoryPermit kind) := by
  refine (keeps_slugsAccess l kind).bind fun slugs ↦ ?_
  cases slugs with
  | error error => trivial
  | ok slugs =>
    exact Access.Keeps.bind (.collect fun slug _ ↦ keeps_summaryAccess l kind slug) fun _ ↦ trivial

theorem keeps_renderAllAccess (l : Layout) (kind : Kind) (goesOn : Bool) :
    (l.renderAllAccess kind goesOn).Keeps (l.directoryPermit kind) := by
  refine (keeps_slugsAccess l kind).bind fun slugs ↦ ?_
  cases slugs with
  | error error => trivial
  | ok slugs =>
    exact Access.Keeps.bind (.collect fun slug _ ↦ keeps_inputAccess l kind slug) fun _ ↦ trivial

/-! ### Posts that are not found -/

theorem load_eq_notFound_iff {files : Files} :
    l.load files kind slug = .error (.notFound kind slug) ↔ l.path? kind slug = none ∨
      ∃ path, l.path? kind slug = some path ∧ files.find path = .error .notFound := by
  unfold load
  cases l.path? kind slug with
  | none => simp
  | some path =>
    simp only [reduceCtorEq, Option.some.injEq, exists_eq_left', false_or]
    have hread : files.readText path = .error .notFound ↔ files.find path = .error .notFound := by
      unfold Files.readText
      split
      · simp [*]
      · simp [*]
      · split <;> simp [*]
    rw [← hread]
    cases files.readText path with
    | error fault => cases fault <;> simp
    | ok source => cases hpost : l.pipeline.renderSource source <;> simp [hpost]

/-- In a directory that can be listed, a post is not found exactly if its slug is refused or the
name of its file is not among the names there. -/
theorem load_eq_notFound_iff_notMem {files : Files} {names : List Name}
    (hslash : '/' ∉ l.extension) (hlist : files.list (l.directory kind) = .ok names)
    (hshort : Metadata.byteCount (l.fileName slug) ≤ nameLimit) (hnul : '\x00' ∉ l.fileName slug) :
    l.load files kind slug = .error (.notFound kind slug) ↔
      l.path? kind slug = none ∨ l.fileName slug ∉ names := by
  rw [load_eq_notFound_iff]
  cases hpath : l.path? kind slug with
  | none => simp
  | some path =>
    obtain ⟨hentry, rfl⟩ := eq_joinPath_of_path? hslash hpath
    simp only [reduceCtorEq, Option.some.injEq, exists_eq_left', false_or]
    exact Files.find_joinPath_eq_notFound_iff hentry hshort hnul hlist

end

/-! ### Confinement -/

/-- Posts of a kind are kept within the directory of the kind. The path of a slug is the directory
and one name, no two slugs share one, the operations ask for nothing outside, and a post is not
found exactly if there is no such name. -/
structure Confines (l : Layout) (kind : Kind) : Prop where
  within : ∀ slug path, l.path? kind slug = some path →
    parentParts path = pathParts (l.directory kind) ∧
      (pathParts path).getLast? = some (l.fileName slug) ∧ IsEntryName (l.fileName slug)
  apart : ∀ slug other path path', l.path? kind slug = some path → l.path? kind other = some path' →
    pathParts path = pathParts path' → slug = other
  hasPost : ∀ slug, (l.hasPostAccess kind slug).Keeps (l.postPermit kind slug) ∧
    ∀ files, (l.hasPostAccess kind slug).run files = l.hasPost files kind slug
  load : ∀ slug, (l.loadAccess kind slug).Keeps (l.postPermit kind slug) ∧
    ∀ files, (l.loadAccess kind slug).run files = l.load files kind slug
  listing : (l.listingAccess kind).Keeps (l.directoryPermit kind) ∧
    ∀ files, (l.listingAccess kind).run files = l.listing files kind
  renderAll : ∀ goesOn, (l.renderAllAccess kind goesOn).Keeps (l.directoryPermit kind) ∧
    ∀ files, (l.renderAllAccess kind goesOn).run files = l.renderAll files kind goesOn
  not_found : ∀ files slug, l.load files kind slug = .error (.notFound kind slug) ↔
    l.path? kind slug = none ∨
      ∃ path, l.path? kind slug = some path ∧ files.find path = .error .notFound
  missing : ∀ files slug names, files.list (l.directory kind) = .ok names →
    Metadata.byteCount (l.fileName slug) ≤ nameLimit → '\x00' ∉ l.fileName slug →
    (l.load files kind slug = .error (.notFound kind slug) ↔
      l.path? kind slug = none ∨ l.fileName slug ∉ names)

theorem posts_stay_in_directory (l : Layout) (kind : Kind) (hslash : '/' ∉ l.extension) :
    l.Confines kind where
  within slug path hpath := by
    obtain ⟨hentry, rfl⟩ := eq_joinPath_of_path? hslash hpath
    rw [parentParts, pathParts_joinPath hentry]
    exact ⟨List.dropLast_concat, List.getLast?_concat, hentry⟩
  apart slug other path path' hpath hpath' hparts := by
    obtain ⟨hentry, rfl⟩ := eq_joinPath_of_path? hslash hpath
    obtain ⟨hentry', rfl⟩ := eq_joinPath_of_path? hslash hpath'
    rw [pathParts_joinPath hentry, pathParts_joinPath hentry'] at hparts
    have hname : l.fileName slug = l.fileName other := by simpa using hparts
    exact List.append_cancel_right hname
  hasPost slug := ⟨keeps_hasPostAccess l kind slug, fun files ↦ run_hasPostAccess l files kind slug⟩
  load slug := ⟨keeps_loadAccess l kind slug, fun files ↦ run_loadAccess l files kind slug⟩
  listing := ⟨keeps_listingAccess l kind, fun files ↦ run_listingAccess l files kind⟩
  renderAll goesOn :=
    ⟨keeps_renderAllAccess l kind goesOn, fun files ↦ run_renderAllAccess l files kind goesOn⟩
  not_found _ _ := load_eq_notFound_iff
  missing _ _ _ hlist hshort hnul := load_eq_notFound_iff_notMem hslash hlist hshort hnul

/-- Where two files are, a slug that points to one of them from another directory is not found, nor
is one that has no file. -/
theorem posts_stay_in_directory_of_dottedFiles : '/' ∉ ({} : Layout).extension ∧
    ({} : Layout).Confines .blog ∧
    ({} : Layout).load dottedFiles .til "../blog/setup".toList =
      .error (.notFound .til "../blog/setup".toList) ∧
    ({} : Layout).load dottedFiles .blog "start".toList =
      .error (.notFound .blog "start".toList) := by
  have hslash : '/' ∉ ({} : Layout).extension := by decide
  have hlist : dottedFiles.list (({} : Layout).directory .blog) =
      .ok ["wait..what.md".toList, "setup.md".toList] := by decide +kernel
  exact ⟨hslash, posts_stay_in_directory {} .blog hslash,
    ((posts_stay_in_directory {} .til hslash).not_found dottedFiles _).2 (.inl (by decide)),
    ((posts_stay_in_directory {} .blog hslash).missing dottedFiles _ _ hlist (by decide)
      (by decide)).2 (.inr (by decide))⟩

end Layout

end Galley.Site
