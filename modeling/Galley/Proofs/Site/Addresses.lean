import Galley.Proofs.Site.Paths
import Galley.Proofs.Site.Posts

/-!
Which of the slugs in a directory lead to a post. The slugs of a directory are taken from the names
of its files, and a slug leads back to its file if it is addressable (`IsAddressable`): it has no
dot in front, no two dots side by side and no backslash. So the posts are the addressable slugs of
the directory, and a batch has a result for each of them and for no other slug
(`Layout.posts_are_addressable_slugs`). Files such as `a..b.md` are listed and have no post.
-/

set_option autoImplicit false
set_option relaxedAutoImplicit false

namespace Galley.Site

/-- A slug that can name a file. -/
structure IsAddressable (slug : List Char) : Prop where
  ne_nil : slug ≠ []
  noDotFirst : slug.head? ≠ some '.'
  noSlash : '/' ∉ slug
  noBackslash : '\\' ∉ slug
  noDoubleDot : ¬ ['.', '.'] <:+: slug

namespace Layout

theorem hasDoubleDot_iff (slug : List Char) : hasDoubleDot slug = true ↔ ['.', '.'] <:+: slug := by
  fun_induction hasDoubleDot slug with
  | case1 rest => exact iff_of_true rfl (List.prefix_append ['.', '.'] rest).isInfix
  | case2 c rest hdots ih =>
    rw [ih, List.infix_cons_iff]
    refine (or_iff_right ?_).symm
    rintro ⟨back, heq⟩
    obtain ⟨rfl, rfl⟩ := List.cons.inj heq
    exact hdots back rfl rfl
  | case3 => simp

theorem isSafeSlug_iff {slug : List Char} : isSafeSlug slug = true ↔ IsAddressable slug := by
  have hdots : hasDoubleDot slug = false ↔ ¬ ['.', '.'] <:+: slug := by
    rw [← hasDoubleDot_iff, Bool.not_eq_true]
  simp only [isSafeSlug, Bool.and_eq_true, Bool.not_eq_true', bne_iff_ne, List.isEmpty_eq_false_iff,
    List.contains_eq_mem, decide_eq_false_iff_not, hdots]
  constructor
  · rintro ⟨⟨⟨⟨hnil, hfirst⟩, hslash⟩, hbackslash⟩, hdouble⟩
    exact ⟨hnil, hfirst, hslash, hbackslash, hdouble⟩
  · rintro ⟨hnil, hfirst, hslash, hbackslash, hdouble⟩
    exact ⟨⟨⟨⟨hnil, hfirst⟩, hslash⟩, hbackslash⟩, hdouble⟩

instance (slug : List Char) : Decidable (IsAddressable slug) :=
  decidable_of_iff _ isSafeSlug_iff

/-! ### Names of files -/

theorem splitExtension?_append {slug extension : List Char} (hslug : slug ≠ [])
    (hfirst : slug.head? ≠ some '.') (hdot : '.' ∉ extension) :
    splitExtension? (slug ++ '.' :: extension) = some (slug, extension) := by
  have hending : ((slug ++ '.' :: extension).reverse.takeWhile (· != '.')).reverse = extension := by
    have hall : ∀ c ∈ extension.reverse, (c != '.') = true := by
      intro c hc
      rw [bne_iff_ne]
      rintro rfl
      exact hdot (List.mem_reverse.1 hc)
    rw [List.reverse_append, List.reverse_cons, List.append_assoc,
      List.takeWhile_append_of_pos hall, List.singleton_append,
      List.takeWhile_cons_of_neg (by simp), List.append_nil, List.reverse_reverse]
  have hstem : (slug ++ '.' :: extension).take
      ((slug ++ '.' :: extension).length - extension.length - 1) = slug := by
    have hlength : (slug ++ '.' :: extension).length - extension.length - 1 = slug.length := by
      simp only [List.length_append, List.length_cons]
      omega
    rw [hlength, List.take_left]
  have hdots : slug ++ '.' :: extension ≠ ['.', '.'] := by
    intro heq
    cases slug with
    | nil => exact hslug rfl
    | cons c rest =>
      obtain ⟨rfl, -⟩ := List.cons.inj heq
      exact hfirst rfl
  unfold splitExtension?
  simp only [hending, hstem]
  refine if_pos ?_
  simp [hslug, hdots]
  omega

section

variable {l : Layout} {slug : List Char}

theorem slugOf?_fileName (hdot : '.' ∉ l.extension) (hslug : IsAddressable slug) :
    l.slugOf? (l.fileName slug) = some slug := by
  simp [slugOf?, fileName, splitExtension?_append hslug.ne_nil hslug.noDotFirst hdot]

theorem isEntryName_fileName (hslash : '/' ∉ l.extension) (hslug : IsAddressable slug) :
    IsEntryName (l.fileName slug) := by
  obtain ⟨c, rest, rfl⟩ := List.exists_cons_of_ne_nil hslug.ne_nil
  have hfirst : c ≠ '.' := fun heq ↦ hslug.noDotFirst (by rw [heq]; rfl)
  refine ⟨by simp [fileName], ?_, by simp [fileName], by simp [fileName, hfirst]⟩
  simp only [fileName, List.mem_append, List.mem_cons, not_or]
  exact ⟨by simpa using hslug.noSlash, by decide, hslash⟩

theorem path?_eq (kind : Kind) : l.path? kind slug =
    if IsAddressable slug then some (joinPath (l.directory kind) (l.fileName slug)) else none := by
  simp only [path?, isSafeSlug_iff]

/-! ### Posts of a directory -/

variable {files : Files} {kind : Kind}

theorem hasPost_iff : l.hasPost files kind slug = true ↔
    IsAddressable slug ∧ files.isFile (joinPath (l.directory kind) (l.fileName slug)) = true := by
  rw [hasPost, path?_eq]
  split_ifs with hslug
  · simp [hslug]
  · simp [hslug]

theorem slugAt?_eq_some {directory : List Char} {name : Name} :
    l.slugAt? files directory name = some slug ↔
      files.isFile (joinPath directory name) = true ∧ l.slugOf? name = some slug := by
  unfold slugAt?
  split_ifs with hfile
  · simp [hfile]
  · simp [hfile]

theorem exists_list_of_hasPost (hslash : '/' ∉ l.extension)
    (h : l.hasPost files kind slug = true) :
    ∃ names, files.list (l.directory kind) = .ok names ∧ l.fileName slug ∈ names := by
  obtain ⟨hslug, hfile⟩ := hasPost_iff.1 h
  exact Files.exists_list_of_isFile (isEntryName_fileName hslash hslug) hfile

variable {slugs : List (List Char)}

/-- A slug is one of a directory if a file there has a name that it is taken from. -/
theorem mem_slugs_iff (h : l.slugs files kind = .ok slugs) : slug ∈ slugs ↔
    ∃ names, files.list (l.directory kind) = .ok names ∧
      ∃ name ∈ names, files.isFile (joinPath (l.directory kind) name) = true ∧
        l.slugOf? name = some slug := by
  unfold Layout.slugs at h
  dsimp only at h
  split at h
  case h_1 hlist =>
    cases h
    simp [hlist]
  case h_2 => cases h
  case h_3 names hlist =>
    cases h
    simp [hlist, List.mem_mergeSort, List.mem_filterMap, slugAt?_eq_some]

theorem exists_slugs_of_hasPost (hslash : '/' ∉ l.extension)
    (h : l.hasPost files kind slug = true) : ∃ slugs, l.slugs files kind = .ok slugs := by
  obtain ⟨names, hlist, -⟩ := exists_list_of_hasPost hslash h
  exact ⟨(names.filterMap (l.slugAt? files (l.directory kind))).mergeSort textLe,
    by simp [Layout.slugs, hlist]⟩

theorem hasPost_iff_mem_slugs (hdot : '.' ∉ l.extension) (hslash : '/' ∉ l.extension)
    (h : l.slugs files kind = .ok slugs) :
    l.hasPost files kind slug = true ↔ slug ∈ slugs ∧ IsAddressable slug := by
  rw [mem_slugs_iff h]
  constructor
  · intro hpost
    obtain ⟨hslug, hfile⟩ := hasPost_iff.1 hpost
    obtain ⟨names, hlist, hmem⟩ := exists_list_of_hasPost hslash hpost
    exact ⟨⟨names, hlist, _, hmem, hfile, slugOf?_fileName hdot hslug⟩, hslug⟩
  · rintro ⟨⟨names, -, name, -, hfile, hname⟩, hslug⟩
    rw [eq_fileName_of_slugOf? hname] at hfile
    exact hasPost_iff.2 ⟨hslug, hfile⟩

theorem map_id_results (slugs : List (List Char)) :
    (l.results files kind slugs).map (·.id) = slugs.filter (IsAddressable ·) := by
  induction slugs with
  | nil => rfl
  | cons slug rest ih =>
    by_cases hslug : IsAddressable slug
    · have hinput : ∃ source, l.batchInput? files kind slug = some ⟨slug, source⟩ :=
        ⟨_, by simp only [batchInput?, path?_eq, if_pos hslug, Option.map_some]; rfl⟩
      obtain ⟨source, hinput⟩ := hinput
      rw [List.filter_cons_of_pos (by simpa using hslug), ← ih, results,
        List.filterMap_cons_some hinput]
      rfl
    · have hinput : l.batchInput? files kind slug = none := by
        simp only [batchInput?, path?_eq, if_neg hslug, Option.map_none]
      rw [List.filter_cons_of_neg (by simpa using hslug), ← ih, results,
        List.filterMap_cons_none hinput, results]

/-- What the slugs of a directory, the paths of slugs and the report of a batch say of each other:
the posts are the addressable slugs of the directory, the path of such a slug is that of the file
that the slug was taken from, and the batch has one result for it. -/
structure AreAddressed (l : Layout) (files : Files) (kind : Kind) (slugs : List (List Char))
    (report : BatchReport) : Prop where
  hasPost_iff : ∀ slug, l.hasPost files kind slug = true ↔ slug ∈ slugs ∧ IsAddressable slug
  path_eq : ∀ slug ∈ slugs, ∃ names name, files.list (l.directory kind) = .ok names ∧ name ∈ names ∧
    l.slugOf? name = some slug ∧ l.path? kind slug =
      if IsAddressable slug then some (joinPath (l.directory kind) name) else none
  ids_eq : report.results.map (·.id) = slugs.filter (IsAddressable ·)
  count_eq : ∀ slug ∈ slugs,
    (report.results.map (·.id)).count slug = if IsAddressable slug then 1 else 0

theorem areAddressed (hfiles : files.ListsOnce) (hdot : '.' ∉ l.extension)
    (hslash : '/' ∉ l.extension) (h : l.slugs files kind = .ok slugs) (total : Nat) :
    l.AreAddressed files kind slugs ⟨l.results files kind slugs, total⟩ where
  hasPost_iff slug := hasPost_iff_mem_slugs hdot hslash h
  path_eq slug hslug := by
    obtain ⟨names, hlist, name, hmem, -, hname⟩ := (mem_slugs_iff h).1 hslug
    refine ⟨names, name, hlist, hmem, hname, ?_⟩
    rw [path?_eq, eq_fileName_of_slugOf? hname]
  ids_eq := map_id_results slugs
  count_eq slug hslug := by
    rw [map_id_results]
    split_ifs with haddressable
    · rw [List.count_filter (by simpa using haddressable)]
      exact List.count_eq_one_of_mem (nodup_slugs hfiles h) hslug
    · rw [List.count_eq_zero]
      intro hmem
      exact haddressable (by simpa using (List.mem_filter.1 hmem).2)

/-- Where a directory can be listed its addressable slugs have a post and a result in a batch each;
where it cannot there is no post and no batch. So all listed slugs have a post, and each has one
result, exactly if all of them are addressable. -/
theorem posts_are_addressable_slugs (l : Layout) (files : Files) (kind : Kind)
    (hfiles : files.ListsOnce) (hdot : '.' ∉ l.extension) (hslash : '/' ∉ l.extension) :
    (∀ error, l.slugs files kind = .error error →
      (∀ slug, l.hasPost files kind slug = false) ∧
        l.renderAll files kind true = .error error) ∧
    ∀ slugs, l.slugs files kind = .ok slugs →
      ∃ report, l.renderAll files kind true = .ok report ∧
        l.AreAddressed files kind slugs report ∧
        ((∀ slug, slug ∈ slugs ↔ l.hasPost files kind slug = true) ↔
          ∀ slug ∈ slugs, IsAddressable slug) ∧
        ((∀ slug ∈ slugs, (report.results.map (·.id)).count slug = 1) ↔
          ∀ slug ∈ slugs, IsAddressable slug) := by
  constructor
  · intro error herror
    refine ⟨fun slug ↦ ?_, by simp [renderAll, herror, bind, Except.bind]⟩
    rw [← Bool.not_eq_true]
    intro hpost
    obtain ⟨slugs, hslugs⟩ := exists_slugs_of_hasPost hslash hpost
    simp [herror] at hslugs
  · intro slugs hslugs
    have haddressed := areAddressed hfiles hdot hslash hslugs
      (slugs.filterMap (l.batchInput? files kind)).length
    refine ⟨_, ?_, haddressed, ?_, ?_⟩
    · simp [renderAll, renderBatch, results, hslugs, bind, Except.bind, pure, Except.pure]
    · simp only [haddressed.hasPost_iff]
      exact forall_congr' fun slug ↦ by rw [iff_self_and]
    · refine forall₂_congr fun slug hslug ↦ ?_
      rw [haddressed.count_eq slug hslug]
      split_ifs with haddressable
      · simp [haddressable]
      · simp [haddressable]

end

/-- Two files, the name of one with two dots side by side. -/
def dottedFiles : Files :=
  (({ base := [] } : Files).write "content/blog/setup.md".toList
    (Text.encodeUtf8 "Hello".toList)).write
    "content/blog/wait..what.md".toList (Text.encodeUtf8 "Hello".toList)

theorem dottedFiles_listsOnce : dottedFiles.ListsOnce :=
  ((Files.ListsOnce.of_nil []).write _ _).write _ _

theorem slugs_dottedFiles : ({} : Layout).slugs dottedFiles .blog =
    .ok ["setup".toList, "wait..what".toList] := by
  cbv

theorem posts_are_addressable_slugs_of_dottedFiles :
    dottedFiles.ListsOnce ∧ '.' ∉ ({} : Layout).extension ∧ '/' ∉ ({} : Layout).extension ∧
      ∃ report, ({} : Layout).renderAll dottedFiles .blog true = .ok report ∧
        ({} : Layout).AreAddressed dottedFiles .blog ["setup".toList, "wait..what".toList]
          report := by
  have hdot : '.' ∉ ({} : Layout).extension := by decide
  have hslash : '/' ∉ ({} : Layout).extension := by decide
  obtain ⟨-, hlisted⟩ :=
    posts_are_addressable_slugs {} dottedFiles .blog dottedFiles_listsOnce hdot hslash
  obtain ⟨report, hreport, haddressed, -⟩ := hlisted _ slugs_dottedFiles
  exact ⟨dottedFiles_listsOnce, hdot, hslash, report, hreport, haddressed⟩

/-- A file with two dots side by side in its name is listed, and yet it has no post, no path and no
result in a batch. -/
theorem dotted_slug_has_no_post :
    ({} : Layout).slugs dottedFiles .blog = .ok ["setup".toList, "wait..what".toList] ∧
      ({} : Layout).hasPost dottedFiles .blog "wait..what".toList = false ∧
      ({} : Layout).path? .blog "wait..what".toList = none ∧
      ∃ report, ({} : Layout).renderAll dottedFiles .blog true = .ok report ∧
        report.results.map (·.id) = ["setup".toList] := by
  refine ⟨slugs_dottedFiles, by decide, by decide, ⟨({} : Layout).results dottedFiles .blog
    ["setup".toList, "wait..what".toList], 1⟩, ?_, ?_⟩
  · simp only [renderAll, slugs_dottedFiles]
    rfl
  · rw [map_id_results]
    decide

end Layout

end Galley.Site
