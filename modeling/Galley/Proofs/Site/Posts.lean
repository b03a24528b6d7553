import Mathlib
import Galley.Proofs.Site.Files
import Galley.Site.Posts

/-!
Listings, single posts and batches agree. All three read the file of a slug and split it into
metadata and body (`Layout.held?`); what they give is made of these two, and they fail where there
are none. Of a slug in the directory a listing has an entry, and a batch a post, exactly if it is
loaded, and the metadata and the post are those of the loaded one
(`Layout.listing_and_batch_agree_with_load`).

Slugs of one directory differ, since the name of a file is made of its slug, so that the order of a
listing is strict.
-/

set_option autoImplicit false
set_option relaxedAutoImplicit false

namespace Galley.Site

/-- Whether a post stands strictly before another one: it is newer, or of the same day with the
lesser slug. -/
def PostSummary.Before (a b : PostSummary) : Prop :=
  b.frontMatter.date < a.frontMatter.date ∨
    a.frontMatter.date = b.frontMatter.date ∧ a.slug < b.slug

namespace Layout

/-! ### The order of listings -/

theorem summaryLe_iff {a b : PostSummary} :
    summaryLe a b = true ↔ b.frontMatter.date < a.frontMatter.date ∨
      a.frontMatter.date = b.frontMatter.date ∧ a.slug ≤ b.slug := by
  unfold summaryLe
  split_ifs with hdate
  · simp [hdate, textLe]
  · simp [hdate]

theorem summaryLe_trans (a b c : PostSummary) (hab : summaryLe a b = true)
    (hbc : summaryLe b c = true) : summaryLe a c = true := by
  rw [summaryLe_iff] at hab hbc ⊢
  obtain hab | ⟨hdate, hab⟩ := hab
  · obtain hbc | ⟨hdate, -⟩ := hbc
    · exact .inl (hbc.trans hab)
    · exact .inl (hdate ▸ hab)
  · obtain hbc | ⟨hdate', hbc⟩ := hbc
    · exact .inl (hdate ▸ hbc)
    · exact .inr ⟨hdate.trans hdate', hab.trans hbc⟩

theorem summaryLe_total (a b : PostSummary) : (summaryLe a b || summaryLe b a) = true := by
  rw [Bool.or_eq_true, summaryLe_iff, summaryLe_iff]
  obtain hlt | heq | hgt := lt_trichotomy a.frontMatter.date b.frontMatter.date
  · exact .inr (.inl hlt)
  · obtain hle | hle := le_total a.slug b.slug
    · exact .inl (.inr ⟨heq, hle⟩)
    · exact .inr (.inr ⟨heq.symm, hle⟩)
  · exact .inl (.inl hgt)

theorem before_of_summaryLe {a b : PostSummary} (h : summaryLe a b = true) (hne : a.slug ≠ b.slug) :
    a.Before b :=
  (summaryLe_iff.1 h).imp_right fun ⟨hdate, hle⟩ ↦ ⟨hdate, lt_of_le_of_ne hle hne⟩

/-! ### Slugs of a directory -/

theorem eq_of_splitExtension? {name : Name} {stem extension : List Char}
    (h : splitExtension? name = some (stem, extension)) : name = stem ++ '.' :: extension := by
  unfold splitExtension? at h
  dsimp only at h
  split_ifs at h with hsplit
  obtain ⟨hstem, rfl⟩ := by simpa only [Option.some.injEq, Prod.mk.injEq] using h
  have hname := List.takeWhile_append_dropWhile (p := (· != '.')) (l := name.reverse)
  cases hrest : name.reverse.dropWhile (· != '.') with
  | nil =>
    rw [hrest, List.append_nil] at hname
    simp [hname] at hsplit
  | cons c rest =>
    have hdot : c = '.' := by
      simpa [hrest] using List.head_dropWhile_not (· != '.') (l := name.reverse) (by simp [hrest])
    generalize name.reverse.takeWhile (· != '.') = ending at *
    obtain rfl : name = rest.reverse ++ '.' :: ending.reverse := by
      rw [hrest, hdot] at hname
      simpa using congrArg List.reverse hname.symm
    have hlength : (rest.reverse ++ '.' :: ending.reverse).length - ending.reverse.length - 1 =
        rest.reverse.length := by
      simp only [List.length_append, List.length_cons, List.length_reverse]
      omega
    rw [← hstem, hlength, List.take_left]

/-- The file of a slug has the name that the slug was taken from. -/
theorem eq_fileName_of_slugOf? {l : Layout} {name : Name} {slug : List Char}
    (h : l.slugOf? name = some slug) : name = l.fileName slug := by
  unfold slugOf? at h
  split at h
  case h_1 stem extension hsplit =>
    obtain ⟨rfl, rfl⟩ : extension = l.extension ∧ stem = slug := by simpa using h
    exact eq_of_splitExtension? hsplit
  case h_2 => cases h

theorem nodup_slugs {l : Layout} {files : Files} {kind : Kind} {slugs : List (List Char)}
    (hfiles : files.ListsOnce) (h : l.slugs files kind = .ok slugs) : slugs.Nodup := by
  unfold Layout.slugs at h
  dsimp only at h
  split at h
  case h_1 => cases h; exact List.nodup_nil
  case h_2 => cases h
  case h_3 names hlist =>
    cases h
    rw [(List.mergeSort_perm _ _).nodup_iff]
    refine List.Nodup.filterMap (fun a b slug ha hb ↦ ?_) (hfiles.nodup_list hlist)
    have hname {name : Name} (h : slug ∈ l.slugAt? files (l.directory kind) name) :
        name = l.fileName slug := by
      unfold slugAt? at h
      split_ifs at h
      · exact eq_fileName_of_slugOf? h
      · cases h
    rw [hname ha, hname hb]

/-! ### What the file of a slug holds -/

section

variable (l : Layout) (files : Files) (kind : Kind) (slug : List Char)

/-- The metadata and the body in the file of a slug, if it can be read and split. -/
def held? : Option (Metadata.FrontMatter × List Char) := do
  let path ← l.path? kind slug
  let source ← (files.readText path).toOption
  (Metadata.split source).toOption

theorem toOption_load :
    (l.load files kind slug).toOption = (l.held? files kind slug).map fun held ↦
      ⟨slug, kind, l.pipeline.enhance held.1 held.2⟩ := by
  unfold load held?
  cases l.path? kind slug with
  | none => rfl
  | some path =>
    dsimp only [Option.bind_eq_bind, Option.bind_some]
    cases files.readText path with
    | error fault => cases fault <;> rfl
    | ok source =>
      unfold Pipeline.renderSource
      cases hsplit : Metadata.split source <;>
        simp [hsplit, bind, Except.bind, pure, Except.pure, Except.toOption]

theorem toOption_readSummary :
    (l.readSummary files kind slug).toOption =
      (l.held? files kind slug).map fun held ↦ ⟨slug, held.1⟩ := by
  unfold readSummary held?
  cases l.path? kind slug with
  | none => rfl
  | some path =>
    dsimp only [Option.bind_eq_bind, Option.bind_some]
    cases files.readText path with
    | error fault => rfl
    | ok source =>
      unfold Metadata.split
      cases hextract : Metadata.extract source with
      | error e => simp [hextract, bind, Except.bind, Except.toOption]
      | ok extraction =>
        cases hmatter : Metadata.frontMatter extraction.fields <;>
          simp [hextract, hmatter, bind, Except.bind, pure, Except.pure, Except.toOption]

theorem toOption_outcome :
    ((l.batchInput? files kind slug).bind fun input ↦
        (renderInput l.pipeline input).outcome.toOption) =
      (l.held? files kind slug).map fun held ↦ l.pipeline.enhance held.1 held.2 := by
  unfold batchInput? held?
  cases l.path? kind slug with
  | none => rfl
  | some path =>
    dsimp only [Option.bind_eq_bind, Option.bind_some, Option.map_some, renderInput]
    cases files.readText path with
    | error fault => rfl
    | ok source =>
      unfold Pipeline.renderSource
      cases hsplit : Metadata.split source <;>
        simp [hsplit, bind, Except.bind, pure, Except.pure, Except.toOption]

end

theorem toOption_eq_some {ε α : Type} {e : Except ε α} {a : α} :
    e.toOption = some a ↔ e = .ok a := by
  cases e <;> simp [Except.toOption]

variable {l : Layout} {files : Files} {kind : Kind} {slugs : List (List Char)}

theorem load_eq_ok {slug : List Char} {loaded : LoadedPost} :
    l.load files kind slug = .ok loaded ↔ ∃ held, l.held? files kind slug = some held ∧
      loaded = ⟨slug, kind, l.pipeline.enhance held.1 held.2⟩ := by
  rw [← toOption_eq_some, toOption_load, Option.map_eq_some_iff]
  simp only [eq_comm]

/-- The entries of a listing. -/
def summaries (l : Layout) (files : Files) (kind : Kind) (slugs : List (List Char)) :
    List PostSummary :=
  (slugs.filterMap fun slug ↦ (l.readSummary files kind slug).toOption).mergeSort summaryLe

/-- The results of a batch. -/
def results (l : Layout) (files : Files) (kind : Kind) (slugs : List (List Char)) :
    List BatchResult :=
  (slugs.filterMap (l.batchInput? files kind)).map (renderInput l.pipeline)

theorem mem_summaries {s : PostSummary} :
    s ∈ l.summaries files kind slugs ↔ s.slug ∈ slugs ∧
      ∃ held, l.held? files kind s.slug = some held ∧ s.frontMatter = held.1 := by
  rw [summaries, List.mem_mergeSort, List.mem_filterMap]
  constructor
  · rintro ⟨slug, hslug, hsummary⟩
    rw [toOption_readSummary, Option.map_eq_some_iff] at hsummary
    obtain ⟨held, hheld, rfl⟩ := hsummary
    exact ⟨hslug, held, hheld, rfl⟩
  · rintro ⟨hslug, held, hheld, hmatter⟩
    refine ⟨s.slug, hslug, ?_⟩
    rw [toOption_readSummary, hheld, Option.map_some, ← hmatter]

theorem exists_mem_results {slug : List Char} {post : Post} :
    (∃ r ∈ l.results files kind slugs, r.id = slug ∧ r.outcome = .ok post) ↔ slug ∈ slugs ∧
      ∃ held, l.held? files kind slug = some held ∧ l.pipeline.enhance held.1 held.2 = post := by
  have hid {slug : List Char} {input : BatchInput}
      (h : l.batchInput? files kind slug = some input) : input.id = slug := by
    obtain ⟨path, -, rfl⟩ := Option.map_eq_some_iff.1 h
    rfl
  rw [← Option.map_eq_some_iff, ← toOption_outcome, Option.bind_eq_some_iff]
  simp only [results, List.mem_map, List.mem_filterMap, toOption_eq_some]
  constructor
  · rintro ⟨r, ⟨input, ⟨slug', hslug, hinput⟩, rfl⟩, rfl, hpost⟩
    obtain rfl : input.id = slug' := hid hinput
    exact ⟨hslug, input, hinput, hpost⟩
  · rintro ⟨hslug, input, hinput, hpost⟩
    exact ⟨_, ⟨input, ⟨slug, hslug, hinput⟩, rfl⟩, hid hinput, hpost⟩

theorem nodup_map_summaries (hslugs : slugs.Nodup) :
    ((l.summaries files kind slugs).map (·.slug)).Nodup := by
  rw [summaries, ((List.mergeSort_perm _ _).map _).nodup_iff, List.map_filterMap]
  refine List.Nodup.filterMap (fun a b slug ha hb ↦ ?_) hslugs
  have hslug {a : List Char} (ha : slug ∈ (l.readSummary files kind a).toOption.map (·.slug)) :
      a = slug := by
    rw [toOption_readSummary, Option.map_map] at ha
    obtain ⟨held, -, rfl⟩ := Option.map_eq_some_iff.1 ha
    rfl
  rw [hslug ha, hslug hb]

theorem pairwise_summaries (hslugs : slugs.Nodup) :
    (l.summaries files kind slugs).Pairwise PostSummary.Before := by
  have hle := List.pairwise_mergeSort summaryLe_trans summaryLe_total
    (slugs.filterMap fun slug ↦ (l.readSummary files kind slug).toOption)
  have hne := List.pairwise_map.1 (@nodup_map_summaries l files kind slugs hslugs)
  exact (hle.and hne).imp fun ⟨hle, hne⟩ ↦ before_of_summaryLe hle hne

/-! ### Agreement -/

/-- A listing and the report of a batch say of given slugs what loading them says. -/
structure AgreeWithLoad (l : Layout) (files : Files) (kind : Kind) (slugs : List (List Char))
    (summaries : List PostSummary) (report : BatchReport) : Prop where
  listed_iff : ∀ slug ∈ slugs,
    (∃ s ∈ summaries, s.slug = slug) ↔ ∃ loaded, l.load files kind slug = .ok loaded
  frontMatter_eq : ∀ s ∈ summaries,
    s.slug ∈ slugs ∧ ∀ loaded, l.load files kind s.slug = .ok loaded →
      s.frontMatter = loaded.post.frontMatter
  rendered_iff : ∀ slug ∈ slugs, ∀ post,
    (∃ r ∈ report.results, r.id = slug ∧ r.outcome = .ok post) ↔
      l.load files kind slug = .ok ⟨slug, kind, post⟩

theorem agreeWithLoad (total : Nat) :
    l.AgreeWithLoad files kind slugs (l.summaries files kind slugs)
      ⟨l.results files kind slugs, total⟩ where
  listed_iff slug hslug := by
    constructor
    · rintro ⟨s, hs, rfl⟩
      obtain ⟨-, held, hheld, -⟩ := mem_summaries.1 hs
      exact ⟨_, load_eq_ok.2 ⟨held, hheld, rfl⟩⟩
    · rintro ⟨loaded, hloaded⟩
      obtain ⟨held, hheld, -⟩ := load_eq_ok.1 hloaded
      exact ⟨⟨slug, held.1⟩, mem_summaries.2 ⟨hslug, held, hheld, rfl⟩, rfl⟩
  frontMatter_eq s hs := by
    obtain ⟨hslug, held, hheld, hmatter⟩ := mem_summaries.1 hs
    refine ⟨hslug, fun loaded hloaded ↦ ?_⟩
    obtain ⟨held', hheld', rfl⟩ := load_eq_ok.1 hloaded
    cases hheld.symm.trans hheld'
    exact hmatter
  rendered_iff slug hslug post := by
    rw [exists_mem_results, load_eq_ok]
    constructor
    · rintro ⟨-, held, hheld, rfl⟩
      exact ⟨held, hheld, rfl⟩
    · rintro ⟨held, hheld, heq⟩
      exact ⟨hslug, held, hheld, (LoadedPost.mk.inj heq).2.2.symm⟩

/-- In a tree that lists every place once, a listing and a batch that goes on after failures agree
with loading on all slugs of a directory; the listing has no slug twice and is strictly in order.
Where the directory cannot be listed both fail for that reason. -/
theorem listing_and_batch_agree_with_load (l : Layout) (files : Files) (kind : Kind)
    (hfiles : files.ListsOnce) :
    (∀ error, l.slugs files kind = .error error →
      l.listing files kind = .error error ∧ l.renderAll files kind true = .error error) ∧
    ∀ slugs, l.slugs files kind = .ok slugs → ∃ summaries report,
      l.listing files kind = .ok summaries ∧ l.renderAll files kind true = .ok report ∧
        l.AgreeWithLoad files kind slugs summaries report ∧
        (summaries.map (·.slug)).Nodup ∧ summaries.Pairwise PostSummary.Before := by
  refine ⟨fun error herror ↦ ?_, fun slugs hslugs ↦ ?_⟩
  · simp [listing, renderAll, herror, bind, Except.bind]
  · refine ⟨l.summaries files kind slugs,
      ⟨l.results files kind slugs, (slugs.filterMap (l.batchInput? files kind)).length⟩,
      ?_, ?_, agreeWithLoad _, ?_, ?_⟩
    · simp [listing, summaries, hslugs, bind, Except.bind, pure, Except.pure]
    · simp [renderAll, renderBatch, results, hslugs, bind, Except.bind, pure, Except.pure]
    · exact nodup_map_summaries (nodup_slugs hfiles hslugs)
    · exact pairwise_summaries (nodup_slugs hfiles hslugs)

/-- Three files: a post, bytes that are no text, and a text whose metadata block is not closed. -/
def mixedFiles : Files :=
  ((({ base := [] } : Files).write "content/blog/setup.md".toList
      (Text.encodeUtf8 "---\ntitle: Setup\ndate: 2024-05-01\n---\nHello".toList)).write
    "content/blog/bytes.md".toList [0xff]).write
    "content/blog/open.md".toList (Text.encodeUtf8 "---\ntitle: Open".toList)

theorem slugs_mixedFiles : ({} : Layout).slugs mixedFiles .blog =
    .ok ["bytes".toList, "open".toList, "setup".toList] := by
  cbv

theorem listing_and_batch_agree_with_load_of_mixedFiles :
    mixedFiles.ListsOnce ∧ ∃ summaries report,
      ({} : Layout).listing mixedFiles .blog = .ok summaries ∧
        ({} : Layout).renderAll mixedFiles .blog true = .ok report ∧
        ({} : Layout).AgreeWithLoad mixedFiles .blog
          ["bytes".toList, "open".toList, "setup".toList] summaries report ∧
        (summaries.map (·.slug)).Nodup ∧ summaries.Pairwise PostSummary.Before := by
  have hfiles : mixedFiles.ListsOnce :=
    (((Files.ListsOnce.of_nil []).write _ _).write _ _).write _ _
  exact ⟨hfiles, (listing_and_batch_agree_with_load {} mixedFiles .blog hfiles).2 _
    slugs_mixedFiles⟩

end Layout

end Galley.Site
