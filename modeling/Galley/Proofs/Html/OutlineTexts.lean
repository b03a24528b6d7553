import Galley.Proofs.Html.Outline
import Galley.Proofs.Text.References

/-!
The texts of an outline. The scan for headings meets the headings that are closed on their lines
(`closedHeadings`); it lists those of them whose content is more than tags and blanks, and the
others leave no trace (`headingsFrom_eq_entriesFrom`). Blanks are trimmed before references are
replaced, so that a heading whose content is nothing but references to blanks is listed, with a
blank text (`outline_has_no_blank_text_iff`).
-/

set_option autoImplicit false
set_option relaxedAutoImplicit false

namespace Galley.Html

/-- A heading that is closed on its line: its level, the identifier that it has as its first
attribute, and what stands between its tags. -/
structure ClosedHeading where
  level : Nat
  id : Option (List Char)
  content : List Char
deriving DecidableEq, Repr

/-- The closed headings of a text, after dropping `skip` characters. -/
def closedFrom : Nat → List Char → List ClosedHeading
  | _, [] => []
  | skip + 1, _ :: rest => closedFrom skip rest
  | 0, c :: rest =>
    match headingOpen? (c :: rest) with
    | none => closedFrom 0 rest
    | some opening =>
      match headingInner? opening.level opening.rest with
      | none => closedFrom 0 rest
      | some inner => ⟨opening.level, opening.id, inner⟩ ::
          closedFrom (rest.length - opening.rest.length + inner.length + 5) rest

/-- The closed headings of a page. -/
def closedHeadings (html : List Char) : List ClosedHeading := closedFrom 0 html

/-- What is listed of a closed heading: nothing if it has no text. -/
def ClosedHeading.listing? (heading : ClosedHeading) : Option Listing :=
  if headingText heading.content = [] then none
  else some ⟨heading.id.map Text.unescape, headingText heading.content, heading.level⟩

theorem headingCandidate_eq_wanted (id : Option (List Char)) (text : List Char) (level : Nat) :
    headingCandidate id text = (Listing.mk (id.map Text.unescape) text level).wanted := rfl

/-- Of the closed headings those with a text are listed; the others claim no identifier. -/
theorem headingsFrom_eq_entriesFrom (skip : Nat) (slugger : Slugger) (s : List Char) :
    headingsFrom skip slugger s =
      Listing.entriesFrom slugger ((closedFrom skip s).filterMap ClosedHeading.listing?) := by
  fun_induction headingsFrom skip slugger s with
  | case1 => rfl
  | case2 _ _ _ _ ih => exact ih
  | case3 _ _ _ hopen ih => rw [ih, closedFrom, hopen]
  | case4 _ _ _ _ hopen hinner ih =>
    rw [ih, closedFrom, hopen]
    simp only [hinner]
  | case5 slugger c rest opening hopen inner hinner skip text htext ih =>
    have hnone : (ClosedHeading.mk opening.level opening.id inner).listing? = none :=
      if_pos (List.isEmpty_iff.1 htext)
    rw [ih, closedFrom, hopen]
    simp only [hinner, List.filterMap_cons_none hnone, skip]
  | case6 slugger c rest opening hopen inner hinner skip text htext slugger' id hclaim ih =>
    have hsome : (ClosedHeading.mk opening.level opening.id inner).listing? =
        some ⟨opening.id.map Text.unescape, text, opening.level⟩ :=
      if_neg (List.isEmpty_iff.not.1 htext)
    rw [headingCandidate_eq_wanted opening.id text opening.level] at hclaim
    obtain ⟨rfl, rfl⟩ := Prod.mk.inj hclaim
    rw [ih, closedFrom, hopen]
    simp only [hinner, List.filterMap_cons_some hsome, Listing.entriesFrom_cons, Slugger.claim,
      skip]

theorem map_text_entriesFrom (slugger : Slugger) (listings : List Listing) :
    (Listing.entriesFrom slugger listings).map (·.text) = listings.map (·.text) := by
  induction listings generalizing slugger with
  | nil => rfl
  | cons listing rest ih => rw [Listing.entriesFrom_cons, List.map_cons, ih, List.map_cons]

/-- Nothing is left of a heading without tags and blanks if it has no text. -/
theorem headingText_eq_nil_iff {content : List Char} :
    headingText content = [] ↔ Text.isBlankText (stripTags content) = true := by
  rw [← Text.trim_eq_nil_iff]
  refine ⟨fun h ↦ ?_, fun h ↦ by rw [headingText, h]; rfl⟩
  by_contra hne
  exact Text.unescape_ne_nil hne h

theorem ClosedHeading.listing?_eq_none_iff {heading : ClosedHeading} :
    heading.listing? = none ↔ Text.isBlankText (stripTags heading.content) = true := by
  rw [← headingText_eq_nil_iff, listing?]
  split_ifs with hnil
  · simp [hnil]
  · simp [hnil]

/-- The text of a heading is blank if the heading spells blanks. -/
theorem isBlankText_headingText_iff {content : List Char} :
    Text.isBlankText (headingText content) = true ↔ Text.SpellsBlanks (stripTags content) := by
  rw [headingText, Text.isBlankText_unescape_iff, Text.spellsBlanks_trim]

/-- The outline lists the closed headings with anything but tags and blanks in them, and no name is
claimed for the others, so that none of its texts is empty. None is blank if and only if every
heading that spells blanks is left out, which is to say that it does so without references. -/
theorem outline_has_no_blank_text_iff (html : List Char) :
    outline html = Listing.entries ((closedHeadings html).filterMap ClosedHeading.listing?) ∧
      (∀ heading ∈ closedHeadings html,
        heading.listing? = none ↔ Text.isBlankText (stripTags heading.content) = true) ∧
      (∀ entry ∈ outline html, entry.text ≠ []) ∧
      ((∀ entry ∈ outline html, ∃ c ∈ entry.text, Text.isBlank c = false) ↔
        ∀ heading ∈ closedHeadings html, Text.SpellsBlanks (stripTags heading.content) →
          Text.isBlankText (stripTags heading.content) = true) := by
  have houtline := headingsFrom_eq_entriesFrom 0 .empty html
  have htexts := map_text_entriesFrom .empty
    ((closedHeadings html).filterMap ClosedHeading.listing?)
  rw [closedHeadings, ← houtline] at htexts
  have hmem (text : List Char) : (∃ entry ∈ outline html, entry.text = text) ↔
      ∃ heading ∈ closedHeadings html, headingText heading.content = text ∧ text ≠ [] := by
    rw [← List.mem_map, outline, htexts, List.map_filterMap, List.mem_filterMap]
    refine exists_congr fun heading ↦ and_congr_right fun _ ↦ ?_
    rw [ClosedHeading.listing?]
    split_ifs with hnil
    · simp only [Option.map_none, reduceCtorEq, false_iff, not_and, not_not]
      exact fun heq ↦ heq ▸ hnil
    · simp only [Option.map_some, Option.some.injEq]
      exact ⟨fun heq ↦ ⟨heq, heq ▸ hnil⟩, And.left⟩
  have hblank (text : List Char) :
      (∃ c ∈ text, Text.isBlank c = false) ↔ ¬ Text.isBlankText text = true := by
    simp [Text.isBlankText]
  refine ⟨houtline, fun heading _ ↦ ClosedHeading.listing?_eq_none_iff, fun entry hentry ↦ ?_, ?_⟩
  · obtain ⟨-, -, -, hne⟩ := (hmem entry.text).1 ⟨entry, hentry, rfl⟩
    exact hne
  · simp only [hblank]
    constructor
    · intro h heading hheading hspells
      by_contra hcontent
      obtain ⟨entry, hentry, htext⟩ := (hmem (headingText heading.content)).2
        ⟨heading, hheading, rfl, headingText_eq_nil_iff.not.2 hcontent⟩
      exact h entry hentry (htext ▸ isBlankText_headingText_iff.2 hspells)
    · intro h entry hentry hall
      obtain ⟨heading, hheading, htext, hne⟩ := (hmem entry.text).1 ⟨entry, hentry, rfl⟩
      rw [← htext] at hall hne
      exact hne (headingText_eq_nil_iff.2
        (h heading hheading (isBlankText_headingText_iff.1 hall)))

/-- A heading with a no-break space in it, written as a reference, is listed with a blank text. -/
theorem no_break_space_is_listed :
    ∃ entry ∈ outline "<h2>&#160;</h2>".toList, ∀ c ∈ entry.text, Text.isBlank c = true :=
  ⟨⟨"heading".toList, ['\xa0'], 2⟩, by decide +kernel,
    List.forall_mem_singleton.2 (by decide)⟩

end Galley.Html
