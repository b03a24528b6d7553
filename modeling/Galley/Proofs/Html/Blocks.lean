import Galley.Proofs.Html.Token

/-!
Where blocks of code stand in written markup. A text has given blocks (`HasBlocks`) if it consists
of them, as they are written, in their order, and of gaps between them in which no tag starts a
block. Tags of other elements and escaped text are gaps.
-/

set_option autoImplicit false
set_option relaxedAutoImplicit false

namespace Galley.Html

/-- What follows the bracket that a block starts with: a block of code, or the placeholder of a
diagram. -/
def blockStarts : List (List Char) := ["pre".toList, "div class=\"mermaid-placeholder\"".toList]

/-- A text between blocks: every `<` in it is followed by a `>`, and none starts a block. -/
def IsGap (text : List Char) : Prop :=
  ∀ front back, text = front ++ '<' :: back →
    '>' ∈ back ∧ ∀ start ∈ blockStarts, ¬ start <+: back

/-- A text consists of blocks, one for each of the values, in order, and of gaps between them. -/
inductive HasBlocks {α : Type} (isWritten : α → List Char → Prop) : List α → List Char → Prop
  | gap {text : List Char} (hgap : IsGap text) : HasBlocks isWritten [] text
  | block {gap text rest : List Char} {value : α} {values : List α} (hgap : IsGap gap)
      (htext : isWritten value text) (hrest : HasBlocks isWritten values rest) :
      HasBlocks isWritten (value :: values) (gap ++ text ++ rest)

/-! ### Gaps -/

theorem isGap_iff_tails {text : List Char} : IsGap text ↔ ∀ tail ∈ text.tails,
    tail.head? = some '<' →
      '>' ∈ tail.tail ∧ ∀ start ∈ blockStarts, ¬ start <+: tail.tail := by
  constructor
  · intro h tail htail hhead
    obtain ⟨front, rfl⟩ := (List.mem_tails _ _).1 htail
    obtain ⟨back, rfl⟩ : ∃ back, tail = '<' :: back := by
      cases tail with
      | nil => simp at hhead
      | cons c back => exact ⟨back, by simpa using hhead⟩
    exact h front back rfl
  · rintro h front back rfl
    exact h ('<' :: back) ((List.mem_tails _ _).2 ⟨front, rfl⟩) rfl

instance (text : List Char) : Decidable (IsGap text) := decidable_of_iff' _ isGap_iff_tails

namespace IsGap

variable {text text' : List Char}

theorem of_notMem (h : '<' ∉ text) : IsGap text := fun front back heq ↦
  absurd (by simp [heq]) h

theorem nil : IsGap [] := of_notMem (by simp)

/-- What starts a block has no `>` in it. -/
theorem notMem_of_mem_blockStarts : ∀ start ∈ blockStarts, '>' ∉ start := by decide

theorem append (h : IsGap text) (h' : IsGap text') : IsGap (text ++ text') := by
  intro front back heq
  rcases List.append_eq_append_iff.1 heq with ⟨middle, rfl, hback⟩ | ⟨middle, rfl, hback⟩
  · exact h' middle back hback
  · cases middle with
    | nil => exact h' [] back (by simpa using hback.symm)
    | cons c middle =>
      obtain ⟨rfl, rfl⟩ : '<' = c ∧ back = middle ++ text' := by simpa using hback
      obtain ⟨hclose, hstarts⟩ := h front middle rfl
      refine ⟨List.mem_append_left _ hclose, fun start hstart hprefix ↦ hstarts start hstart ?_⟩
      rcases List.prefix_or_prefix_of_prefix hprefix (List.prefix_append middle text') with
        hshort | hlong
      · exact hshort
      · exact absurd (hlong.subset hclose) (notMem_of_mem_blockStarts start hstart)

/-- A tag is a gap if what follows its bracket starts no block. -/
theorem tag {body : List Char} (hclean : (Token.tag body).IsClean)
    (hstarts : ∀ start ∈ blockStarts, ¬ start <+: body ++ ['>']) :
    IsGap ('<' :: body ++ ['>']) := by
  intro front back heq
  cases front with
  | nil =>
    obtain rfl : body ++ ['>'] = back := by simpa using heq
    exact ⟨by simp, hstarts⟩
  | cons c front =>
    have hmem : '<' ∈ body ++ ['>'] := by simp_all
    simp [hclean.1] at hmem

end IsGap

/-- Tags of elements that are no blocks. -/
def isFrameTag (tag : List Char) : Bool :=
  isTagName tag && tag != "div".toList && !"pre".toList.isPrefixOf tag

/-- The tag of an element that is no block, and what follows it, do not start a block. -/
theorem not_prefix_of_isFrameTag {tag rest : List Char} {c : Char} (htag : isFrameTag tag = true)
    (hc : Text.isAlnum c = false) : ∀ start ∈ blockStarts, ¬ start <+: tag ++ c :: rest := by
  simp only [isFrameTag, Bool.and_eq_true, bne_iff_ne, Bool.not_eq_true',
    ← Bool.not_eq_true, List.isPrefixOf_iff_prefix] at htag
  obtain ⟨⟨hname, hdiv⟩, hpre⟩ := htag
  have hletters : ∀ c ∈ tag, Text.isAlnum c = true := by
    cases tag with
    | nil => simp
    | cons d tag =>
      rw [isTagName, Bool.and_eq_true, List.all_eq_true] at hname
      simpa [Text.isAlnum, hname.1] using hname.2
  have htake : (tag ++ c :: rest).takeWhile Text.isAlnum = tag := by
    rw [List.takeWhile_append_of_pos hletters, List.takeWhile_cons_of_neg (by simp [hc]),
      List.append_nil]
  intro start hstart hprefix
  obtain ⟨more, heq⟩ := hprefix
  rw [← heq] at htake
  rw [blockStarts, List.mem_pair] at hstart
  rcases hstart with rfl | rfl
  · have hstart : ∀ c ∈ "pre".toList, Text.isAlnum c = true :=
      List.all_eq_true.1 (by decide)
    rw [List.takeWhile_append_of_pos hstart] at htake
    exact hpre ⟨_, htake⟩
  · have hstart : "div class=\"mermaid-placeholder\"".toList =
        "div".toList ++ ' ' :: "class=\"mermaid-placeholder\"".toList := by decide
    have hletters : ∀ c ∈ "div".toList, Text.isAlnum c = true :=
      List.all_eq_true.1 (by decide)
    rw [hstart, List.append_assoc, List.takeWhile_append_of_pos hletters, List.cons_append,
      List.takeWhile_cons_of_neg (by decide), List.append_nil] at htake
    exact hdiv htake.symm

theorem isGap_startTag {tag : List Char} {attrs : Attributes} (htag : isFrameTag tag = true)
    (hattrs : attrs.IsClean) : IsGap (startTag tag attrs) := by
  have hname : isTagName tag = true := by simp_all [isFrameTag]
  refine .tag (openTag_isClean (isBracketFree_of_isTagName hname) hattrs.isBracketFree)
    fun start hstart ↦ ?_
  cases hentries : attrs.entries with
  | nil =>
    have hempty := @not_prefix_of_isFrameTag tag [] '>' htag (by decide) start hstart
    simpa using hempty
  | cons entry entries =>
    obtain ⟨rest, hrest⟩ : ∃ rest, writeAttribute entry = ' ' :: rest := by
      unfold writeAttribute
      split_ifs <;> exact ⟨_, rfl⟩
    simpa [hrest] using not_prefix_of_isFrameTag htag (by decide) start hstart

theorem isGap_endTag {tag : List Char} (htag : isTagName tag = true) : IsGap (endTag tag) := by
  have hslash : ∀ start ∈ blockStarts, ∀ rest, ¬ start <+: '/' :: rest := by
    intro start hstart rest hprefix
    rw [blockStarts, List.mem_pair] at hstart
    rcases hstart with rfl | rfl <;> simp at hprefix
  exact .tag (closeTag_isClean (isBracketFree_of_isTagName htag))
    fun start hstart ↦ hslash start hstart _

theorem isGap_escapeText (value : List Char) : IsGap (Text.escapeText value) := by
  have hnot : ∀ c ∈ Text.escapeText value, c ≠ '<' :=
    Text.forall_mem_escapeText (by simp [Text.referenceChars]) fun c _ hlt _ ↦ hlt
  exact .of_notMem fun hmem ↦ hnot _ hmem rfl

/-! ### Blocks -/

namespace HasBlocks

variable {α : Type} {isWritten : α → List Char → Prop} {values values' : List α}
  {text text' : List Char}

theorem gap_append (h : HasBlocks isWritten values text) {front : List Char}
    (hfront : IsGap front) : HasBlocks isWritten values (front ++ text) := by
  cases h with
  | gap hgap => exact .gap (hfront.append hgap)
  | block hgap htext hrest =>
    rw [← List.append_assoc, ← List.append_assoc]
    exact .block (hfront.append hgap) htext hrest

theorem append (h : HasBlocks isWritten values text) (h' : HasBlocks isWritten values' text') :
    HasBlocks isWritten (values ++ values') (text ++ text') := by
  induction h with
  | gap hgap => exact h'.gap_append hgap
  | block hgap htext _ ih =>
    rw [List.append_assoc]
    exact .block hgap htext ih

/-- Values may be written as blocks for what they stand for. -/
theorem of_map {β : Type} {isWritten' : β → List Char → Prop} (f : β → α)
    (himp : ∀ value text, isWritten (f value) text → isWritten' value text) {values : List β} :
    ∀ {text : List Char}, HasBlocks isWritten (values.map f) text →
      HasBlocks isWritten' values text := by
  induction values with
  | nil =>
    intro text h
    cases h with
    | gap hgap => exact .gap hgap
  | cons value values ih =>
    intro text h
    cases h with
    | block hgap htext hrest => exact .block hgap (himp value _ htext) (ih hrest)

end HasBlocks

end Galley.Html
