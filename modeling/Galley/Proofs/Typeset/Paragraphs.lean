import Galley.Proofs.Enrich.Shape

/-!
Paragraphs among blocks. There is a part in an item for each block of it (`IsItemContent`): a
paragraph is kept if the list is loose, and gives way to its content if it is tight. As no paragraph
of a page has attributes (`ParagraphsArePlain`), readings that ignore paragraphs and lines
(`IgnoresLines`) cannot tell an item from its blocks.
-/

set_option autoImplicit false
set_option relaxedAutoImplicit false

namespace Galley.Typeset

open Html Markdown

/-- All paragraphs among trees have no attributes. -/
def ParagraphsArePlain (trees : List Markup) : Prop :=
  ∀ tree ∈ trees, isParagraphMarkup tree = true → ∃ inner, tree = plain "p" inner

namespace ParagraphsArePlain

variable {trees others : List Markup}

@[simp] theorem nil : ParagraphsArePlain [] := fun tree hmem ↦ by simp at hmem

theorem append (h : ParagraphsArePlain trees) (h' : ParagraphsArePlain others) :
    ParagraphsArePlain (trees ++ others) := fun tree hmem ↦
  (List.mem_append.1 hmem).elim (h tree) (h' tree)

theorem head {tree : Markup} (h : ParagraphsArePlain (tree :: trees)) :
    ParagraphsArePlain [tree] := fun other hmem ↦
  h other (by simp [List.mem_singleton.1 hmem])

theorem tail {tree : Markup} (h : ParagraphsArePlain (tree :: trees)) :
    ParagraphsArePlain trees := fun other hmem ↦ h other (by simp [hmem])

theorem of_not {tree : Markup} (h : isParagraphMarkup tree = false) :
    ParagraphsArePlain [tree] := by
  intro other hmem hparagraph
  obtain rfl := List.mem_singleton.1 hmem
  simp [h] at hparagraph

theorem atomMarkup (ds : Definitions) (atom : Atom) : ParagraphsArePlain (atomMarkup ds atom) := by
  cases atom with
  | hardBreak =>
    have hbreak : ParagraphsArePlain [plain "br" []] := of_not rfl
    exact hbreak.append (of_not rfl)
  | imageReference style reference alt =>
    cases hlink : ds.link? reference.identifier with
    | none =>
      simp only [Typeset.atomMarkup, hlink]
      exact of_not rfl
    | some target =>
      simp only [Typeset.atomMarkup, hlink]
      exact of_not rfl
  | yaml value => exact nil
  | toml value => exact nil
  | expression inText value => exact nil
  | modules value => exact nil
  | definition reference url title => exact nil
  | _ => exact of_not rfl

theorem calledMarkup (ds : Definitions) (atom : Atom) (calls : Calls) :
    ParagraphsArePlain (calledMarkup ds atom calls).1 := by
  have hatom := atomMarkup ds atom
  unfold Typeset.calledMarkup
  split
  · split
    · exact of_not rfl
    · exact hatom
  · exact hatom

theorem constructMarkup (ds : Definitions) (isTight : Bool) (construct : Construct)
    (nodes : List Node) (h : ParagraphsArePlain trees) :
    ParagraphsArePlain (constructMarkup ds isTight construct nodes trees) := by
  cases construct with
  | root => exact h
  | component inText name attributes => exact h
  | paragraph => exact fun tree hmem _ ↦ ⟨trees, List.mem_singleton.1 hmem⟩
  | heading level =>
    have hnot : ∀ tag ∈ headingTags, (tag == "p".toList) = false := by decide
    exact of_not (hnot _ (headingTag_mem level))
  | linkReference style reference =>
    cases hlink : ds.link? reference.identifier with
    | none =>
      simp only [Typeset.constructMarkup, hlink]
      have hopening : ParagraphsArePlain [.leaf ['[']] := of_not rfl
      exact (hopening.append h).append (of_not rfl)
    | some target =>
      simp only [Typeset.constructMarkup, hlink]
      exact of_not rfl
  | list isOrdered start spread => exact of_not (by cases isOrdered <;> rfl)
  | row => exact nil
  | cell => exact nil
  | footnoteDefinition reference => exact nil
  | _ => exact of_not rfl

mutual

theorem nodeMarkup (ds : Definitions) (isTight : Bool) :
    ∀ (node : Node) (calls : Calls), ParagraphsArePlain (nodeMarkup ds isTight node calls).1
  | .atom atom, calls => calledMarkup ds atom calls
  | .branch construct children, calls => by
    have hnodes := fun isTight ↦ nodesMarkup ds isTight children calls
    have hconstruct {inner : List Markup} (hinner : ParagraphsArePlain inner) :=
      constructMarkup ds isTight construct children hinner
    cases construct with
    | table alignments => exact of_not rfl
    | row => exact nil
    | cell => exact nil
    | footnoteDefinition reference => exact nil
    | _ => exact hconstruct (hnodes _)

theorem nodesMarkup (ds : Definitions) (isTight : Bool) :
    ∀ (nodes : List Node) (calls : Calls), ParagraphsArePlain (nodesMarkup ds isTight nodes calls).1
  | [], _ => nil
  | node :: rest, calls =>
    (nodeMarkup ds isTight node calls).append
      (nodesMarkup ds isTight rest (Typeset.nodeMarkup ds isTight node calls).2)

end

end ParagraphsArePlain

/-! ### The content of an item -/

/-- What stands in an item for a block of it, with a box before it. -/
inductive IsItemPart (isLoose : Bool) (box : List Markup) : Markup → List Markup → Prop
  /-- A loose list keeps a paragraph, with the box at its front. -/
  | kept (hloose : isLoose = true) (inner : List Markup) :
    IsItemPart isLoose box (plain "p" inner) [plain "p" (box ++ inner)]
  /-- In a tight list a paragraph gives way to its content. -/
  | opened (htight : isLoose = false) (inner : List Markup) :
    IsItemPart isLoose box (plain "p" inner) (box ++ inner)
  | other {block : Markup} (hblock : isParagraphMarkup block = false) :
    IsItemPart isLoose box block (box ++ [block])

/-- What stands in an item for its blocks: a part for each, with at most a line ending before and
after it. The box of a task goes with the first block, or stands alone. -/
inductive IsItemContent (isLoose : Bool) : List Markup → List Markup → List Markup → Prop
  | nil (box : List Markup) : IsItemContent isLoose box [] box
  | cons {box part rest trees : List Markup} {block : Markup} (isBefore isAfter : Bool)
      (hpart : IsItemPart isLoose box block part) (hrest : IsItemContent isLoose [] rest trees) :
      IsItemContent isLoose box (block :: rest)
        (edgeMarkup isBefore ++ part ++ edgeMarkup isAfter ++ trees)

section Content

variable {blocks : List Markup}

theorem isItemPart_filledMarkup (isLoose : Bool) (box : List Markup) {block : Markup}
    (hplain : ParagraphsArePlain [block]) :
    IsItemPart isLoose box block (filledMarkup (isParagraphMarkup block) isLoose box block) := by
  unfold filledMarkup
  split_ifs with hparagraph hloose
  · obtain ⟨inner, rfl⟩ := hplain block (by simp) hparagraph
    exact .kept hloose inner
  · obtain ⟨inner, rfl⟩ := hplain block (by simp) hparagraph
    exact .opened (Bool.eq_false_of_not_eq_true hloose) inner
  · exact .other (Bool.eq_false_of_not_eq_true hparagraph)

theorem isItemContent_blocksMarkup (isLoose isFirst : Bool) (box : List Markup)
    (hplain : ParagraphsArePlain blocks) :
    IsItemContent isLoose box blocks (blocksMarkup isLoose isFirst box blocks) := by
  induction blocks generalizing isFirst box with
  | nil => exact .nil box
  | cons block rest ih =>
    exact .cons _ _ (isItemPart_filledMarkup isLoose box hplain.head) (ih false [] hplain.tail)

end Content

/-! ### Readings that ignore lines -/

/-- A reading of trees, one after the other, gives nothing for line endings, and for a paragraph
what it gives for its content. -/
structure IgnoresLines {α : Type} (read : List Markup → List α) : Prop where
  append : ∀ trees others, read (trees ++ others) = read trees ++ read others
  line : read [lineMarkup] = []
  paragraph : ∀ inner, read [plain "p" inner] = read inner

namespace IgnoresLines

variable {α : Type} {read : List Markup → List α}

theorem nil (h : IgnoresLines read) : read [] = [] := by
  have hnil := h.append [] []
  rwa [List.nil_append, List.self_eq_append_right] at hnil

theorem cons (h : IgnoresLines read) (tree : Markup) (rest : List Markup) :
    read (tree :: rest) = read [tree] ++ read rest := by
  rw [← List.singleton_append, h.append]

theorem read_followingMarkup (h : IgnoresLines read) (trees : List Markup) :
    read (followingMarkup trees) = read trees := by
  induction trees with
  | nil => rfl
  | cons tree rest ih =>
    rw [followingMarkup, h.cons, h.line, List.nil_append, h.cons, ih, ← h.cons]

theorem read_linesMarkup (h : IgnoresLines read) (trees : List Markup) :
    read (linesMarkup trees) = read trees := by
  cases trees with
  | nil => rfl
  | cons tree rest => rw [linesMarkup, h.cons, h.read_followingMarkup, ← h.cons]

theorem read_enclosedMarkup (h : IgnoresLines read) (trees : List Markup) :
    read (enclosedMarkup trees) = read trees := by
  cases trees with
  | nil => rw [enclosedMarkup, h.line, h.nil]
  | cons tree rest =>
    have hlines := h.read_followingMarkup (tree :: rest)
    rw [followingMarkup] at hlines
    rw [enclosedMarkup, h.append, h.line, List.append_nil, hlines]

theorem read_edgeMarkup (h : IgnoresLines read) (isNeeded : Bool) :
    read (edgeMarkup isNeeded) = [] := by
  cases isNeeded with
  | false => exact h.nil
  | true => exact h.line

/-- Of the content of an item the same is read as of the box of its task and its blocks. -/
theorem read_itemContent (h : IgnoresLines read) {isLoose : Bool} {box blocks trees : List Markup}
    (hcontent : IsItemContent isLoose box blocks trees) : read trees = read box ++ read blocks := by
  induction hcontent with
  | nil box => rw [h.nil, List.append_nil]
  | @cons box part rest trees block isBefore isAfter hpart _ ih =>
    have hblock : read part = read box ++ read [block] := by
      cases hpart with
      | kept hloose inner => rw [h.paragraph, h.paragraph, h.append]
      | opened htight inner => rw [h.paragraph, h.append]
      | other hblock => rw [h.append]
    rw [h.append, h.append, h.append, h.read_edgeMarkup, h.read_edgeMarkup, hblock, ih, h.nil,
      List.nil_append, List.nil_append, List.append_nil, List.append_assoc, ← h.cons]

theorem read_blocksMarkup (h : IgnoresLines read) (isLoose isFirst : Bool) (box : List Markup)
    {blocks : List Markup} (hplain : ParagraphsArePlain blocks) :
    read (blocksMarkup isLoose isFirst box blocks) = read box ++ read blocks :=
  h.read_itemContent (isItemContent_blocksMarkup isLoose isFirst box hplain)

end IgnoresLines

end Galley.Typeset
