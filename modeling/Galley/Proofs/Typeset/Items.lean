import Galley.Proofs.Typeset.PageNotes

/-!
The items of lists. The paragraphs of an item are kept or give way to their content
(`IsItemContent`). The box of a task is the only one in the item that stands in no item below it,
and comes first: at the front of a paragraph that is kept, before the first block otherwise, or on
its own (`isSetAsItem_blocksMarkup`).
-/

set_option autoImplicit false
set_option relaxedAutoImplicit false

namespace Galley

open Html Markdown

/-! ### Boxes -/

namespace Html.Markup

/-- Whether the box of a task is checked, for a tree that is one. -/
def box? (tree : Markup) : Option Bool :=
  match tree.kind with
  | .element tag attrs =>
    if tag = "input".toList ∧ attrs.get? .type = some "checkbox".toList then
      some (attrs.get? .checked).isSome
    else none
  | _ => none

mutual

/-- Whether the boxes in a tree are checked, in order, items with what is in them left out. -/
def ownBoxes : Markup → List Bool
  | .node kind children =>
    if kind.hasTag "li".toList then []
    else (box? (.node kind children)).toList ++ ownBoxesIn children

/-- Whether the boxes in trees are checked, in order, items with what is in them left out. -/
def ownBoxesIn : List Markup → List Bool
  | [] => []
  | tree :: rest => ownBoxes tree ++ ownBoxesIn rest

end

theorem ownBoxesIn_append (trees others : List Markup) :
    ownBoxesIn (trees ++ others) = ownBoxesIn trees ++ ownBoxesIn others := by
  induction trees with
  | nil => rfl
  | cons tree rest ih => simp [ownBoxesIn, ih]

theorem ownBoxesIn_element {tag : List Char} (hitem : tag ≠ "li".toList)
    (hbox : tag ≠ "input".toList) (attrs : Attributes) (inner : List Markup) :
    ownBoxesIn [element tag attrs inner] = ownBoxesIn inner := by
  have hnone : box? (element tag attrs inner) = none := if_neg fun h ↦ hbox h.1
  rw [ownBoxesIn, ownBoxes, if_neg (by simpa [Kind.hasTag] using hitem), hnone]
  exact List.append_nil _

end Html.Markup

namespace Typeset

theorem ignoresLines_ownBoxesIn : IgnoresLines Markup.ownBoxesIn where
  append := Markup.ownBoxesIn_append
  line := rfl
  paragraph := Markup.ownBoxesIn_element (by decide) (by decide) .empty

theorem ownBoxesIn_boxMarkup (checked : Option Bool) :
    Markup.ownBoxesIn (boxMarkup checked) = checked.toList := by
  rcases checked with _ | _ | _ <;> rfl

/-! ### Items -/

/-- Trees start with the box of a task, after at most a line ending; the box may stand at the front
of a paragraph. -/
def StartsWithBox (isChecked : Bool) (trees : List Markup) : Prop :=
  ∃ isNeeded rest, trees = edgeMarkup isNeeded ++ boxMarkup (some isChecked) ++ rest ∨
    ∃ inner, trees = edgeMarkup isNeeded ++ plain "p" (boxMarkup (some isChecked) ++ inner) :: rest

/-- An item of a list is set from blocks. -/
structure IsSetAsItem (isLoose : Bool) (checked : Option Bool) (blocks : List Markup)
    (item : Markup) : Prop where
  kind_eq : item.kind = .element "li".toList (itemAttributes checked)
  /-- Each block has its part, with the paragraphs kept or not. -/
  content : IsItemContent isLoose (boxMarkup checked) blocks item.children
  /-- The item of a task has one box of its own, which is checked if the task is. -/
  ownBoxes : Markup.ownBoxesIn item.children = checked.toList
  /-- Nothing but a line ending comes before the box. -/
  box_first : ∀ isChecked, checked = some isChecked → StartsWithBox isChecked item.children

section Items

variable {isLoose : Bool} {blocks trees : List Markup}

theorem IsItemContent.startsWithBox {isChecked : Bool}
    (h : IsItemContent isLoose (boxMarkup (some isChecked)) blocks trees) :
    StartsWithBox isChecked trees := by
  have hbefore (front part back : List Markup) :
      front ++ (boxMarkup (some isChecked) ++ part) ++ back =
        front ++ boxMarkup (some isChecked) ++ (part ++ back) := by
    simp only [List.append_assoc]
  cases h with
  | nil => exact ⟨false, [], .inl rfl⟩
  | cons isBefore isAfter hpart _ =>
    rw [List.append_assoc]
    cases hpart with
    | kept hloose inner => exact ⟨_, _, .inr ⟨inner, List.append_assoc _ _ _⟩⟩
    | opened htight inner => exact ⟨_, _, .inl (hbefore _ _ _)⟩
    | other hblock => exact ⟨_, _, .inl (hbefore _ _ _)⟩

/-- An item is set from its blocks. -/
theorem isSetAsItem_blocksMarkup (isLoose : Bool) (checked : Option Bool)
    (hplain : ParagraphsArePlain blocks) (hboxes : Markup.ownBoxesIn blocks = []) :
    IsSetAsItem isLoose checked blocks (.element "li".toList (itemAttributes checked)
      (blocksMarkup isLoose true (boxMarkup checked) blocks)) := by
  have hcontent := isItemContent_blocksMarkup isLoose true (boxMarkup checked) hplain
  refine ⟨rfl, hcontent, ?_, ?_⟩
  · rw [Markup.children, ignoresLines_ownBoxesIn.read_itemContent hcontent, hboxes,
      List.append_nil, ownBoxesIn_boxMarkup]
  · rintro isChecked rfl
    exact hcontent.startsWithBox

end Items

end Typeset

end Galley
