import Mathlib
import Galley.Html.Document

/-!
Markup as a tree: what a node of a document stands for together with all that is below it. A tree
holds no indices, so that documents which differ only in where their nodes stand, or in nodes that
nothing names, stand for the same tree. `Markup.write`, `Markup.text` and `Markup.hasBelow` say of
trees what `Document.write`, `Document.textContent` and `Document.anyDescendant` say of documents.
-/

set_option autoImplicit false
set_option relaxedAutoImplicit false

namespace Galley.Html

/-- A node with all that is below it. -/
inductive Markup where
  | node (kind : Kind) (children : List Markup)
deriving Repr, Inhabited

namespace Markup

/-- An element. -/
abbrev element (tag : List Char) (attrs : Attributes) (children : List Markup) : Markup :=
  .node (.element tag attrs) children

/-- A text. -/
abbrev leaf (value : List Char) : Markup := .node (.text value) []

/-- What a tree is at its top. -/
def kind : Markup → Kind
  | .node kind _ => kind

/-- The trees below the top of a tree. -/
def children : Markup → List Markup
  | .node _ children => children

mutual

/-- The number of nodes on the longest way down. -/
def height : Markup → Nat
  | .node _ children => heights children + 1

/-- The number of nodes on the longest way down any of the trees. -/
def heights : List Markup → Nat
  | [] => 0
  | tree :: rest => max (height tree) (heights rest)

end

mutual

/-- A tree as it is written. -/
def write : Markup → List Char
  | .node .root children => writeAll children
  | .node (.text value) _ => Text.escapeText value
  | .node (.raw markup) _ => markup
  | .node (.element tag attrs) children =>
    startTag tag attrs ++ (if isVoid tag then [] else writeAll children ++ endTag tag)

/-- Trees as they are written. -/
def writeAll : List Markup → List Char
  | [] => []
  | tree :: rest => write tree ++ writeAll rest

end

mutual

/-- The text of a tree, with the tags of raw markup left out. -/
def text : Markup → List Char
  | .node (.text value) _ => value
  | .node (.raw markup) _ => stripTags markup
  | .node _ children => textAll children

/-- The text of trees. -/
def textAll : List Markup → List Char
  | [] => []
  | tree :: rest => text tree ++ textAll rest

end

mutual

/-- A tree and all trees in it, each before those below it. -/
def subtrees : Markup → List Markup
  | .node kind children => .node kind children :: subtreesAll children

/-- Trees and all trees in them. -/
def subtreesAll : List Markup → List Markup
  | [] => []
  | tree :: rest => subtrees tree ++ subtreesAll rest

end

/-- Whether a node below the top of a tree satisfies a test. -/
def hasBelow (test : Kind → Bool) (tree : Markup) : Bool :=
  (subtreesAll tree.children).any fun subtree ↦ test subtree.kind

@[simp] theorem subtreesAll_append (trees others : List Markup) :
    subtreesAll (trees ++ others) = subtreesAll trees ++ subtreesAll others := by
  induction trees with
  | nil => rfl
  | cons tree rest ih => simp [subtreesAll, ih]

theorem height_le_heights {tree : Markup} {trees : List Markup} (hmem : tree ∈ trees) :
    tree.height ≤ heights trees := by
  induction trees with
  | nil => simp at hmem
  | cons top rest ih =>
    rcases List.mem_cons.1 hmem with rfl | hmem
    · exact le_max_left _ _
    · exact (ih hmem).trans (le_max_right _ _)

/-- The number of nodes of trees bounds their heights. -/
theorem heights_le_length_subtreesAll :
    ∀ trees : List Markup, heights trees ≤ (subtreesAll trees).length
  | [] => le_rfl
  | .node _ children :: rest => by
    have hbelow := heights_le_length_subtreesAll children
    have hrest := heights_le_length_subtreesAll rest
    simp only [heights, height, subtreesAll, subtrees, List.cons_append, List.length_cons,
      List.length_append]
    omega

/-- A property holds of trees and of all trees in them. -/
def All (good : Markup → Prop) (trees : List Markup) : Prop := ∀ tree ∈ subtreesAll trees, good tree

instance (good : Markup → Prop) [DecidablePred good] (trees : List Markup) :
    Decidable (All good trees) :=
  inferInstanceAs (Decidable (∀ tree ∈ subtreesAll trees, good tree))

namespace All

variable {good : Markup → Prop} {tree : Markup} {trees others : List Markup}

@[simp] theorem nil : All good [] := fun tree hmem ↦ by simp [subtreesAll] at hmem

@[simp] theorem append : All good (trees ++ others) ↔ All good trees ∧ All good others := by
  simp only [All, subtreesAll_append, List.mem_append]
  exact ⟨fun h ↦ ⟨fun tree hmem ↦ h tree (.inl hmem), fun tree hmem ↦ h tree (.inr hmem)⟩,
    fun h tree hmem ↦ hmem.elim (h.1 tree) (h.2 tree)⟩

theorem singleton : All good [tree] ↔ good tree ∧ All good tree.children := by
  obtain ⟨kind, inner⟩ := tree
  simp [All, subtreesAll, subtrees, children]

@[simp] theorem cons : All good (tree :: trees) ↔ (good tree ∧ All good tree.children) ∧
    All good trees := by
  rw [← List.singleton_append, append, singleton]

theorem imp {weaker : Markup → Prop} (h : All good trees)
    (himp : ∀ tree, good tree → weaker tree) : All weaker trees :=
  fun tree hmem ↦ himp tree (h tree hmem)

end All

end Markup

end Galley.Html
