import Galley.Proofs.Typeset.Shown

/-!
Trees that a page shows all of. Where rows stand in tables only and tables hold nothing else, and
cells in rows only and rows nothing else, all atoms outside of definitions of footnotes are shown,
each in its place.
-/

set_option autoImplicit false
set_option relaxedAutoImplicit false

namespace Galley

namespace Markdown.Node

/-- The value of a node without children. -/
def atom? : Node → Option Atom
  | .atom value => some value
  | .branch _ _ => none

/-- The construct of a node with children. -/
def construct? : Node → Option Construct
  | .atom _ => none
  | .branch construct _ => some construct

/-- Whether a node is a table. -/
def isTable (node : Node) : Bool := node.construct?.any fun
  | .table _ => true
  | _ => false

/-- Whether a node is a row of a table. -/
def isRow (node : Node) : Bool := node.construct? == some .row

/-- Whether a node is a cell of a table. -/
def isCell (node : Node) : Bool := node.construct? == some .cell

/-- Whether a node defines a footnote. -/
def isFootnoteDefinition (node : Node) : Bool := node.footnote?.isSome

/-- Whether a node is raw markup. -/
def isRaw (node : Node) : Bool := node.atom?.any fun
  | .html _ => true
  | _ => false

/-- The values in nodes, in order. -/
def atomsIn (nodes : List Node) : List Atom := (allIn nodes).filterMap atom?

theorem atomsIn_branch (construct : Construct) (children rest : List Node) :
    atomsIn (.branch construct children :: rest) = atomsIn children ++ atomsIn rest := by
  rw [atomsIn, allIn, all, List.cons_append, List.filterMap_cons_none rfl, List.filterMap_append]
  rfl

theorem atomsIn_atom (value : Atom) (rest : List Node) :
    atomsIn (.atom value :: rest) = value :: atomsIn rest := rfl

theorem atomsIn_append (nodes others : List Node) :
    atomsIn (nodes ++ others) = atomsIn nodes ++ atomsIn others := by
  rw [atomsIn, allIn_append, List.filterMap_append]
  rfl

/-- The tables in a tree are well formed: rows stand in tables, and nothing else does, and cells
stand in rows, and nothing else does. -/
def HasWellFormedTables (tree : Node) : Prop :=
  ∀ node ∈ tree.all, ∀ child ∈ node.children,
    child.isRow = node.isTable ∧ child.isCell = node.isRow

instance (tree : Node) : Decidable tree.HasWellFormedTables :=
  inferInstanceAs (Decidable (∀ node ∈ tree.all, ∀ child ∈ node.children,
    child.isRow = node.isTable ∧ child.isCell = node.isRow))

mutual

/-- A node and all nodes in it that no definition of a footnote holds, each before those below
it. -/
def outside : Node → List Node
  | .atom value => [.atom value]
  | .branch construct children =>
    match construct with
    | .footnoteDefinition _ => []
    | _ => .branch construct children :: outsideAll children

/-- Nodes and all nodes in them that no definition of a footnote holds. -/
def outsideAll : List Node → List Node
  | [] => []
  | node :: rest => outside node ++ outsideAll rest

end

/-- The values in nodes outside of definitions of footnotes, in order. -/
def atomsOutside (nodes : List Node) : List Atom := (outsideAll nodes).filterMap atom?

theorem atomsOutside_branch {construct : Construct}
    (hnote : ∀ reference, construct ≠ .footnoteDefinition reference) (children rest : List Node) :
    atomsOutside (.branch construct children :: rest) =
      atomsOutside children ++ atomsOutside rest := by
  have houtside : outside (.branch construct children) =
      .branch construct children :: outsideAll children := by
    cases construct with
    | footnoteDefinition reference => exact absurd rfl (hnote reference)
    | _ => rfl
  rw [atomsOutside, outsideAll, houtside, List.cons_append, List.filterMap_cons_none rfl,
    List.filterMap_append]
  rfl

theorem mem_outsideAll_of_mem_atomsOutside {nodes : List Node} {value : Atom}
    (h : value ∈ atomsOutside nodes) : .atom value ∈ outsideAll nodes := by
  obtain ⟨node, hnode, hvalue⟩ := List.mem_filterMap.1 h
  cases node with
  | atom other =>
    obtain rfl : other = value := by simpa [atom?] using hvalue
    exact hnode
  | branch construct children => simp [atom?] at hvalue

mutual

theorem outside_subset_all : ∀ node : Node, outside node ⊆ all node
  | .atom _ => List.Subset.refl _
  | .branch construct children => by
    have hbelow := outsideAll_subset_allIn children
    cases construct with
    | footnoteDefinition reference => exact List.nil_subset _
    | _ => exact List.cons_subset_cons _ hbelow

theorem outsideAll_subset_allIn : ∀ nodes : List Node, outsideAll nodes ⊆ allIn nodes
  | [] => List.Subset.refl _
  | node :: rest => by
    rw [outsideAll, allIn]
    exact List.append_subset.2 ⟨List.subset_append_of_subset_left _ (outside_subset_all node),
      List.subset_append_of_subset_right _ (outsideAll_subset_allIn rest)⟩

/-- Where no footnote is defined, all nodes are outside of definitions. -/
theorem outside_eq_all : ∀ node : Node, (∀ lower ∈ all node, lower.isFootnoteDefinition = false) →
    outside node = all node
  | .atom _, _ => rfl
  | .branch construct children, h => by
    have hbelow := outsideAll_eq_allIn children fun lower hlower ↦ h lower (by simp [all, hlower])
    have htop := h (.branch construct children) (mem_all_self _)
    cases construct with
    | footnoteDefinition reference => simp [isFootnoteDefinition, footnote?] at htop
    | _ =>
      rw [outside, all, hbelow]
      simp

theorem outsideAll_eq_allIn : ∀ nodes : List Node,
    (∀ lower ∈ allIn nodes, lower.isFootnoteDefinition = false) → outsideAll nodes = allIn nodes
  | [], _ => rfl
  | node :: rest, h => by
    rw [outsideAll, allIn, outside_eq_all node fun lower hlower ↦ h lower (by simp [allIn, hlower]),
      outsideAll_eq_allIn rest fun lower hlower ↦ h lower (by simp [allIn, hlower])]

end

end Markdown.Node

namespace Typeset

open Markdown

/-- A node is well formed if it is a table or a row. -/
def IsWellFormed (node : Node) : Prop :=
  ∀ child ∈ node.children, child.isRow = node.isTable ∧ child.isCell = node.isRow

/-- A node leaves out nothing below it: it defines no footnote, and is well formed if it is a table
or a row. -/
def ShowsAll (node : Node) : Prop :=
  node.isFootnoteDefinition = false ∧
    ∀ child ∈ node.children, child.isRow = node.isTable ∧ child.isCell = node.isRow

mutual

theorem shown_eq_outside : ∀ node : Node, node.isRow = false → node.isCell = false →
    (∀ lower ∈ node.all, IsWellFormed lower) → shown node = Node.atomsOutside [node]
  | .atom value, _, _, _ => rfl
  | .branch construct children, hrow, hcell, h => by
    have hchildren := h (.branch construct children) (Node.mem_all_self _)
    have hbelow : ∀ lower ∈ Node.allIn children, IsWellFormed lower := fun lower hlower ↦
      h lower (by simp [Node.all, hlower])
    have hvalues (hnote : ∀ reference, construct ≠ .footnoteDefinition reference) :
        Node.atomsOutside [.branch construct children] = Node.atomsOutside children := by
      rw [Node.atomsOutside_branch hnote, show Node.atomsOutside [] = [] from rfl, List.append_nil]
    cases construct with
    | table alignments =>
      rw [hvalues (by simp)]
      exact shownInTable_eq_outside children (fun child hchild ↦ (hchildren child hchild).1) hbelow
    | row => simp [Node.isRow, Node.construct?] at hrow
    | cell => simp [Node.isCell, Node.construct?] at hcell
    | footnoteDefinition reference => rfl
    | _ =>
      rw [hvalues (by simp)]
      exact shownAll_eq_outside children hchildren hbelow

theorem shownAll_eq_outside : ∀ nodes : List Node,
    (∀ node ∈ nodes, node.isRow = false ∧ node.isCell = false) →
      (∀ lower ∈ Node.allIn nodes, IsWellFormed lower) → shownAll nodes = Node.atomsOutside nodes
  | [], _, _ => rfl
  | node :: rest, hnodes, h => by
    have hnode := shown_eq_outside node (hnodes node (by simp)).1 (hnodes node (by simp)).2
      fun lower hlower ↦ h lower (by simp [Node.allIn, hlower])
    have hrest := shownAll_eq_outside rest (fun other hother ↦ hnodes other (by simp [hother]))
      fun lower hlower ↦ h lower (by simp [Node.allIn, hlower])
    rw [shownAll, hnode, hrest]
    simp [Node.atomsOutside, Node.outsideAll]

theorem shownInTable_eq_outside : ∀ nodes : List Node, (∀ node ∈ nodes, node.isRow = true) →
    (∀ lower ∈ Node.allIn nodes, IsWellFormed lower) →
      shownInTable nodes = Node.atomsOutside nodes
  | [], _, _ => rfl
  | .atom value :: rest, hnodes, _ => by
    have hrow := hnodes (.atom value) (by simp)
    simp [Node.isRow, Node.construct?] at hrow
  | .branch construct children :: rest, hnodes, h => by
    have hrest := shownInTable_eq_outside rest (fun other hother ↦ hnodes other (by simp [hother]))
      fun lower hlower ↦ h lower (by simp [Node.allIn, hlower])
    obtain rfl : construct = .row := by
      simpa [Node.isRow, Node.construct?] using hnodes (.branch construct children) (by simp)
    have hchildren := h (.branch .row children) (by simp [Node.allIn, Node.all])
    have hcells := shownInRow_eq_outside children (fun child hchild ↦ (hchildren child hchild).2)
      fun lower hlower ↦ h lower (by simp [Node.allIn, Node.all, hlower])
    rw [shownInTable, hcells, hrest, Node.atomsOutside_branch (by simp)]

theorem shownInRow_eq_outside : ∀ nodes : List Node, (∀ node ∈ nodes, node.isCell = true) →
    (∀ lower ∈ Node.allIn nodes, IsWellFormed lower) → shownInRow nodes = Node.atomsOutside nodes
  | [], _, _ => rfl
  | .atom value :: rest, hnodes, _ => by
    have hcell := hnodes (.atom value) (by simp)
    simp [Node.isCell, Node.construct?] at hcell
  | .branch construct children :: rest, hnodes, h => by
    have hrest := shownInRow_eq_outside rest (fun other hother ↦ hnodes other (by simp [hother]))
      fun lower hlower ↦ h lower (by simp [Node.allIn, hlower])
    obtain rfl : construct = .cell := by
      simpa [Node.isCell, Node.construct?] using hnodes (.branch construct children) (by simp)
    have hchildren := h (.branch .cell children) (by simp [Node.allIn, Node.all])
    have hinner := shownAll_eq_outside children hchildren
      fun lower hlower ↦ h lower (by simp [Node.allIn, Node.all, hlower])
    rw [shownInRow, hinner, hrest, Node.atomsOutside_branch (by simp)]

end

/-- Where no footnote is defined, all atoms are shown. -/
theorem shownAll_eq (nodes : List Node)
    (hnodes : ∀ node ∈ nodes, node.isRow = false ∧ node.isCell = false)
    (h : ∀ lower ∈ Node.allIn nodes, ShowsAll lower) : shownAll nodes = Node.atomsIn nodes := by
  rw [shownAll_eq_outside nodes hnodes fun lower hlower ↦ (h lower hlower).2, Node.atomsOutside,
    Node.outsideAll_eq_allIn nodes fun lower hlower ↦ (h lower hlower).1, Node.atomsIn]

end Typeset

end Galley
