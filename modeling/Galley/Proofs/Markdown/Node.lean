import Galley.Markdown.Node
import Galley.Typeset.Definitions

/-!
The nodes of a source tree, where its definitions of links lead, and what its definitions of
footnotes hold.
-/

set_option autoImplicit false
set_option relaxedAutoImplicit false

namespace Galley.Markdown.Node

mutual

/-- A node and all nodes in it, each before those below it. -/
def all : Node → List Node
  | .atom value => [.atom value]
  | .branch construct children => .branch construct children :: allIn children

/-- Nodes and all nodes in them. -/
def allIn : List Node → List Node
  | [] => []
  | node :: rest => all node ++ allIn rest

end

theorem mem_all_self (node : Node) : node ∈ all node := by
  cases node <;> simp [all]

theorem mem_allIn_of_mem {nodes : List Node} {node : Node} (h : node ∈ nodes) :
    node ∈ allIn nodes := by
  induction nodes with
  | nil => cases h
  | cons first rest ih =>
    rw [allIn, List.mem_append]
    rcases List.mem_cons.1 h with rfl | h
    · exact .inl (mem_all_self _)
    · exact .inr (ih h)

theorem allIn_append (nodes others : List Node) :
    allIn (nodes ++ others) = allIn nodes ++ allIn others := by
  induction nodes with
  | nil => rfl
  | cons node rest ih => rw [List.cons_append, allIn, ih, allIn, List.append_assoc]

mutual

/-- What is in a node of a node is in the node. -/
theorem all_subset_of_mem_all {lower : Node} :
    ∀ node : Node, lower ∈ all node → all lower ⊆ all node
  | .atom value, hmem => by
    obtain rfl : lower = .atom value := by simpa [all] using hmem
    exact List.Subset.refl _
  | .branch construct children, hmem => by
    rw [all, List.mem_cons] at hmem
    rcases hmem with rfl | hmem
    · exact List.Subset.refl _
    · rw [all]
      exact List.Subset.trans (all_subset_of_mem_allIn children hmem) (List.subset_cons_self _ _)

theorem all_subset_of_mem_allIn {lower : Node} :
    ∀ nodes : List Node, lower ∈ allIn nodes → all lower ⊆ allIn nodes
  | [], hmem => by simp [allIn] at hmem
  | node :: rest, hmem => by
    rw [allIn, List.mem_append] at hmem
    rw [allIn]
    rcases hmem with hmem | hmem
    · exact List.Subset.trans (all_subset_of_mem_all node hmem) (List.subset_append_left _ _)
    · exact List.Subset.trans (all_subset_of_mem_allIn rest hmem) (List.subset_append_right _ _)

end

/-- A property holds of nodes and of all nodes in them. -/
def AllIn (good : Node → Prop) (nodes : List Node) : Prop := ∀ node ∈ allIn nodes, good node

instance (good : Node → Prop) [DecidablePred good] (nodes : List Node) :
    Decidable (AllIn good nodes) :=
  inferInstanceAs (Decidable (∀ node ∈ allIn nodes, good node))

namespace AllIn

variable {good : Node → Prop} {node : Node} {rest : List Node}

theorem top (h : AllIn good (node :: rest)) : good node :=
  h node (by simp [allIn, mem_all_self])

theorem head (h : AllIn good (node :: rest)) : AllIn good [node] :=
  fun other hmem ↦ h other (by simp_all [allIn])

theorem tail (h : AllIn good (node :: rest)) : AllIn good rest :=
  fun other hmem ↦ h other (by simp [allIn, hmem])

theorem children {construct : Construct} {children : List Node}
    (h : AllIn good (.branch construct children :: rest)) : AllIn good children :=
  fun other hmem ↦ h other (by simp [allIn, all, hmem])

end AllIn

/-- The footnote that a node defines: its identifier, and what it holds. -/
def footnote? : Node → Option (List Char × List Node)
  | .branch (.footnoteDefinition reference) children => some (reference.identifier, children)
  | _ => none

theorem eq_branch_of_footnote? {node : Node} {identifier : List Char} {content : List Node}
    (h : node.footnote? = some (identifier, content)) :
    ∃ construct, node = .branch construct content := by
  unfold footnote? at h
  split at h
  · obtain ⟨-, rfl⟩ : _ ∧ _ = content := by simpa using h
    exact ⟨_, rfl⟩
  · simp at h

/-- What the first definition of a footnote in a tree holds. -/
def definition? (tree : Node) (identifier : List Char) : Option (List Node) :=
  (tree.all.filterMap footnote?).lookup identifier

/-- The link that a node defines: its identifier, and where it leads. -/
def link? : Node → Option (List Char × Typeset.Destination)
  | .atom (.definition reference url title) => some (reference.identifier, ⟨url, title⟩)
  | _ => none

/-- Where the first definition of an identifier in a tree leads. -/
def destination? (tree : Node) (identifier : List Char) : Option Typeset.Destination :=
  (tree.all.filterMap link?).lookup identifier

end Galley.Markdown.Node

namespace Galley.Typeset.Definitions

open Markdown

mutual

/-- The footnotes of a tree are those that its nodes define, each before those in it. -/
theorem footnotes_ofNode : ∀ node : Node,
    (ofNode node).footnotes = node.all.filterMap Node.footnote?
  | .atom value => by cases value <;> rfl
  | .branch construct children => by
    have hbelow := footnotes_ofNodes children
    cases construct with
    | footnoteDefinition reference =>
      simp only [ofNode, append, hbelow, Node.all, List.filterMap_cons, Node.footnote?,
        List.singleton_append]
    | _ => simpa only [ofNode, Node.all, List.filterMap_cons, Node.footnote?] using hbelow

theorem footnotes_ofNodes : ∀ nodes : List Node,
    (ofNodes nodes).footnotes = (Node.allIn nodes).filterMap Node.footnote?
  | [] => rfl
  | node :: rest => by
    rw [ofNodes, append, Node.allIn, List.filterMap_append, ← footnotes_ofNode node,
      ← footnotes_ofNodes rest]

end

mutual

/-- The links of a tree are those that its nodes define. -/
theorem links_ofNode : ∀ node : Node, (ofNode node).links = node.all.filterMap Node.link?
  | .atom value => by cases value <;> rfl
  | .branch construct children => by
    have hbelow := links_ofNodes children
    cases construct with
    | footnoteDefinition reference =>
      simp only [ofNode, append, hbelow, Node.all, List.filterMap_cons, Node.link?,
        List.nil_append]
    | _ => simpa only [ofNode, Node.all, List.filterMap_cons, Node.link?] using hbelow

theorem links_ofNodes : ∀ nodes : List Node,
    (ofNodes nodes).links = (Node.allIn nodes).filterMap Node.link?
  | [] => rfl
  | node :: rest => by
    rw [ofNodes, append, Node.allIn, List.filterMap_append, ← links_ofNode node,
      ← links_ofNodes rest]

end

/-- Of several definitions of a link the first one counts. -/
theorem link?_ofNode (tree : Node) (identifier : List Char) :
    (ofNode tree).link? identifier = tree.destination? identifier := by
  rw [link?, links_ofNode, Node.destination?]

/-- Of several definitions of a footnote the first one counts. -/
theorem footnote?_ofNode (tree : Node) (identifier : List Char) :
    (ofNode tree).footnote? identifier = tree.definition? identifier := by
  rw [footnote?, footnotes_ofNode, Node.definition?]

theorem mem_of_footnote? {ds : Definitions} {identifier : List Char} {content : List Node}
    (h : ds.footnote? identifier = some content) : (identifier, content) ∈ ds.footnotes := by
  rw [footnote?] at h
  obtain ⟨front, back, heq, -⟩ := List.lookup_eq_some_iff.1 h
  simp [heq]

/-- What a footnote that is found holds is in the tree that defines it. -/
theorem allIn_subset_of_footnote? {tree : Node} {identifier : List Char} {content : List Node}
    (h : (ofNode tree).footnote? identifier = some content) :
    Node.allIn content ⊆ Node.all tree := by
  have hmem := mem_of_footnote? h
  rw [footnotes_ofNode, List.mem_filterMap] at hmem
  obtain ⟨node, hnode, hdefines⟩ := hmem
  obtain ⟨construct, rfl⟩ := Node.eq_branch_of_footnote? hdefines
  refine List.Subset.trans ?_ (Node.all_subset_of_mem_all tree hnode)
  rw [Node.all]
  exact List.subset_cons_self _ _

end Galley.Typeset.Definitions
