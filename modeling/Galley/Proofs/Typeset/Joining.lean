import Galley.Proofs.Typeset.Page
import Galley.Proofs.Typeset.Tables
import Galley.Proofs.Typeset.Unlinked

/-!
Pages of blocks that are joined. Blocks that define nothing, neither where links lead nor what
footnotes hold, are set alike whatever stands around them: no footnote is called
(`nodesMarkup_append_of_no_notes`), and all that is set between two lists of blocks is the line
ending that separates nodes (`linesMarkup_append`). So the page of two lists of blocks is written as
the page of the first, a line ending if both lists set something, and the page of the second
(`write_page_append`).
-/

set_option autoImplicit false
set_option relaxedAutoImplicit false

namespace Galley

open Html Markdown Typeset

/-! ### Trees one after the other -/

@[simp] theorem Html.Markup.writeAll_append (trees others : List Markup) :
    Markup.writeAll (trees ++ others) = Markup.writeAll trees ++ Markup.writeAll others := by
  induction trees with
  | nil => rfl
  | cons tree rest ih => simp [Markup.writeAll, ih]

namespace Typeset

theorem followingMarkup_append (trees others : List Markup) :
    followingMarkup (trees ++ others) = followingMarkup trees ++ followingMarkup others := by
  induction trees with
  | nil => rfl
  | cons tree rest ih => simp [followingMarkup, ih]

/-- Behind a first tree each tree is on a line of its own. -/
theorem followingMarkup_of_ne_nil {trees : List Markup} (h : trees ≠ []) :
    followingMarkup trees = lineMarkup :: linesMarkup trees := by
  obtain ⟨tree, rest, rfl⟩ := List.exists_cons_of_ne_nil h
  rfl

theorem linesMarkup_eq_nil_iff {trees : List Markup} : linesMarkup trees = [] ↔ trees = [] := by
  cases trees with
  | nil => simp [linesMarkup]
  | cons tree rest => simp [linesMarkup]

/-- The line ending between two lists of trees, of which either may be empty. -/
def separator (trees others : List Markup) : List Markup :=
  if trees ≠ [] ∧ others ≠ [] then [lineMarkup] else []

/-- Trees on lines of their own are those of both lists, with a line ending between them if neither
list is empty. -/
theorem linesMarkup_append (trees others : List Markup) :
    linesMarkup (trees ++ others) =
      linesMarkup trees ++ separator trees others ++ linesMarkup others := by
  cases trees with
  | nil => simp [linesMarkup, separator]
  | cons tree rest =>
    by_cases hothers : others = []
    · simp [hothers, linesMarkup, separator]
    · simp [linesMarkup, separator, hothers, followingMarkup_append,
        followingMarkup_of_ne_nil hothers]

/-! ### Blocks that define nothing -/

/-- Where no footnote is defined, the calls stay as they are. -/
theorem calls_nodesMarkup_of_no_notes {ds : Definitions} (hnotes : ds.footnotes = [])
    (isTight : Bool) (nodes : List Node) (calls : Calls) :
    (nodesMarkup ds isTight nodes calls).2 = calls := by
  have hread : IsContent fun _ ↦ (none : Option Unit) :=
    ⟨fun _ ↦ rfl, fun _ ↦ rfl, fun _ _ _ _ _ ↦ rfl⟩
  rw [(hread.shows_nodes ds isTight nodes calls).2,
    atomsMarkup_of_no_calls fun atom _ ↦ calledMarkup_of_no_notes hnotes atom]

/-- Where no footnote is defined, nodes are set alike whatever stands before them. -/
theorem nodesMarkup_append_of_no_notes {ds : Definitions} (hnotes : ds.footnotes = [])
    (isTight : Bool) (nodes others : List Node) (calls : Calls) :
    (nodesMarkup ds isTight (nodes ++ others) calls).1 =
      (nodesMarkup ds isTight nodes calls).1 ++ (nodesMarkup ds isTight others calls).1 := by
  induction nodes with
  | nil => rfl
  | cons node rest ih =>
    have hnode : (nodeMarkup ds isTight node calls).2 = calls := by
      have hone := calls_nodesMarkup_of_no_notes hnotes isTight [node] calls
      simpa [nodesMarkup] using hone
    simp [nodesMarkup, hnode, ih]

/-- Nodes in which nothing defines where a link leads or what a footnote holds. -/
def DefinesNothing (nodes : List Node) : Prop :=
  Node.AllIn (fun node ↦ node.isLinkDefinition = false ∧ node.isFootnoteDefinition = false) nodes

instance (nodes : List Node) : Decidable (DefinesNothing nodes) :=
  inferInstanceAs (Decidable (Node.AllIn _ nodes))

variable {blocks others : List Node}

theorem DefinesNothing.append (h : DefinesNothing blocks) (hothers : DefinesNothing others) :
    DefinesNothing (blocks ++ others) := by
  intro node hnode
  rw [Node.allIn_append, List.mem_append] at hnode
  rcases hnode with hnode | hnode
  · exact h node hnode
  · exact hothers node hnode

theorem DefinesNothing.ofNode_eq (h : DefinesNothing blocks) :
    Definitions.ofNode (.branch .root blocks) = {} := by
  have hlinks : (Definitions.ofNodes blocks).links = [] := by
    rw [Definitions.links_ofNodes, List.filterMap_eq_nil_iff]
    intro node hnode
    exact Option.not_isSome_iff_eq_none.1 (by simpa [Node.isLinkDefinition] using (h node hnode).1)
  have hfootnotes : (Definitions.ofNodes blocks).footnotes = [] := by
    rw [Definitions.footnotes_ofNodes, List.filterMap_eq_nil_iff]
    intro node hnode
    exact Option.not_isSome_iff_eq_none.1
      (by simpa [Node.isFootnoteDefinition] using (h node hnode).2)
  calc Definitions.ofNode (.branch .root blocks)
      = ⟨(Definitions.ofNodes blocks).links, (Definitions.ofNodes blocks).footnotes⟩ := rfl
    _ = {} := by rw [hlinks, hfootnotes]

/-- The trees of blocks that define nothing. -/
def blockMarkups (blocks : List Node) : List Markup := (nodesMarkup {} false blocks {}).1

theorem blockMarkups_append (blocks others : List Node) :
    blockMarkups (blocks ++ others) = blockMarkups blocks ++ blockMarkups others :=
  nodesMarkup_append_of_no_notes rfl false blocks others {}

/-- A page of blocks that define nothing has no section of footnotes. -/
theorem DefinesNothing.pageMarkup_eq (h : DefinesNothing blocks) :
    pageMarkup (.branch .root blocks) = linesMarkup (blockMarkups blocks) := by
  have hsection : (sectionMarkup {} {}).1 = [] := rfl
  rw [pageMarkup, h.ofNode_eq, topNodes]
  dsimp only
  rw [calls_nodesMarkup_of_no_notes rfl, hsection, List.append_nil]
  rfl

/-! ### Written pages -/

theorem write_page (tree : Node) : (page tree).write = Markup.writeAll (pageMarkup tree) := by
  obtain ⟨area, hspans, hnodup⟩ := page_spans tree
  rw [hspans.write_eq hnodup]
  rfl

/-- A page has no node below its root if and only if it has no tree. -/
theorem children_page_eq_nil_iff (tree : Node) :
    (page tree).children Document.root = [] ↔ pageMarkup tree = [] := by
  obtain ⟨area, hspans, -⟩ := page_spans tree
  obtain ⟨kind, children, inner, below, heq, -, hcell, hbelow⟩ := hspans.of_singleton
  obtain ⟨-, rfl⟩ : kind = .root ∧ inner = pageMarkup tree := by simpa using heq.symm
  rw [Document.children_of_get? hcell, ← List.length_eq_zero_iff, hbelow.length_eq,
    List.length_eq_zero_iff]

end Typeset

/-- Pages of blocks that define nothing are put together from those of their parts: the page of two
lists of blocks is written as the page of the first list, a line ending if and only if both pages
have a node below their root, and the page of the second list. -/
theorem write_page_append {blocks others : List Node} (hblocks : DefinesNothing blocks)
    (hothers : DefinesNothing others) :
    (page (.branch .root (blocks ++ others))).write =
      (page (.branch .root blocks)).write ++
        (if (page (.branch .root blocks)).children Document.root ≠ [] ∧
            (page (.branch .root others)).children Document.root ≠ [] then ['\n'] else []) ++
          (page (.branch .root others)).write := by
  have hline : Markup.writeAll [lineMarkup] = ['\n'] := by decide
  simp only [write_page, ne_eq, children_page_eq_nil_iff, hblocks.pageMarkup_eq,
    hothers.pageMarkup_eq, (hblocks.append hothers).pageMarkup_eq, linesMarkup_eq_nil_iff]
  rw [blockMarkups_append, linesMarkup_append, Markup.writeAll_append, Markup.writeAll_append,
    separator]
  congr 2
  split_ifs
  · exact hline
  · rfl

/-- A line ending stands between a list with a footnote that nothing defines and a hard break, which
is two nodes; none stands before blocks that set nothing. -/
theorem write_page_append_of_list_and_break :
    let call : Node := .atom (.footnoteReference ⟨"n".toList, none⟩)
    let blocks : List Node := [.branch (.list false none false)
      [.branch (.item (some true) false) [.branch .paragraph [.text "a".toList, call]]]]
    let others : List Node := [.atom .hardBreak, .branch .row [.text "b".toList]]
    let unset : List Node := [.atom (.yaml "c".toList), .branch .cell [call]]
    (page (.branch .root (blocks ++ others))).write =
        (page (.branch .root blocks)).write ++ ['\n'] ++ (page (.branch .root others)).write ∧
      (page (.branch .root (blocks ++ unset))).write =
        (page (.branch .root blocks)).write ++ [] ++ (page (.branch .root unset)).write := by
  intro call blocks others unset
  have hblocks : DefinesNothing blocks := by decide
  have hothers : DefinesNothing others := by decide
  have hunset : DefinesNothing unset := by decide
  constructor
  · have hwrite := write_page_append hblocks hothers
    rwa [if_pos (by decide +kernel)] at hwrite
  · have hwrite := write_page_append hblocks hunset
    rwa [if_neg (by decide +kernel)] at hwrite

end Galley
