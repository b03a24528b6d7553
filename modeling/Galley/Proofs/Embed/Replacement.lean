import Galley.Proofs.Embed.Expansion
import Galley.Proofs.Embed.Shortcodes
import Galley.Proofs.Typeset.Tables

/-!
What a tree is expanded to, apart from reports. Blocks and shortcodes are replaced one after the
other, but neither replacement depends on the other or on what was reported, so that both together
are one replacement of the leaves, with paragraphs of markers giving way from below (`expandedAll`,
`expand_branch`). What is read of the leaves of an expanded tree is therefore read of what stands in
place of the leaves of the tree (`flatMap_atomsIn_expandedAll`).
-/

set_option autoImplicit false
set_option relaxedAutoImplicit false

namespace Galley.Embed

open Markdown

/-! ### Blocks and shortcodes of a tree -/

/-- The text and the place of a block in the language of recordings. -/
def block? : Atom → Option (List Char × Option Point)
  | .code language _ body place =>
    if language == some recordingLanguage then some (body, place) else none
  | _ => none

/-- The blocks in nodes that stand for a recording, in order. -/
def blocksIn (nodes : List Node) : List (List Char × Option Point) :=
  (Node.atomsIn nodes).filterMap block?

/-- The shortcodes of a text, from left to right, by what they hold after the colon. -/
def shortcodes (value : List Char) : List (List Char) := (pieces value).filterMap Piece.params?

/-- The shortcodes of a leaf. -/
def atomShortcodes : Atom → List (List Char)
  | .text value => shortcodes value
  | _ => []

/-- The shortcodes in nodes, in order. -/
def shortcodesIn (nodes : List Node) : List (List Char) :=
  (Node.atomsIn nodes).flatMap atomShortcodes

/-- The markup that stands in place of a block with the given text, unless its name is wrong. -/
def blockMarkup? (body : List Char) : Option (List Char) :=
  let r := Recording.ofBlock body
  if r.castId.isEmpty then some missingNotice
  else if r.isValid then some r.marker else none

/-- The warning of a block that names no recording. -/
def blockWarning? (body : List Char) (place : Option Point) : Option Warning :=
  if (Recording.ofBlock body).castId.isEmpty then
    some (.embedMissingCastId (place.map fun p => { line := p.line, column := p.column }))
  else none

/-- The reports of blocks. -/
def blockReports (blocks : List (List Char × Option Point)) : Diagnostics where
  warnings := blocks.filterMap fun block => blockWarning? block.1 block.2
  errors := blocks.filterMap fun block => (Recording.ofBlock block.1).problem?

/-- The reports of shortcodes. -/
def shortcodeReports (codes : List (List Char)) : Diagnostics where
  errors := codes.filterMap fun params => (Recording.ofShortcode params).problem?

theorem blockReports_append (blocks others : List (List Char × Option Point)) :
    blockReports (blocks ++ others) = (blockReports blocks).extend (blockReports others) := by
  simp [blockReports, Diagnostics.extend]

theorem blockReports_singleton (body : List Char) (place : Option Point) :
    blockReports [(body, place)] =
      { warnings := (blockWarning? body place).toList
        errors := (Recording.ofBlock body).problem?.toList } := by
  simp only [blockReports, List.filterMap_cons, List.filterMap_nil]
  rfl

theorem shortcodeReports_append (codes others : List (List Char)) :
    shortcodeReports (codes ++ others) =
      (shortcodeReports codes).extend (shortcodeReports others) := by
  simp [shortcodeReports, Diagnostics.extend]

theorem problemsIn_eq (value : List Char) :
    { errors := problemsIn value } = shortcodeReports (shortcodes value) := by
  rw [shortcodeReports, shortcodes, List.filterMap_filterMap]
  rfl

theorem shortcodesIn_append (nodes others : List Node) :
    shortcodesIn (nodes ++ others) = shortcodesIn nodes ++ shortcodesIn others := by
  rw [shortcodesIn, Node.atomsIn_append, List.flatMap_append]
  rfl

theorem blocksIn_append (nodes others : List Node) :
    blocksIn (nodes ++ others) = blocksIn nodes ++ blocksIn others := by
  rw [blocksIn, Node.atomsIn_append, List.filterMap_append]
  rfl

theorem blocksIn_atom (value : Atom) : blocksIn [.atom value] = (block? value).toList := by
  rw [blocksIn, Node.atomsIn_atom, List.filterMap_cons]
  cases block? value <;> rfl

theorem blocksIn_branch (construct : Construct) (children : List Node) :
    blocksIn [.branch construct children] = blocksIn children := by
  rw [blocksIn, Node.atomsIn_branch]
  exact congrArg _ (List.append_nil _)

theorem shortcodesIn_atom (value : Atom) : shortcodesIn [.atom value] = atomShortcodes value :=
  List.append_nil _

theorem shortcodesIn_branch (construct : Construct) (children : List Node) :
    shortcodesIn [.branch construct children] = shortcodesIn children := by
  rw [shortcodesIn, Node.atomsIn_branch]
  exact congrArg _ (List.append_nil _)

/-! ### Replacements -/

/-- The markup that stands in place of a leaf other than a text. -/
def leafMarkup? (value : Atom) : Option (List Char) := (block? value).bind (blockMarkup? ·.1)

/-- A leaf, or the markup that stands in its place. -/
def placed (value : Atom) : Node := (leafMarkup? value).elim (.atom value) html

/-- What stands in place of a leaf. -/
def replacement : Atom → List Node
  | .text value => cutText value
  | value => [placed value]

mutual

/-- What stands in place of a node. -/
def expanded : Node → List Node
  | .atom value => replacement value
  | .branch construct children => liftMarkers construct (expandedAll children)

/-- What stands in place of nodes. -/
def expandedAll : List Node → List Node
  | [] => []
  | node :: rest => expanded node ++ expandedAll rest

end

theorem expandBlocks_atom (d : Diagnostics) (value : Atom) :
    expandBlocks d (.atom value) =
      (placed value, d.extend (blockReports (block? value).toList)) := by
  cases value with
  | code language remark body place =>
    by_cases hlanguage : language = some recordingLanguage
    · subst hlanguage
      rw [expandBlocks, placed, leafMarkup?, block?, beq_self_eq_true, if_pos rfl, if_pos rfl,
        Option.toList_some, blockReports_singleton]
      simp only [replaceBlock, Option.bind_some, blockMarkup?, blockWarning?, Recording.problem?]
      -- A block has no name, or a good one, or a bad one.
      by_cases hname : (Recording.ofBlock body).castId.isEmpty = true
      · simp [hname, Diagnostics.warn, Diagnostics.extend]
      · by_cases hvalid : (Recording.ofBlock body).isValid = true
        · simp [hname, hvalid, Diagnostics.extend]
        · simp [hname, hvalid, Diagnostics.fail_eq_extend]
    · have hother : (language == some recordingLanguage) = false := by simpa using hlanguage
      rw [expandBlocks, placed, leafMarkup?, block?, hother]
      exact congrArg (Prod.mk _) (Diagnostics.extend_empty d).symm
  | _ => exact congrArg (Prod.mk _) (Diagnostics.extend_empty d).symm

theorem expandShortcodes_placed (d : Diagnostics) (value : Atom) :
    expandShortcodes d (placed value) =
      (replacement value, d.extend (shortcodeReports (atomShortcodes value))) := by
  have hsame (markup? : Option (List Char)) (other : Atom)
      (hother : expandShortcodes d (.atom other) = ([.atom other], d)) :
      expandShortcodes d (markup?.elim (.atom other) html) =
        ([markup?.elim (.atom other) html], d.extend (shortcodeReports [])) := by
    rw [show shortcodeReports [] = {} from rfl, Diagnostics.extend_empty]
    cases markup? with
    | none => exact hother
    | some markup => rfl
  cases value with
  | text value =>
    rw [replacement, atomShortcodes, ← problemsIn_eq]
    exact expandShortcodes_text d value
  | _ => exact hsame _ _ rfl

mutual

theorem reports_expandBlocks (d : Diagnostics) :
    ∀ node : Node, (expandBlocks d node).2 = d.extend (blockReports (blocksIn [node]))
  | .atom value => by rw [expandBlocks_atom, blocksIn_atom]
  | .branch construct children => by
    rw [blocksIn_branch]
    exact reports_expandAllBlocks d children

theorem reports_expandAllBlocks (d : Diagnostics) :
    ∀ nodes : List Node, (expandAllBlocks d nodes).2 = d.extend (blockReports (blocksIn nodes))
  | [] => (Diagnostics.extend_empty d).symm
  | node :: rest => by
    rw [expandAllBlocks]
    dsimp only
    rw [reports_expandAllBlocks _ rest, reports_expandBlocks d node, Diagnostics.extend_extend,
      ← blockReports_append, ← blocksIn_append, List.singleton_append]

end

mutual

theorem expandShortcodes_expandBlocks (d d' : Diagnostics) :
    ∀ node : Node, expandShortcodes d' (expandBlocks d node).1 =
      (expanded node, d'.extend (shortcodeReports (shortcodesIn [node])))
  | .atom value => by
    rw [expandBlocks_atom, expandShortcodes_placed, shortcodesIn_atom, expanded]
  | .branch construct children => by
    rw [expandBlocks]
    dsimp only
    rw [expandShortcodes, expandAllShortcodes_expandAllBlocks d d' children, shortcodesIn_branch,
      expanded]

theorem expandAllShortcodes_expandAllBlocks (d d' : Diagnostics) :
    ∀ nodes : List Node, expandAllShortcodes d' (expandAllBlocks d nodes).1 =
      (expandedAll nodes, d'.extend (shortcodeReports (shortcodesIn nodes)))
  | [] => congrArg (Prod.mk _) (Diagnostics.extend_empty d').symm
  | node :: rest => by
    rw [expandAllBlocks]
    dsimp only
    rw [expandAllShortcodes, expandShortcodes_expandBlocks d d' node]
    dsimp only
    rw [expandAllShortcodes_expandAllBlocks _ _ rest, expandedAll, Diagnostics.extend_extend,
      ← shortcodeReports_append, ← shortcodesIn_append, List.singleton_append]

end

/-- The reports of nodes: those of all blocks, and then those of all shortcodes. -/
def reports (nodes : List Node) : Diagnostics :=
  (blockReports (blocksIn nodes)).extend (shortcodeReports (shortcodesIn nodes))

/-- Expansion replaces what is below the top of a tree and adds its reports. -/
theorem expand_branch (construct : Construct) (children : List Node) (d : Diagnostics) :
    expand (.branch construct children) d =
      (.branch construct (expandedAll children), d.extend (reports children)) := by
  rw [expand]
  dsimp only
  rw [expandAllShortcodes_expandAllBlocks, reports_expandAllBlocks, Diagnostics.extend_extend,
    reports]

/-! ### Paragraphs of markers -/

/-- Of these nodes only markers are left, one at least, and blanks. -/
structure IsLone (children : List Node) : Prop where
  any : ∃ node ∈ children, isMarker node = true
  all : ∀ node ∈ children, isMarker node = true ∨ isBlankNode node = true

theorem liftMarkers_of_isLone {children : List Node} (h : IsLone children) :
    liftMarkers .paragraph children = children.filter isMarker := by
  refine if_pos ?_
  simpa using ⟨h.any, h.all⟩

theorem liftMarkers_of_not {construct : Construct} {children : List Node}
    (h : construct = .paragraph → ¬ IsLone children) :
    liftMarkers construct children = [.branch construct children] := by
  refine if_neg ?_
  simp only [Bool.and_eq_true, beq_iff_eq, List.any_eq_true, List.all_eq_true, Bool.or_eq_true]
  rintro ⟨⟨hparagraph, hany⟩, hall⟩
  exact h hparagraph ⟨hany, hall⟩

/-! ### What is read of an expanded tree -/

section

variable {α : Type}

theorem flatMap_atomsIn_placed (read : Atom → List α) (value : Atom) :
    (Node.atomsIn [placed value]).flatMap read =
      (leafMarkup? value).elim (read value) (read ∘ .html) := by
  rw [placed]
  cases leafMarkup? value with
  | none => exact List.append_nil _
  | some markup => exact List.append_nil _

theorem eq_text_of_isBlankNode {node : Node} (h : isBlankNode node = true) :
    ∃ value, node = .text value ∧ Text.isBlankText value = true := by
  unfold isBlankNode at h
  split at h
  · exact ⟨_, rfl, h⟩
  · cases h

theorem flatMap_atomsIn_filter {read : Atom → List α}
    (hblank : ∀ value, Text.isBlankText value = true → read (.text value) = [])
    {nodes : List Node} (h : ∀ node ∈ nodes, isMarker node = true ∨ isBlankNode node = true) :
    (Node.atomsIn (nodes.filter isMarker)).flatMap read = (Node.atomsIn nodes).flatMap read := by
  induction nodes with
  | nil => rfl
  | cons node rest ih =>
    have hrest := ih fun other hother ↦ h other (by simp [hother])
    by_cases hmarker : isMarker node = true
    · obtain ⟨value, rfl⟩ := atom_of_isMarker hmarker
      rw [List.filter_cons_of_pos hmarker, Node.atomsIn_atom, Node.atomsIn_atom,
        List.flatMap_cons, List.flatMap_cons, hrest]
    · obtain ⟨value, rfl, hvalue⟩ :=
        eq_text_of_isBlankNode ((h node (by simp)).resolve_left hmarker)
      rw [List.filter_cons_of_neg hmarker, Node.atomsIn_atom, List.flatMap_cons, hblank _ hvalue,
        List.nil_append, hrest]

mutual

theorem flatMap_atomsIn_expanded {before after : Atom → List α}
    (hreplacement : ∀ value, (Node.atomsIn (replacement value)).flatMap after = before value)
    (hblank : ∀ value, Text.isBlankText value = true → after (.text value) = []) :
    ∀ node : Node, (Node.atomsIn (expanded node)).flatMap after =
      (Node.atomsIn [node]).flatMap before
  | .atom value => by
    rw [expanded, hreplacement, Node.atomsIn_atom, List.flatMap_cons]
    exact (List.append_nil _).symm
  | .branch construct children => by
    have hchildren := flatMap_atomsIn_expandedAll hreplacement hblank children
    rw [expanded, Node.atomsIn_branch, show Node.atomsIn [] = [] from rfl, List.append_nil,
      ← hchildren]
    by_cases hlone : construct = .paragraph ∧ IsLone (expandedAll children)
    · obtain ⟨rfl, hlone⟩ := hlone
      rw [liftMarkers_of_isLone hlone]
      exact flatMap_atomsIn_filter hblank hlone.all
    · rw [liftMarkers_of_not (not_and.1 hlone), Node.atomsIn_branch]
      exact congrArg _ (List.append_nil _)

/-- What is read of the leaves of an expanded tree, but not of blank texts, is what is read of the
replacements of the leaves of the tree. -/
theorem flatMap_atomsIn_expandedAll {before after : Atom → List α}
    (hreplacement : ∀ value, (Node.atomsIn (replacement value)).flatMap after = before value)
    (hblank : ∀ value, Text.isBlankText value = true → after (.text value) = []) :
    ∀ nodes : List Node, (Node.atomsIn (expandedAll nodes)).flatMap after =
      (Node.atomsIn nodes).flatMap before
  | [] => rfl
  | node :: rest => by
    rw [expandedAll, Node.atomsIn_append, List.flatMap_append,
      flatMap_atomsIn_expanded hreplacement hblank node,
      flatMap_atomsIn_expandedAll hreplacement hblank rest, ← List.flatMap_append,
      ← Node.atomsIn_append, List.singleton_append]

end

theorem Cut.flatMap_atomsIn {read : Atom → List α} {give : Piece → List α}
    (hhtml : ∀ piece markup, piece.markup? = some markup → read (.html markup) = give piece)
    (htext : ∀ ps, IsCut ps → (∀ piece ∈ ps, piece.markup? = none) →
      read (.text (sources ps)) = ps.flatMap give)
    {ps : List Piece} {parts : List Node} (h : Cut ps parts) (hcut : IsCut ps) :
    (Node.atomsIn parts).flatMap read = ps.flatMap give := by
  have hgap {qs : List Piece} (hqs : IsCut qs) (hnone : ∀ piece ∈ qs, piece.markup? = none) :
      (Node.atomsIn (gapNode (sources qs).reverse)).flatMap read = qs.flatMap give := by
    unfold gapNode
    split_ifs with hempty
    · have hnil : sources qs = [] := by simpa using hempty
      rw [IsCut, hnil, pieces] at hqs
      rw [← hqs]
      rfl
    · rw [List.reverse_reverse, Node.atomsIn_atom, List.flatMap_cons, htext qs hqs hnone]
      exact List.append_nil _
  induction h with
  | gap hnone => exact hgap hcut hnone
  | marker hnone hmarkup hrest ih =>
    obtain ⟨hbefore, hafter⟩ := hcut.of_append
    rw [Node.atomsIn_append, List.flatMap_append, hgap hbefore hnone, Node.atomsIn_atom,
      List.flatMap_cons, hhtml _ _ hmarkup, ih hafter.tail, List.flatMap_append,
      List.flatMap_cons]

/-- What is read of the parts of a text is what its pieces give, if a piece gives what is read of
its marker, and pieces without a marker give what is read of the text that they are. -/
theorem flatMap_atomsIn_cutText {read : Atom → List α} {give : Piece → List α}
    (hhtml : ∀ piece markup, piece.markup? = some markup → read (.html markup) = give piece)
    (htext : ∀ ps, IsCut ps → (∀ piece ∈ ps, piece.markup? = none) →
      read (.text (sources ps)) = ps.flatMap give) (value : List Char) :
    (Node.atomsIn (cutText value)).flatMap read = (pieces value).flatMap give := by
  by_cases hvalue : value = []
  · rw [hvalue, pieces, show cutText [] = [.text []] from rfl, Node.atomsIn_atom,
      List.flatMap_cons, show ([] : List Char) = sources [] from rfl, htext [] isCut_nil (by simp)]
    rfl
  · exact (cut_cutText hvalue).flatMap_atomsIn hhtml htext (isCut_pieces value)

end

theorem params?_eq_none_of_isBlankText {value : List Char} (h : Text.isBlankText value = true) :
    ∀ piece ∈ pieces value, piece.params? = none := by
  intro piece hpiece
  cases piece with
  | plain c => rfl
  | shortcode params =>
    have hmem : '[' ∈ sources (pieces value) := by
      refine List.mem_flatMap.2 ⟨_, hpiece, ?_⟩
      exact List.mem_append_left _ (List.mem_append_left _ (by decide))
    rw [sources_pieces] at hmem
    have hblank := List.all_eq_true.1 h _ hmem
    exact absurd hblank (by decide)

theorem shortcodes_of_isBlankText {value : List Char} (h : Text.isBlankText value = true) :
    shortcodes value = [] :=
  List.filterMap_eq_nil_iff.2 (params?_eq_none_of_isBlankText h)

end Galley.Embed
