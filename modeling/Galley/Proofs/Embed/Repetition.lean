import Galley.Proofs.Embed.Replacement

/-!
Expanding a tree again. A tree is expanded if no block and no shortcode in it gives way to markup,
and no paragraph in it to markers (`IsExpanded`). Expansion makes such a tree
(`isExpanded_of_mem_allIn`) and leaves one as it is (`expandedAll_of_isExpanded`). What it found
wrong it finds wrong again, in the same order, since blocks and shortcodes with a wrong name stay
where they were, and there is nothing left to warn of (`reports_expandedAll`). So a second expansion
adds the errors of the first one and changes nothing else (`expand_expand`).
-/

set_option autoImplicit false
set_option relaxedAutoImplicit false

namespace Galley.Embed

open Markdown

/-- A node that expansion has nothing to replace at. -/
def IsExpanded : Node → Prop
  | .atom (.text value) => ∀ piece ∈ pieces value, piece.markup? = none
  | .atom value => leafMarkup? value = none
  | .branch construct children => construct = .paragraph → ¬ IsLone children

/-! ### What is expanded stays -/

theorem replacement_of_isExpanded {value : Atom} (h : IsExpanded (.atom value)) :
    replacement value = [.atom value] := by
  have hplaced {other : Atom} (hother : leafMarkup? other = none) : placed other = .atom other := by
    rw [placed, hother, Option.elim_none]
  cases value with
  | text value => exact cutText_of_forall_none h
  | _ => exact congrArg ([·]) (hplaced h)

mutual

theorem expanded_of_isExpanded :
    ∀ node : Node, (∀ lower ∈ node.all, IsExpanded lower) → expanded node = [node]
  | .atom value, h => replacement_of_isExpanded (h _ (Node.mem_all_self _))
  | .branch construct children, h => by
    have hbelow : ∀ lower ∈ Node.allIn children, IsExpanded lower := fun lower hlower ↦
      h lower (List.mem_cons_of_mem _ hlower)
    rw [expanded, expandedAll_of_isExpanded children hbelow]
    exact liftMarkers_of_not (h _ (Node.mem_all_self _))

theorem expandedAll_of_isExpanded :
    ∀ nodes : List Node, (∀ lower ∈ Node.allIn nodes, IsExpanded lower) → expandedAll nodes = nodes
  | [], _ => rfl
  | node :: rest, h => by
    have hnode := expanded_of_isExpanded node fun lower hlower ↦
      h lower (List.mem_append_left _ hlower)
    have hrest := expandedAll_of_isExpanded rest fun lower hlower ↦
      h lower (List.mem_append_right _ hlower)
    rw [expandedAll, hnode, hrest, List.singleton_append]

end

/-! ### Expansion expands -/

theorem isExpanded_placed (value : Atom) (htext : ∀ text, value ≠ .text text) :
    ∃ other, placed value = .atom other ∧ IsExpanded (.atom other) := by
  rw [placed]
  cases hmarkup : leafMarkup? value with
  | some markup => exact ⟨.html markup, rfl, rfl⟩
  | none =>
    refine ⟨value, rfl, ?_⟩
    cases value with
    | text text => exact absurd rfl (htext text)
    | _ => exact hmarkup

theorem isExpanded_of_mem_replacement {value : Atom} {part : Node} (h : part ∈ replacement value) :
    ∃ other, part = .atom other ∧ IsExpanded part := by
  have hleaf (other : Atom) (htext : ∀ text, other ≠ .text text) (hpart : part ∈ [placed other]) :
      ∃ leaf, part = .atom leaf ∧ IsExpanded part := by
    obtain ⟨leaf, heq, hleaf⟩ := isExpanded_placed other htext
    obtain rfl := List.mem_singleton.1 hpart
    exact ⟨leaf, heq, heq ▸ hleaf⟩
  cases value with
  | text text =>
    by_cases hnil : text = []
    · obtain rfl : part = .text [] := by simpa [replacement, hnil, cutText] using h
      refine ⟨_, rfl, ?_⟩
      rw [IsExpanded, pieces]
      simp
    · have hcut := cut_cutText hnil
      obtain ⟨value, rfl⟩ | ⟨markup, rfl⟩ := hcut.eq_text_or_html part h
      · exact ⟨_, rfl, hcut.markup?_eq_none (isCut_pieces text) h⟩
      · exact ⟨_, rfl, rfl⟩
  | _ => exact hleaf _ (fun _ ↦ Atom.noConfusion) h

theorem mem_allIn_of_atoms {nodes : List Node} {lower : Node}
    (h : ∀ node ∈ nodes, ∃ value, node = .atom value) :
    lower ∈ Node.allIn nodes ↔ lower ∈ nodes := by
  induction nodes with
  | nil => exact Iff.rfl
  | cons node rest ih =>
    obtain ⟨value, rfl⟩ := h node (by simp)
    rw [Node.allIn, Node.all, List.singleton_append, List.mem_cons, List.mem_cons,
      ih fun other hother ↦ h other (by simp [hother])]

mutual

theorem isExpanded_of_mem_all :
    ∀ node : Node, ∀ lower ∈ Node.allIn (expanded node), IsExpanded lower
  | .atom value, lower, h => by
    rw [expanded, mem_allIn_of_atoms] at h
    · exact (isExpanded_of_mem_replacement h).choose_spec.2
    · exact fun part hpart ↦ (isExpanded_of_mem_replacement hpart).imp fun _ hvalue ↦ hvalue.1
  | .branch construct children, lower, h => by
    rw [expanded] at h
    by_cases hlone : construct = .paragraph ∧ IsLone (expandedAll children)
    · obtain ⟨rfl, hlone⟩ := hlone
      rw [liftMarkers_of_isLone hlone, mem_allIn_of_atoms] at h
      · have hmem := Node.mem_allIn_of_mem (List.mem_of_mem_filter h)
        exact isExpanded_of_mem_allIn children lower hmem
      · exact fun node hnode ↦ atom_of_isMarker (List.of_mem_filter hnode)
    · rw [liftMarkers_of_not (not_and.1 hlone), Node.allIn, Node.all, Node.allIn, List.append_nil,
        List.mem_cons] at h
      rcases h with rfl | h
      · exact not_and.1 hlone
      · exact isExpanded_of_mem_allIn children lower h

theorem isExpanded_of_mem_allIn :
    ∀ nodes : List Node, ∀ lower ∈ Node.allIn (expandedAll nodes), IsExpanded lower
  | [], lower, h => by simp [expandedAll, Node.allIn] at h
  | node :: rest, lower, h => by
    rw [expandedAll, Node.allIn_append, List.mem_append] at h
    rcases h with h | h
    · exact isExpanded_of_mem_all node lower h
    · exact isExpanded_of_mem_allIn rest lower h

end

/-! ### Reports of an expanded tree -/

theorem filterMap_blocksIn {α : Type} (read : List Char × Option Point → Option α)
    (nodes : List Node) : (blocksIn nodes).filterMap read =
      (Node.atomsIn nodes).flatMap fun value ↦ ((block? value).bind read).toList := by
  rw [blocksIn, List.filterMap_filterMap, List.filterMap_eq_flatMap_toList]

theorem filterMap_shortcodesIn {α : Type} (read : List Char → Option α) (nodes : List Node) :
    (shortcodesIn nodes).filterMap read =
      (Node.atomsIn nodes).flatMap fun value ↦ (atomShortcodes value).filterMap read := by
  rw [shortcodesIn, List.filterMap_flatMap]

/-- A reading of leaves that gives nothing for texts and raw markup reads of the replacement of a
leaf what it reads of the leaf, unless the leaf gives way to markup. -/
theorem flatMap_atomsIn_replacement {α : Type} {read : Atom → List α}
    (htext : ∀ value, read (.text value) = []) (hhtml : ∀ value, read (.html value) = [])
    (value : Atom) : (Node.atomsIn (replacement value)).flatMap read =
      if leafMarkup? value = none then read value else [] := by
  have hleaf (other : Atom) : (Node.atomsIn [placed other]).flatMap read =
      if leafMarkup? other = none then read other else [] := by
    rw [flatMap_atomsIn_placed]
    cases leafMarkup? other with
    | none => rfl
    | some markup => exact hhtml markup
  cases value with
  | text text =>
    have hparts : (Node.atomsIn (cutText text)).flatMap read = (pieces text).flatMap fun _ ↦ [] :=
      flatMap_atomsIn_cutText (fun _ _ _ ↦ hhtml _) (fun _ _ _ ↦ by simp [htext]) text
    have hnone : leafMarkup? (.text text) = none := rfl
    rw [replacement, hparts, if_pos hnone, htext]
    simp
  | _ => exact hleaf _

theorem leafMarkup?_of_block? {value : Atom} {block : List Char × Option Point}
    (h : block? value = some block) : leafMarkup? value = blockMarkup? block.1 := by
  rw [leafMarkup?, h, Option.bind_some]

theorem filterMap_blocksIn_expandedAll {α : Type} (read : List Char × Option Point → Option α)
    (nodes : List Node) : (blocksIn (expandedAll nodes)).filterMap read =
      ((blocksIn nodes).filter fun block ↦ (blockMarkup? block.1).isNone).filterMap read := by
  rw [List.filterMap_filter, filterMap_blocksIn, filterMap_blocksIn]
  refine flatMap_atomsIn_expandedAll (fun value ↦ ?_) (fun _ _ ↦ rfl) nodes
  rw [flatMap_atomsIn_replacement (fun _ ↦ rfl) (fun _ ↦ rfl)]
  cases hblock : block? value with
  | none => simp
  | some block =>
    rw [leafMarkup?_of_block? hblock, Option.bind_some, Option.bind_some]
    cases blockMarkup? block.1 <;> simp

theorem filterMap_shortcodesIn_expandedAll (nodes : List Node) :
    (shortcodesIn (expandedAll nodes)).filterMap (fun params ↦
        (Recording.ofShortcode params).problem?) =
      (shortcodesIn nodes).filterMap fun params ↦ (Recording.ofShortcode params).problem? := by
  rw [filterMap_shortcodesIn, filterMap_shortcodesIn]
  have hblank (value : List Char) (hvalue : Text.isBlankText value = true) :
      (atomShortcodes (.text value)).filterMap (fun params ↦
        (Recording.ofShortcode params).problem?) = [] := by
    rw [atomShortcodes, shortcodes_of_isBlankText hvalue, List.filterMap_nil]
  refine flatMap_atomsIn_expandedAll (fun value ↦ ?_) hblank nodes
  have hpieces (ps : List Piece) : (ps.filterMap Piece.params?).filterMap (fun params ↦
      (Recording.ofShortcode params).problem?) = ps.flatMap fun piece ↦ piece.problem?.toList := by
    rw [List.filterMap_filterMap, List.filterMap_eq_flatMap_toList]
    rfl
  cases value with
  | text text =>
    rw [replacement, atomShortcodes, shortcodes, hpieces]
    refine flatMap_atomsIn_cutText (fun piece markup hmarkup ↦ ?_) (fun ps hps _ ↦ ?_) text
    · rw [Piece.problem?_of_markup? hmarkup]
      rfl
    · rw [atomShortcodes, shortcodes, hps, hpieces]
  | code language remark body place =>
    refine (flatMap_atomsIn_placed _ _).trans ?_
    cases leafMarkup? (.code language remark body place) <;> rfl
  | _ => rfl

theorem problem?_of_blockMarkup? {body : List Char} (h : (Recording.ofBlock body).problem? ≠ none) :
    blockMarkup? body = none := by
  unfold Recording.problem? at h
  split_ifs at h with hgood
  · exact absurd rfl h
  · rw [Bool.or_eq_true, not_or] at hgood
    rw [blockMarkup?, if_neg hgood.1, if_neg hgood.2]

theorem blockWarning?_of_blockMarkup? {body : List Char} (h : blockMarkup? body = none)
    (place : Option Point) : blockWarning? body place = none := by
  rw [blockWarning?, if_neg]
  intro hempty
  rw [blockMarkup?, if_pos hempty] at h
  cases h

/-- The reports of an expanded tree are the errors of the tree. -/
theorem reports_expandedAll (nodes : List Node) :
    reports (expandedAll nodes) = { errors := (reports nodes).errors } := by
  have hwarnings : (blockReports (blocksIn (expandedAll nodes))).warnings = [] := by
    rw [blockReports, filterMap_blocksIn_expandedAll, List.filterMap_eq_nil_iff]
    intro block hblock
    exact blockWarning?_of_blockMarkup? (by simpa using (List.mem_filter.1 hblock).2) block.2
  have herrors : (blockReports (blocksIn (expandedAll nodes))).errors =
      (blockReports (blocksIn nodes)).errors := by
    simp only [blockReports]
    rw [filterMap_blocksIn_expandedAll, List.filterMap_filter]
    refine List.filterMap_congr fun block _ ↦ ?_
    split_ifs with hmarkup
    · rfl
    · by_contra hproblem
      exact hmarkup (by simpa using problem?_of_blockMarkup? (Ne.symm hproblem))
  have hcodes : shortcodeReports (shortcodesIn (expandedAll nodes)) =
      shortcodeReports (shortcodesIn nodes) := by
    rw [shortcodeReports, shortcodeReports, filterMap_shortcodesIn_expandedAll]
  rw [reports, reports, Diagnostics.extend, hwarnings, herrors, hcodes]
  rfl

theorem stage_of_mem_reports {nodes : List Node} {problem : Problem}
    (h : problem ∈ (reports nodes).errors) : problem.stage = stage := by
  have hstage {r : Recording} (hr : r.problem? = some problem) : problem.stage = stage := by
    unfold Recording.problem? at hr
    split_ifs at hr
    rw [← Option.some.inj hr]
  rcases List.mem_append.1 h with h | h
  · obtain ⟨block, -, hblock⟩ := List.mem_filterMap.1 h
    exact hstage hblock
  · obtain ⟨params, -, hparams⟩ := List.mem_filterMap.1 h
    exact hstage hparams

/-- Expanding a tree again leaves the tree as it is, adds no warning, and adds the errors that
expanding it for the first time added. -/
theorem expand_expand (root : Node) (d d' : Diagnostics) :
    ∃ problems, (expand root d).2.errors = d.errors ++ problems ∧
      (∀ problem ∈ problems, problem.stage = stage) ∧
      expand (expand root d).1 d' =
        ((expand root d).1, { d' with errors := d'.errors ++ problems }) := by
  cases root with
  | atom value => exact ⟨[], by simp [expand], by simp, by simp [expand]⟩
  | branch construct children =>
    have hstays := expandedAll_of_isExpanded (expandedAll children)
      (isExpanded_of_mem_allIn children)
    refine ⟨(reports children).errors, ?_, fun problem ↦ stage_of_mem_reports, ?_⟩
    · rw [expand_branch]
      rfl
    · rw [expand_branch, expand_branch, hstays, reports_expandedAll]
      simp [Diagnostics.extend]

end Galley.Embed
