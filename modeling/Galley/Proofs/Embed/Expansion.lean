import Galley.Embed.Expansion
import Galley.Proofs.Typeset.Shown

/-!
What the expansion of markers does to a tree. `Expands` lists the changes: a block that names a
recording becomes raw markup, a text is cut into texts and markers, and a paragraph of markers gives
way to them. All else stays, so that what a page shows apart from texts, recordings and this markup
is the same before and after (`Expands.flatMap_shown`), and the same footnotes are defined
(`Expands.footnotes_eq`).
-/

set_option autoImplicit false
set_option relaxedAutoImplicit false

namespace Galley.Embed

open Markdown Typeset

/-- The raw markup that expansion puts in. -/
def IsMarkup (markup : List Char) : Prop :=
  markup = missingNotice ∨ ∃ recording : Recording, markup = recording.marker

/-- A part of a text that was cut at its shortcodes. -/
def IsPart (node : Node) : Prop :=
  (∃ value, node = .text value) ∨ ∃ markup, IsMarkup markup ∧ node = html markup

/-- Nodes become others by expansion. -/
inductive Expands : List Node → List Node → Prop
  | nil : Expands [] []
  | atom (value : Atom) {rest rest' : List Node} (hrest : Expands rest rest') :
      Expands (.atom value :: rest) (.atom value :: rest')
  | block (remark : Option (List Char)) (value : List Char) (place : Option Point)
      {markup : List Char} (hmarkup : IsMarkup markup) {rest rest' : List Node}
      (hrest : Expands rest rest') :
      Expands (.atom (.code (some recordingLanguage) remark value place) :: rest)
        (html markup :: rest')
  | text (value : List Char) {parts rest rest' : List Node} (hparts : ∀ part ∈ parts, IsPart part)
      (hrest : Expands rest rest') : Expands (.text value :: rest) (parts ++ rest')
  | branch (construct : Construct) {children children' rest rest' : List Node}
      (hchildren : Expands children children') (hrest : Expands rest rest') :
      Expands (.branch construct children :: rest) (.branch construct children' :: rest')
  | lift {children children' rest rest' : List Node} (hchildren : Expands children children')
      (hmarkers : ∀ node ∈ children', isMarker node = true ∨ isBlankNode node = true)
      (hrest : Expands rest rest') :
      Expands (.branch .paragraph children :: rest) (children'.filter isMarker ++ rest')

/-! ### Expansion does no more -/

mutual

theorem expands_expandBlocks (d : Diagnostics) {rest rest' : List Node}
    (hrest : Expands rest rest') :
    ∀ node : Node, Expands (node :: rest) ((expandBlocks d node).1 :: rest')
  | .atom value => by
    cases value with
    | code language remark value place =>
      rw [expandBlocks]
      split_ifs with hlanguage
      · obtain rfl : language = some recordingLanguage := by simpa using hlanguage
        simp only [replaceBlock]
        split_ifs
        · exact .block remark value place (.inl rfl) hrest
        · exact .block remark value place (.inr ⟨_, rfl⟩) hrest
        · exact .atom _ hrest
      · exact .atom _ hrest
    | _ => exact .atom _ hrest
  | .branch construct children => .branch construct (expands_expandAllBlocks d children) hrest

theorem expands_expandAllBlocks (d : Diagnostics) :
    ∀ nodes : List Node, Expands nodes (expandAllBlocks d nodes).1
  | [] => .nil
  | node :: rest => expands_expandBlocks d (expands_expandAllBlocks _ rest) node

end

theorem isPart_of_mem_gapNode {gap : List Char} : ∀ part ∈ gapNode gap, IsPart part := by
  intro part hmem
  unfold gapNode at hmem
  split_ifs at hmem
  · simp at hmem
  · exact .inl ⟨gap.reverse, by simpa using hmem⟩

theorem isPart_of_mem_splitFrom (keeps : Bool) (gap : List Char) (d : Diagnostics) (skip : Nat)
    (value : List Char) : ∀ part ∈ (splitFrom keeps gap d skip value).1, IsPart part := by
  induction value generalizing keeps gap d skip with
  | nil => simpa [splitFrom] using isPart_of_mem_gapNode
  | cons c rest ih =>
    cases skip with
    | succ skip => exact ih _ _ _ skip
    | zero =>
      rw [splitFrom]
      split
      · exact ih _ _ _ 0
      · dsimp only
        split_ifs
        · exact ih _ _ _ _
        · intro part hmem
          rw [List.mem_append, List.mem_cons] at hmem
          rcases hmem with hmem | rfl | hmem
          · exact isPart_of_mem_gapNode part hmem
          · exact .inr ⟨_, .inr ⟨_, rfl⟩, rfl⟩
          · exact ih _ _ _ _ part hmem
        · exact ih _ _ _ _

mutual

theorem expands_expandShortcodes (d : Diagnostics) {rest rest' : List Node}
    (hrest : Expands rest rest') :
    ∀ node : Node, Expands (node :: rest) ((expandShortcodes d node).1 ++ rest')
  | .atom value => by
    cases value with
    | text value =>
      rw [expandShortcodes]
      split_ifs
      · exact .text value (isPart_of_mem_splitFrom _ _ _ _ _) hrest
      · exact .atom _ hrest
    | _ => exact .atom _ hrest
  | .branch construct children => by
    have hchildren := expands_expandAllShortcodes d children
    rw [expandShortcodes]
    dsimp only
    unfold liftMarkers
    split_ifs with hlift
    · simp only [Bool.and_eq_true, List.all_eq_true, Bool.or_eq_true, beq_iff_eq] at hlift
      obtain ⟨⟨rfl, -⟩, hmarkers⟩ := hlift
      exact .lift hchildren hmarkers hrest
    · exact .branch construct hchildren hrest

theorem expands_expandAllShortcodes (d : Diagnostics) :
    ∀ nodes : List Node, Expands nodes (expandAllShortcodes d nodes).1
  | [] => .nil
  | node :: rest => expands_expandShortcodes d (expands_expandAllShortcodes _ rest) node

end

/-! ### What stays -/

/-- A reading of atoms gives nothing for what expansion may change. -/
structure Ignores {α : Type} (read : Atom → List α) : Prop where
  text : ∀ value, read (.text value) = []
  markup : ∀ markup, IsMarkup markup → read (.html markup) = []
  recording : ∀ remark value place, read (.code (some recordingLanguage) remark value place) = []

section

variable {α : Type} {read : Atom → List α} {nodes nodes' : List Node}

theorem IsPart.atom {node : Node} (h : IsPart node) : ∃ value, node = .atom value := by
  rcases h with ⟨value, rfl⟩ | ⟨markup, -, rfl⟩
  · exact ⟨_, rfl⟩
  · exact ⟨_, rfl⟩

theorem atom_of_isMarker {node : Node} (h : isMarker node = true) :
    ∃ value, node = .atom value := by
  cases node with
  | atom value => exact ⟨value, rfl⟩
  | branch construct children => simp [isMarker] at h

theorem Ignores.flatMap_shownAll_parts (h : Ignores read) (hparts : ∀ node ∈ nodes, IsPart node) :
    (shownAll nodes).flatMap read = [] := by
  induction nodes with
  | nil => rfl
  | cons node rest ih =>
    rw [shownAll, List.flatMap_append, ih fun other hother ↦ hparts other (by simp [hother])]
    rcases hparts node (by simp) with ⟨value, rfl⟩ | ⟨markup, hmarkup, rfl⟩
    · simp [Typeset.shown, h.text]
    · simp [Typeset.shown, h.markup markup hmarkup]

/-- Of markers and blank texts the blank texts may be left out. -/
theorem Ignores.flatMap_shownAll_filter (h : Ignores read)
    (hmarkers : ∀ node ∈ nodes, isMarker node = true ∨ isBlankNode node = true) :
    (shownAll (nodes.filter isMarker)).flatMap read = (shownAll nodes).flatMap read := by
  induction nodes with
  | nil => rfl
  | cons node rest ih =>
    have hrest := ih fun other hother ↦ hmarkers other (by simp [hother])
    cases hmarker : isMarker node with
    | true =>
      rw [List.filter_cons_of_pos hmarker, shownAll, shownAll, List.flatMap_append,
        List.flatMap_append, hrest]
    | false =>
      have hblank : isBlankNode node = true := by simpa [hmarker] using hmarkers node (by simp)
      obtain ⟨value, rfl⟩ : ∃ value, node = .text value := by
        unfold isBlankNode at hblank
        split at hblank
        · exact ⟨_, rfl⟩
        · simp at hblank
      rw [List.filter_cons_of_neg (by simp [hmarker]), shownAll, List.flatMap_append, hrest]
      simp [Typeset.shown, h.text]

/-- What nodes show, in a table, in a row and elsewhere, reads the same before and after they are
expanded. -/
theorem Expands.flatMap_shown (h : Ignores read) (hexpands : Expands nodes nodes') :
    (shownAll nodes').flatMap read = (shownAll nodes).flatMap read ∧
      (shownInTable nodes').flatMap read = (shownInTable nodes).flatMap read ∧
      (shownInRow nodes').flatMap read = (shownInRow nodes).flatMap read := by
  induction hexpands with
  | nil => exact ⟨rfl, rfl, rfl⟩
  | atom value hrest ih =>
    refine ⟨?_, ih.2.1, ih.2.2⟩
    simp [shownAll, Typeset.shown, ih.1]
  | block remark value place hmarkup hrest ih =>
    refine ⟨?_, ih.2.1, ih.2.2⟩
    simp [shownAll, Typeset.shown, ih.1, h.markup _ hmarkup, h.recording]
  | text value hparts hrest ih =>
    obtain ⟨htable, hrow⟩ :=
      shownInTable_append_of_atoms (fun part hpart ↦ (hparts part hpart).atom) _
    rw [htable, hrow]
    refine ⟨?_, ih.2.1, ih.2.2⟩
    simp [shownAll, Typeset.shown, ih.1, h.text, h.flatMap_shownAll_parts hparts]
  | branch construct hchildren hrest ihchildren ih =>
    -- Tables are read for their rows and rows for their cells, so each of the three parts for the
    -- children is needed.
    have hshown := ihchildren.1
    refine ⟨?_, ?_, ?_⟩
    · rw [shownAll, shownAll, List.flatMap_append, List.flatMap_append, ih.1]
      congr 1
      cases construct with
      | table alignments => exact ihchildren.2.1
      | row => rfl
      | cell => rfl
      | footnoteDefinition reference => rfl
      | _ => exact hshown
    · cases construct with
      | row =>
        rw [shownInTable, shownInTable, List.flatMap_append, List.flatMap_append, ih.2.1,
          ihchildren.2.2]
      | _ => exact ih.2.1
    · cases construct with
      | cell =>
        rw [shownInRow, shownInRow, List.flatMap_append, List.flatMap_append, ih.2.2, hshown]
      | _ => exact ih.2.2
  | lift hchildren hmarkers hrest ihchildren ih =>
    obtain ⟨htable, hrow⟩ := shownInTable_append_of_atoms
      (fun node hnode ↦ atom_of_isMarker (List.of_mem_filter hnode)) _
    rw [htable, hrow]
    refine ⟨?_, ih.2.1, ih.2.2⟩
    simp [shownAll, Typeset.shown, ih.1, h.flatMap_shownAll_filter hmarkers, ihchildren.1]

end

theorem atom_of_isBlankNode {node : Node} (h : isBlankNode node = true) :
    ∃ value, node = .atom value := by
  cases node with
  | atom value => exact ⟨value, rfl⟩
  | branch construct children => simp [isBlankNode] at h

theorem footnotes_append (nodes others : List Node) :
    (Definitions.ofNodes (nodes ++ others)).footnotes =
      (Definitions.ofNodes nodes).footnotes ++ (Definitions.ofNodes others).footnotes := by
  induction nodes with
  | nil => rfl
  | cons node rest ih => simp [Definitions.ofNodes, Definitions.append, ih]

theorem footnotes_of_atoms {nodes : List Node} (h : ∀ node ∈ nodes, ∃ value, node = .atom value) :
    (Definitions.ofNodes nodes).footnotes = [] := by
  induction nodes with
  | nil => rfl
  | cons node rest ih =>
    obtain ⟨value, rfl⟩ := h node (by simp)
    have hrest := ih fun other hother ↦ h other (by simp [hother])
    cases value <;> exact hrest

theorem footnotes_cons_atom (value : Atom) (rest : List Node) :
    (Definitions.ofNodes (.atom value :: rest)).footnotes =
      (Definitions.ofNodes rest).footnotes := by
  cases value <;> rfl

/-- The same footnotes are defined before and after nodes are expanded. -/
theorem Expands.footnotes_eq {nodes nodes' : List Node} (hexpands : Expands nodes nodes') :
    (Definitions.ofNodes nodes').footnotes.map Prod.fst =
      (Definitions.ofNodes nodes).footnotes.map Prod.fst := by
  induction hexpands with
  | nil => rfl
  | atom value hrest ih => rw [footnotes_cons_atom, footnotes_cons_atom, ih]
  | block remark value place hmarkup hrest ih => rw [footnotes_cons_atom, footnotes_cons_atom, ih]
  | text value hparts hrest ih =>
    rw [footnotes_append, footnotes_of_atoms fun part hpart ↦ (hparts part hpart).atom,
      List.nil_append, ih, footnotes_cons_atom]
  | branch construct hchildren hrest ihchildren ih =>
    cases construct <;>
      simp only [Definitions.ofNodes, Definitions.ofNode, Definitions.append, List.map_append,
        List.map_cons, List.map_nil, ihchildren, ih]
  | @lift children children' rest rest' hchildren hmarkers hrest ihchildren ih =>
    have hatoms : ∀ node ∈ children', ∃ value, node = .atom value := fun node hnode ↦
      (hmarkers node hnode).elim atom_of_isMarker atom_of_isBlankNode
    rw [footnotes_of_atoms hatoms] at ihchildren
    rw [footnotes_append,
      footnotes_of_atoms fun node hnode ↦ hatoms node (List.mem_of_mem_filter hnode)]
    simpa [Definitions.ofNodes, Definitions.ofNode, Definitions.append, ih] using ihchildren

end Galley.Embed
