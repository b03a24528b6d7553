import Galley.Proofs.Html.TreeShape
import Galley.Proofs.Typeset.Draft

/-!
The document of a page stands for the trees of the page. Every step of `setPage` makes what its
counterpart of `pageMarkup` says (`setNode_makes`, `setNotes_makes`, `setSection_makes`), so the
root of `page tree` stands for `pageMarkup tree` and no node is taken up twice (`page_spans`).
-/

set_option autoImplicit false
set_option relaxedAutoImplicit false

namespace Galley.Typeset

open Html Markdown

/-! ### Nodes without children -/

theorem setValue_turns (value : List Char) : Turns (setValue value) [] (valueMarkup value) := by
  unfold setValue valueMarkup
  split
  · exact .nil
  · exact .newText fun _ ↦ .pure

theorem setCodeBlock_turns (attrs : Attributes) (value : List Char) :
    Turns (setCodeBlock attrs value) []
      [plain "pre" [.element "code".toList attrs (valueMarkup value)]] :=
  .bind_none (setValue_turns value) fun _ ↦ .newElement fun _ ↦ .newPlain fun _ ↦ .pure

theorem setCall_makes (identifier : List Char) :
    Makes (setCall identifier) fun calls =>
      let calls := calls.add identifier
      ([callMarkup calls identifier], calls) := by
  intro draft
  have hturns (calls : Calls) : Turns (do
      let label ← newText (decimal (calls.number identifier))
      let link ← newElement "a".toList (callAttributes calls identifier) [label]
      return [← newPlain "sup" [link]]) [] [callMarkup calls identifier] :=
    .newText fun _ ↦ .newElement fun _ ↦ .newPlain fun _ ↦ .pure
  obtain ⟨ids, doc, new, hrun, hspans, hchange⟩ := hturns (draft.calls.add identifier)
    { draft with calls := draft.calls.add identifier } 0 .nil Multiset.nodup_zero
  exact ⟨ids, doc, hrun, new, hspans, hchange⟩

theorem setAtom_makes (ds : Definitions) (atom : Atom) :
    Makes (setAtom ds atom) (calledMarkup ds atom) := by
  cases atom with
  | text value => exact .of_turns (.newText fun _ ↦ .pure)
  | html value => exact .of_turns (.newNode fun _ ↦ .pure)
  | code language remark value place => exact .of_turns (setCodeBlock_turns _ _)
  | math remark value =>
    exact .of_turns (.newText fun _ ↦ .newElement fun _ ↦ .newPlain fun _ ↦ .pure)
  | inlineCode value => exact .of_turns (.newText fun _ ↦ .newPlain fun _ ↦ .pure)
  | inlineMath value => exact .of_turns (.newText fun _ ↦ .newElement fun _ ↦ .pure)
  | hardBreak =>
    exact .of_turns (.empty (.newPlain fun _ ↦ .newLine fun _ ↦ .swap (.join .pure)))
  | thematicBreak => exact .of_turns (.empty (.newPlain fun _ ↦ .pure))
  | image url title alt => exact .of_turns (.empty (.newElement fun _ ↦ .pure))
  | imageReference style reference alt =>
    have hturns : Turns (setAtom ds (.imageReference style reference alt)) []
        (atomMarkup ds (.imageReference style reference alt)) := by
      cases hlink : ds.link? reference.identifier with
      | none =>
        simp only [setAtom, atomMarkup, hlink]
        exact .newText fun _ ↦ .pure
      | some target =>
        simp only [setAtom, atomMarkup, hlink]
        exact .empty (.newElement fun _ ↦ .pure)
    exact .of_turns hturns
  | footnoteReference reference =>
    show Makes _ fun calls ↦ calledMarkup ds (.footnoteReference reference) calls
    cases hnote : ds.footnote? reference.identifier with
    | none =>
      simp only [setAtom, calledMarkup, hnote]
      exact .of_turns (.newText fun _ ↦ .pure)
    | some children =>
      simp only [setAtom, calledMarkup, hnote]
      exact setCall_makes reference.identifier
  | yaml value => exact .of_turns .nil
  | toml value => exact .of_turns .nil
  | expression inText value => exact .of_turns .nil
  | modules value => exact .of_turns .nil
  | definition reference url title => exact .of_turns .nil

/-! ### Nodes with children -/

/-- The nodes that a node with children is set as, from what its children make. -/
theorem setNode_branch_makes {ds : Definitions} {isTight : Bool} {children : List Node}
    (hnodes : ∀ isTight, Makes (setNodes ds isTight children) (nodesMarkup ds isTight children))
    (htable : ∀ alignments, Makes (setTable ds isTight alignments children)
      (tableMarkup ds isTight alignments children)) (construct : Construct) :
    Makes (setNode ds isTight (.branch construct children))
      (nodeMarkup ds isTight (.branch construct children)) := by
  cases construct with
  | root => exact hnodes isTight
  | component inText name attributes => exact hnodes isTight
  | paragraph =>
    exact .bind (f := fun inner ↦ [plain "p" inner]) (hnodes isTight)
      fun _ _ ↦ .newPlain fun _ ↦ .pure
  | heading level =>
    exact .bind (f := fun inner ↦ [.element (headingTag level) .empty inner]) (hnodes isTight)
      fun _ _ ↦ .newElement fun _ ↦ .pure
  | emphasis =>
    exact .bind (f := fun inner ↦ [plain "em" inner]) (hnodes isTight)
      fun _ _ ↦ .newPlain fun _ ↦ .pure
  | strong =>
    exact .bind (f := fun inner ↦ [plain "strong" inner]) (hnodes isTight)
      fun _ _ ↦ .newPlain fun _ ↦ .pure
  | deletion =>
    exact .bind (f := fun inner ↦ [plain "del" inner]) (hnodes isTight)
      fun _ _ ↦ .newPlain fun _ ↦ .pure
  | blockquote =>
    exact .bind (f := fun inner ↦ [plain "blockquote" (enclosedMarkup inner)]) (hnodes isTight)
      fun _ _ ↦ .bind_one .enclose fun _ ↦ .newPlain fun _ ↦ .pure
  | link url title =>
    exact .bind (f := fun inner ↦ [.element "a".toList (linkAttributes url title) inner])
      (hnodes isTight) fun _ _ ↦ .newElement fun _ ↦ .pure
  | linkReference style reference =>
    refine .bind (f := constructMarkup ds isTight (.linkReference style reference) children)
      (hnodes isTight) fun ids trees ↦ ?_
    cases hlink : ds.link? reference.identifier with
    | none =>
      simp only [constructMarkup, hlink]
      exact .newText fun _ ↦ .join (.newText fun _ ↦ .swap (.join .pure))
    | some target =>
      simp only [constructMarkup, hlink]
      exact .newElement fun _ ↦ .pure
  | list isOrdered start spread =>
    exact .bind (f := constructMarkup ds isTight (.list isOrdered start spread) children)
      (hnodes (isTightBelow isTight (.list isOrdered start spread) children))
      fun _ _ ↦ .bind_one .enclose fun _ ↦ .newElement fun _ ↦ .pure
  | item checked spread =>
    exact .bind (f := constructMarkup ds isTight (.item checked spread) children) (hnodes isTight)
      fun _ _ ↦ .bind_none .newBox fun _ ↦ .bind_two .placeBlocks fun _ ↦
        .newElement fun _ ↦ .pure
  | table alignments =>
    exact .bind (f := fun inner ↦ [plain "table" (enclosedMarkup inner)]) (htable alignments)
      fun _ _ ↦ .bind_one .enclose fun _ ↦ .newPlain fun _ ↦ .pure
  | row => exact .of_turns .nil
  | cell => exact .of_turns .nil
  | footnoteDefinition reference => exact .of_turns .nil

theorem setCell_turns {tag : List Char} {alignment : Option Markdown.Alignment} {ids : List NodeId}
    {trees : List Markup} : Turns (setCell tag alignment ids) [(ids, trees)]
      [.element tag (cellAttributes alignment) trees] :=
  .newElement fun _ ↦ .pure

theorem setRow_turns {ids : List NodeId} {trees : List Markup} :
    Turns (setRow ids) [(ids, trees)] [plain "tr" (enclosedMarkup trees)] :=
  .bind_one .enclose fun _ ↦ .newPlain fun _ ↦ .pure

theorem setHead_turns {ids : List NodeId} {trees : List Markup} :
    Turns (setHead ids) [(ids, trees)] [headMarkup trees] :=
  .bind_one setRow_turns fun _ ↦ .bind_one .enclose fun _ ↦ .newPlain fun _ ↦ .pure

theorem setSections_turns {ids ids' : List NodeId} {head rows : List Markup} :
    Turns (setSections ids ids') [(ids, head), (ids', rows)] (sectionsMarkup head rows) := by
  refine .swap (.of_length fun hlength ↦ ?_)
  have hempty : rows.isEmpty = ids'.isEmpty := by
    rw [Bool.eq_iff_iff, List.isEmpty_iff_length_eq_zero, List.isEmpty_iff_length_eq_zero, hlength]
  unfold setSections sectionsMarkup
  rw [hempty]
  split
  case isTrue hnone =>
    obtain rfl : ids' = [] := List.isEmpty_iff.1 hnone
    exact .of_nil fun _ ↦ .pure
  case isFalse =>
    exact .bind_one .enclose fun _ ↦ .newPlain fun _ ↦ .swap (.join .pure)

mutual

theorem setNode_makes (ds : Definitions) (isTight : Bool) :
    ∀ node, Makes (setNode ds isTight node) (nodeMarkup ds isTight node)
  | .atom atom => setAtom_makes ds atom
  | .branch construct children =>
    setNode_branch_makes (fun isTight ↦ setNodes_makes ds isTight children)
      (fun alignments ↦ setTable_makes ds isTight alignments children) construct

theorem setNodes_makes (ds : Definitions) (isTight : Bool) :
    ∀ nodes, Makes (setNodes ds isTight nodes) (nodesMarkup ds isTight nodes)
  | [] => .of_turns .nil
  | node :: rest => .append (setNode_makes ds isTight node) (setNodes_makes ds isTight rest)

theorem setTable_makes (ds : Definitions) (isTight : Bool)
    (alignments : List (Option Markdown.Alignment)) : ∀ nodes,
      Makes (setTable ds isTight alignments nodes) (tableMarkup ds isTight alignments nodes)
  | [] => .of_turns .nil
  | .atom _ :: rest => setTable_makes ds isTight alignments rest
  | .branch construct children :: rest => by
    have hrest := setTable_makes ds isTight alignments rest
    cases construct with
    | row =>
      have hcells := setCells_makes ds isTight "th".toList alignments children
      have hrows := setRows_makes ds isTight alignments rest
      have hhead := hcells.bind (f := fun cells ↦ [headMarkup cells]) fun _ _ ↦ setHead_turns
      have hsections := hhead.bind_two (f := sectionsMarkup) hrows fun _ _ _ _ ↦ setSections_turns
      simp only [setTable, tableMarkup]
      exact hsections
    | _ => exact hrest

theorem setRows_makes (ds : Definitions) (isTight : Bool)
    (alignments : List (Option Markdown.Alignment)) : ∀ nodes,
      Makes (setRows ds isTight alignments nodes) (rowsMarkup ds isTight alignments nodes)
  | [] => .of_turns .nil
  | .atom _ :: rest => setRows_makes ds isTight alignments rest
  | .branch construct children :: rest => by
    have hrest := setRows_makes ds isTight alignments rest
    cases construct with
    | row =>
      have hcells := setCells_makes ds isTight "td".toList alignments children
      exact .append (.bind hcells fun _ _ ↦ setRow_turns) hrest
    | _ => exact hrest

theorem setCells_makes (ds : Definitions) (isTight : Bool) (tag : List Char) :
    ∀ (alignments : List (Option Markdown.Alignment)) (nodes : List Node),
      Makes (setCells ds isTight tag alignments nodes) (cellsMarkup ds isTight tag alignments nodes)
  | _, [] => .of_turns .nil
  | alignments, .atom _ :: rest => setCells_makes ds isTight tag alignments.tail rest
  | alignments, .branch construct children :: rest => by
    have hrest := setCells_makes ds isTight tag alignments.tail rest
    cases construct with
    | cell =>
      have hinner := setNodes_makes ds isTight children
      exact .append (.bind hinner fun _ _ ↦ setCell_turns) hrest
    | _ => exact hrest

end

/-! ### Notes and pages -/

theorem setNote_turns {identifier : List Char} {number : Nat} {ids : List NodeId}
    {trees : List Markup} :
    Turns (setNote identifier number ids) [(ids, trees)] [noteMarkup identifier number trees] := by
  refine .empty (.newElement fun link ↦ .newText fun arrow ↦ .swap ?_)
  refine .changeChildren (g := fun inner ↦ inner ++ [.leaf ['↩']]) ?_ ?_
  · intro doc children below rest hbelow hrest
    exact hbelow.append hrest
  · exact .bind_two .placeBackLink fun _ ↦ .bind_one .enclose fun _ ↦ .newElement fun _ ↦ .pure

theorem setNotes_makes (ds : Definitions) :
    ∀ fuel index, Makes (setNotes ds fuel index) (notesMarkup ds fuel index)
  | 0, _ => .of_turns .nil
  | fuel + 1, index => by
    have hrest := setNotes_makes ds fuel (index + 1)
    refine .of_run fun draft ↦ ?_
    cases hcall : draft.calls.order[index]? with
    | none =>
      refine ⟨pure [], fun calls => ([], calls), ?_, ?_, .of_turns .nil⟩
      · simp [setNotes, hcall]
      · simp [notesMarkup, hcall]
    | some identifier =>
      cases hnote : ds.footnote? identifier with
      | none =>
        refine ⟨_, _, ?_, ?_, hrest⟩
        · simp [setNotes, hcall, hnote]
        · simp [notesMarkup, hcall, hnote]
      | some children =>
        have hblocks := setNodes_makes ds false children
        have hnote' := hblocks.bind (f := fun blocks ↦ [noteMarkup identifier (index + 1) blocks])
          fun _ _ ↦ setNote_turns
        refine ⟨_, _, ?_, ?_, hnote'.append hrest⟩
        · simp [setNotes, hcall, hnote]
        · simp [notesMarkup, hcall, hnote]

theorem setSection_makes (ds : Definitions) : Makes (setSection ds) (sectionMarkup ds) := by
  refine .of_run fun draft ↦ ?_
  by_cases hnone : draft.calls.order = []
  · refine ⟨pure [], fun calls => ([], calls), ?_, ?_, .of_turns .nil⟩
    · simp [setSection, hnone]
    · simp [sectionMarkup, hnone]
  · have hnotes := setNotes_makes ds ds.footnotes.length 0
    have hsection := hnotes.bind (f := fun notes ↦ [lineMarkup, .element "section".toList
        sectionAttributes (enclosedMarkup [plain "ol" (enclosedMarkup notes)])])
      fun _ _ ↦ .bind_one .enclose fun _ ↦ .newPlain fun _ ↦ .bind_one .enclose fun _ ↦
        .newElement fun _ ↦ .newLine fun _ ↦ .join .pure
    refine ⟨_, _, ?_, ?_, hsection⟩
    · simp [setSection, hnone]
    · simp [sectionMarkup, hnone]

/-- What a page has below its root is added to the document with a root only. -/
theorem page_adds (tree : Node) : ∃ ids doc, Document.empty.Adds doc ids (pageMarkup tree) ∧
    page tree = doc.modifyChildren Document.root fun _ => ids := by
  have hblocks := (setNodes_makes (.ofNode tree) false (topNodes tree)).bind (f := linesMarkup)
    fun _ _ ↦ Turns.onLines
  obtain ⟨ids, doc, hrun, hadds⟩ := hblocks.append (setSection_makes (.ofNode tree)) {}
  refine ⟨ids, doc, hadds, ?_⟩
  have hpage : page tree = (((do
      let ids ← (do
        let ids ← (do
          let blocks ← setNodes (.ofNode tree) false (topNodes tree)
          onLines blocks)
        return ids ++ (← setSection (.ofNode tree)))
      changeChildren Document.root fun _ => ids) : Setting Unit).run {}).2.doc := rfl
  rw [hpage, StateT.run_bind, hrun]
  rfl

/-- The root of a page stands for the trees of the page, and no node is taken up twice. -/
theorem page_spans (tree : Node) : ∃ area,
    (page tree).Spans [Document.root] [.node .root (pageMarkup tree)] area ∧ area.Nodup := by
  obtain ⟨ids, doc, ⟨area, hspans, hchange⟩, hpage⟩ := page_adds tree
  have hfresh : Document.root ∉ area := by
    intro hmem
    have hadded := Multiset.mem_of_le hchange.new_le hmem
    simp [Document.empty, Document.size, Document.root] at hadded
  have hroot : doc.get? Document.root = some ⟨.root, []⟩ := by
    rw [hchange.kept Document.root (by simp [Document.empty, Document.size, Document.root])
      (Multiset.notMem_zero _)]
    rfl
  refine ⟨{Document.root} + area, ?_, ?_⟩
  · rw [hpage]
    exact .singleton (Document.get?_modifyChildren_self hroot _) (hspans.modifyChildren hfresh _)
  · rw [Multiset.singleton_add, Multiset.nodup_cons]
    exact ⟨hfresh, Document.Adds.nodup hchange⟩

end Galley.Typeset
