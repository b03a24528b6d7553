import Galley.Proofs.Typeset.PageNotes

/-!
Footnotes of a page. Their numbers are sound: they come in the order of the first calls, there is
one note for each of them, set from the first definition, and every link leads to something on the
page (`IsNumbered`).
-/

set_option autoImplicit false
set_option relaxedAutoImplicit false

namespace Galley

open Html Markdown Typeset

/-! ### Numbers -/

/-- The draft of a page when its text is set and its notes are not. -/
def Typeset.bodyDraft (tree : Node) : Draft :=
  ((do
    let blocks ← setNodes (.ofNode tree) false (topNodes tree)
    onLines blocks : Setting (List NodeId)).run {}).2

theorem Typeset.calls_bodyDraft (tree : Node) :
    (bodyDraft tree).calls = .of (callsIn (.ofNode tree) (topNodes tree)) := by
  obtain ⟨ids, doc, hrun, -⟩ := (setNodes_makes (.ofNode tree) false (topNodes tree)).bind
    (f := linesMarkup) (fun _ _ ↦ Turns.onLines) {}
  rw [bodyDraft, hrun]
  exact calls_nodesMarkup (.ofNode tree) false (topNodes tree) []

/-- How the footnotes of a page are numbered: `order` are the footnotes, and `called` are those of
the calls, in the order in which their links are written. -/
structure IsNumbered (tree : Node) (order called : List (List Char)) : Prop where
  /-- The calls are those in the text, and then those in the notes, one note after the other. -/
  called_eq : called = pageCalls tree order
  nodup : order.Nodup
  mem_order : ∀ identifier, identifier ∈ order ↔ identifier ∈ called
  /-- A link has the number of its footnote as its label. -/
  labels : (page tree).noteLinks.map (page tree).textContent =
    called.map fun identifier ↦ decimal (order.idxOf identifier + 1)
  /-- A label is at most one more than the largest one before it. -/
  step : ∀ front identifier back, called = front ++ identifier :: back →
    order.idxOf identifier + 1 ≤ largest (front.map fun other ↦ order.idxOf other + 1) + 1
  length_notes : (page tree).notes.length =
    largest (called.map fun identifier ↦ order.idxOf identifier + 1)
  /-- Each note is set from what the first definition of its footnote holds. -/
  note : ∀ index identifier, order[index]? = some identifier → ∃ id content area,
    (page tree).notes[index]? = some id ∧ tree.definition? identifier = some content ∧
      (page tree).Spans [id] [noteMarkup identifier (index + 1) (nodesMarkup (.ofNode tree) false
        content (.of (pageCalls tree (order.take index)))).1] area
  /-- Every link within the page leads to a node of the page. -/
  closed : ∀ link ∈ (page tree).noteLinks ++ (page tree).backLinks, ∀ address,
    (page tree).attribute? link .href = some ('#' :: address) →
      ∃ target, (page tree).Reachable target ∧ (page tree).attribute? target .id = some address

namespace Typeset.IsOrder

variable {tree : Node} {order : List (List Char)}

theorem mem_order_iff (h : IsOrder tree order) {identifier : List Char} :
    identifier ∈ order ↔ identifier ∈ pageCalls tree order := by
  have hmem := @Calls.mem_order_of (pageCalls tree order) identifier
  rwa [h.order_eq] at hmem

/-- What is read of links is read of the footnotes that they are for. -/
theorem map_callLinks {α : Type} {onTree : Markup → α} {f : List Char → α}
    (hread : ∀ index identifier, (pageCalls tree order)[index]? = some identifier →
      onTree (callLink ((pageCalls tree order).take (index + 1)) identifier) = f identifier) :
    (callLinks [] (pageCalls tree order)).map onTree = (pageCalls tree order).map f := by
  refine List.ext_getElem? fun index ↦ ?_
  rw [List.getElem?_map, getElem?_callLinks, List.getElem?_map, List.nil_append]
  cases hcall : (pageCalls tree order)[index]? with
  | none => rfl
  | some identifier => exact congrArg some (hread index identifier hcall)

theorem labels (h : IsOrder tree order) : (page tree).noteLinks.map (page tree).textContent =
    (pageCalls tree order).map fun identifier ↦ decimal (order.idxOf identifier + 1) := by
  rw [h.map_noteLinks fun _ _ _ hspans hbelow ↦ hspans.textContent_eq hbelow]
  refine map_callLinks fun index identifier hcall ↦ ?_
  rw [← h.number_take hcall]
  simp [callLink, Markup.text, Markup.textAll]

/-- The addresses that the links to notes lead to. -/
theorem hrefs_noteLinks (h : IsOrder tree order) :
    (page tree).noteLinks.map ((page tree).attribute? · .href) = (pageCalls tree order).map
      fun identifier ↦ some ('#' :: noteId (anchorIn order identifier)) := by
  rw [h.map_noteLinks fun _ _ _ hspans _ ↦ hspans.attribute?_eq .href]
  refine map_callLinks fun index identifier hcall ↦ ?_
  rw [anchorIn, ← h.number_take hcall]
  rfl

/-- The addresses that the links back lead to. -/
theorem hrefs_backLinks (h : IsOrder tree order) :
    (page tree).backLinks.map ((page tree).attribute? · .href) = order.map
      fun identifier ↦ some ('#' :: callId (anchorIn order identifier)) := by
  rw [h.map_backLinks fun _ _ _ hspans _ ↦ hspans.attribute?_eq .href]
  refine List.ext_getElem? fun index ↦ ?_
  rw [backLinks, List.getElem?_map, List.getElem?_mapIdx, List.getElem?_map]
  cases hnote : order[index]? with
  | none => rfl
  | some identifier =>
    have hanchor : anchorIn order identifier = noteAnchor identifier (1 + index) := by
      rw [anchorIn, h.idxOf_eq hnote, add_comm]
    simp only [Option.map_some, hanchor]
    rfl

/-- There is a node with the address of each note, and with that of the first call of each. -/
theorem mem_identifiers (h : IsOrder tree order) {identifier : List Char}
    (hmem : identifier ∈ order) :
    noteId (anchorIn order identifier) ∈ (page tree).identifiers ∧
      callId (anchorIn order identifier) ∈ (page tree).identifiers := by
  rw [h.identifiers_perm.mem_iff, h.identifiers_perm.mem_iff, List.mem_append, List.mem_append]
  refine ⟨.inr (List.mem_map_of_mem hmem), .inl ?_⟩
  have hcalled := h.mem_order_iff.1 hmem
  refine List.mem_of_getElem? (i := (pageCalls tree order).idxOf identifier) ?_
  rw [getElem?_callIds order (List.getElem?_idxOf hcalled), countUpTo_idxOf hcalled, nthCallId,
    if_pos rfl]

/-- Each note is set from what the first definition of its footnote holds. -/
theorem spans_note (h : IsOrder tree order) {index : Nat} {identifier : List Char}
    (hnote : order[index]? = some identifier) : ∃ id content area,
      (page tree).notes[index]? = some id ∧ tree.definition? identifier = some content ∧
        (page tree).Spans [id] [noteMarkup identifier (index + 1) (nodesMarkup (.ofNode tree) false
          content (.of (pageCalls tree (order.take index)))).1] area := by
  obtain ⟨area, hnotes⟩ := h.spans_notes
  obtain ⟨content, hcontent⟩ := Option.isSome_iff_exists.1 <|
    allDefined_pageCalls tree order identifier (h.mem_order_iff.1 (List.mem_of_getElem? hnote))
  have htree := getElem?_notesOf (.ofNode tree) 1 (callsIn (.ofNode tree) (topNodes tree)) order
    index
  rw [hnote, Option.map_some, hcontent, Option.getD_some, add_comm 1] at htree
  obtain ⟨id, below, hid, hspans⟩ := hnotes.getElem? htree
  rw [Definitions.footnote?_ofNode] at hcontent
  exact ⟨id, content, below, hid, hcontent, hspans⟩

/-- The address that a link to a note leads to is that of a node. -/
theorem mem_identifiers_of_noteLink (h : IsOrder tree order) {link : NodeId}
    (hlink : link ∈ (page tree).noteLinks) {address : List Char}
    (hhref : (page tree).attribute? link .href = some ('#' :: address)) :
    address ∈ (page tree).identifiers := by
  have hmem := List.mem_map_of_mem (f := ((page tree).attribute? · .href)) hlink
  rw [h.hrefs_noteLinks, hhref] at hmem
  obtain ⟨identifier, hcall, heq⟩ := List.mem_map.1 hmem
  obtain rfl : noteId (anchorIn order identifier) = address := by simpa using heq
  exact (h.mem_identifiers (h.mem_order_iff.2 hcall)).1

/-- The address that a link back leads to is that of a node. -/
theorem mem_identifiers_of_backLink (h : IsOrder tree order) {link : NodeId}
    (hlink : link ∈ (page tree).backLinks) {address : List Char}
    (hhref : (page tree).attribute? link .href = some ('#' :: address)) :
    address ∈ (page tree).identifiers := by
  have hmem := List.mem_map_of_mem (f := ((page tree).attribute? · .href)) hlink
  rw [h.hrefs_backLinks, hhref] at hmem
  obtain ⟨identifier, hnote, heq⟩ := List.mem_map.1 hmem
  obtain rfl : callId (anchorIn order identifier) = address := by simpa using heq
  exact (h.mem_identifiers hnote).2

/-- The footnotes of a page are numbered in the order of their first calls. -/
theorem isNumbered (h : IsOrder tree order) : IsNumbered tree order (pageCalls tree order) := by
  have hnumber : (Calls.of (pageCalls tree order)).number =
      fun identifier ↦ order.idxOf identifier + 1 := funext h.number_eq
  refine ⟨rfl, h.nodup_order, fun _ ↦ h.mem_order_iff, h.labels,
    fun front identifier back hcalls ↦ ?_, ?_, fun _ _ ↦ h.spans_note,
    fun link hlink address hhref ↦ ?_⟩
  · have hstep := Calls.number_le_largest_add_one front identifier back
    rw [← hcalls] at hstep
    simpa only [hnumber] using hstep
  · obtain ⟨area, hnotes⟩ := h.spans_notes
    rw [← hnumber, Calls.largest_numbers, h.order_eq, hnotes.length_eq, length_notesOf]
  · obtain ⟨area, hspans, hnodup⟩ := page_spans tree
    have haddress : address ∈ (page tree).identifiers := by
      rcases List.mem_append.1 hlink with hlink | hlink
      · exact h.mem_identifiers_of_noteLink hlink hhref
      · exact h.mem_identifiers_of_backLink hlink hhref
    obtain ⟨target, htarget, hid⟩ := List.mem_filterMap.1 haddress
    exact ⟨target, (hspans.mem_nodes_iff hnodup).1 htarget, hid⟩

end Typeset.IsOrder

/-- The loop that sets the notes of a page comes to its end, and the footnotes are numbered soundly:
one after the other in the order of the first calls, with one note for each, and with links that
lead somewhere. -/
theorem footnotes_are_numbered (tree : Node) :
    (let ds := Definitions.ofNode tree
      let (ids, final) := (setNotes ds ds.footnotes.length 0).run (bodyDraft tree)
      SetsNotes ds 0 (bodyDraft tree) ids final) ∧
      ∃ order called, IsNumbered tree order called := by
  obtain ⟨order, h⟩ := exists_isOrder tree
  exact ⟨setNotes_sets _ 0 _ (calls_bodyDraft tree) (allDefined_callsIn _ _) (Nat.zero_add _).ge,
    order, pageCalls tree order, h.isNumbered⟩

end Galley
