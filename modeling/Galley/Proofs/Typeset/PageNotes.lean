import Galley.Proofs.Typeset.Notes

/-!
Links and notes looked up in the document of a page: the links to notes and those back from them, in
the order in which they are written, the notes in the section at the end, and all identifiers.
-/

set_option autoImplicit false
set_option relaxedAutoImplicit false

namespace Galley

open Html Markdown

namespace Html

/-- Whether a node is an element with a tag. -/
def Kind.hasTag (tag : List Char) : Kind → Bool
  | .element other _ => other == tag
  | _ => false

/-- Whether a node is the section of notes. -/
def Kind.isNoteSection : Kind → Bool
  | .element _ attrs => (attrs.get? (.data .footnotes)).isSome
  | _ => false

namespace Document

/-- The links to notes, in the order in which they are written. -/
def noteLinks (doc : Document) : List NodeId := doc.withAttribute (.data .footnoteRef)

/-- The links back from notes. -/
def backLinks (doc : Document) : List NodeId := doc.withAttribute (.data .footnoteBackref)

/-- The notes: the items of the list in the section of notes. -/
def notes (doc : Document) : List NodeId :=
  doc.select (Kind.hasTag "li".toList) <| doc.select (Kind.hasTag "ol".toList) <|
    doc.select Kind.isNoteSection [root]

/-- The identifiers of nodes, in the order in which they are written. -/
def identifiers (doc : Document) : List (List Char) := doc.nodes.filterMap (doc.attribute? · .id)

end Document

end Html

namespace Typeset

/-- What the addresses of a footnote end in, given the order of the footnotes. -/
def anchorIn (order : List (List Char)) (identifier : List Char) : List Char :=
  noteAnchor identifier (order.idxOf identifier + 1)

/-- The addresses of the calls, in order. -/
def callIds (order called : List (List Char)) : List (List Char) :=
  called.mapIdx fun index identifier =>
    nthCallId (anchorIn order identifier) (countUpTo called index identifier)

theorem getElem?_callIds (order : List (List Char)) {called : List (List Char)} {index : Nat}
    {identifier : List Char} (hcall : called[index]? = some identifier) :
    (callIds order called)[index]? =
      some (nthCallId (anchorIn order identifier) (countUpTo called index identifier)) := by
  rw [callIds, List.getElem?_mapIdx, hcall]
  rfl

theorem readsNotes_attribute? {key : AttributeKey} (hkey : key ∈ noteKeys) :
    ReadsNotes (·.attribute? key) := fun _ hnone ↦ hnone key hkey

theorem readsNotes_readWith {α : Type} {key : AttributeKey} (hkey : key ∈ noteKeys)
    (read : Markup → α) : ReadsNotes (Markup.readWith key read) := fun tree hnone ↦ by
  simp [Markup.readWith, hnone key hkey]

namespace IsOrder

variable {tree : Node} {order : List (List Char)}

theorem number_eq (h : IsOrder tree order) (identifier : List Char) :
    (Calls.of (pageCalls tree order)).number identifier = order.idxOf identifier + 1 := by
  rw [Calls.number, h.order_eq]

/-- A call that is not the last one has the number that it has in the end. -/
theorem number_take (h : IsOrder tree order) {index : Nat} {identifier : List Char}
    (hcall : (pageCalls tree order)[index]? = some identifier) :
    (Calls.of ((pageCalls tree order).take (index + 1))).number identifier =
      order.idxOf identifier + 1 := by
  have hmem : identifier ∈ (pageCalls tree order).take (index + 1) :=
    List.mem_of_getElem? (i := index) (by rw [List.getElem?_take_of_lt (by omega), hcall])
  rw [← h.number_eq, ← Calls.number_of_append hmem ((pageCalls tree order).drop (index + 1)),
    List.take_append_drop]

theorem nodup_order (h : IsOrder tree order) : order.Nodup :=
  h.order_eq ▸ Calls.nodup_order_of (pageCalls tree order)

theorem idxOf_eq (h : IsOrder tree order) {index : Nat} {identifier : List Char}
    (hnote : order[index]? = some identifier) : order.idxOf identifier = index := by
  obtain ⟨hlt, rfl⟩ := List.getElem?_eq_some_iff.1 hnote
  exact h.nodup_order.idxOf_getElem index hlt

theorem filterMap_readWith {α : Type} {key : AttributeKey} {trees : List Markup}
    (h : ∀ tree ∈ trees, (tree.attribute? key).isSome = true) (read : Markup → α) :
    trees.filterMap (Markup.readWith key read) = trees.map read :=
  List.filterMap_eq_map_iff_forall_eq_some.2 fun tree hmem ↦ if_pos (h tree hmem)

/-- What is read of the links to notes is read of them in the order of the calls. -/
theorem map_noteLinks {α : Type} (h : IsOrder tree order) {read : NodeId → α} {onTree : Markup → α}
    (hread : ∀ id tree' below, (page tree).Spans [id] [tree'] below → below.Nodup →
      read id = onTree tree') :
    (page tree).noteLinks.map read = (callLinks [] (pageCalls tree order)).map onTree := by
  obtain ⟨area, hspans, hnodup⟩ := page_spans tree
  have hkey : .data .footnoteRef ∈ noteKeys := by decide
  have hlinks : ∀ mark ∈ callLinks [] (pageCalls tree order),
      (mark.attribute? (.data .footnoteRef)).isSome = true := by
    intro mark hmark
    obtain ⟨called, identifier, rfl⟩ := exists_of_mem_callLinks hmark
    rfl
  rw [Document.noteLinks, hspans.map_withAttribute hnodup hread,
    Markup.gather_singleton_of_none rfl,
    (readsNotes_readWith hkey onTree).gather_pageMarkup (fun _ ↦ rfl) h, marks,
    List.filterMap_append, filterMap_noteMarks_of_links (fun _ _ _ ↦ rfl) (fun _ _ ↦ rfl),
    ← filterMap_readWith hlinks, pageCalls, callLinks_append, List.nil_append,
    List.filterMap_append]

/-- What is read of the links back is read of them in the order of the notes. -/
theorem map_backLinks {α : Type} (h : IsOrder tree order) {read : NodeId → α} {onTree : Markup → α}
    (hread : ∀ id tree' below, (page tree).Spans [id] [tree'] below → below.Nodup →
      read id = onTree tree') :
    (page tree).backLinks.map read = (backLinks 1 order).map onTree := by
  obtain ⟨area, hspans, hnodup⟩ := page_spans tree
  have hkey : .data .footnoteBackref ∈ noteKeys := by decide
  have hlinks : ∀ mark ∈ backLinks 1 order,
      (mark.attribute? (.data .footnoteBackref)).isSome = true := by
    intro mark hmark
    obtain ⟨number, identifier, rfl⟩ := exists_of_mem_backLinks hmark
    rfl
  have hbody : (callLinks [] (callsIn (.ofNode tree) (topNodes tree))).filterMap
      (Markup.readWith (.data .footnoteBackref) onTree) = [] := by
    refine List.filterMap_eq_nil_iff.2 fun mark hmark ↦ ?_
    obtain ⟨called, identifier, rfl⟩ := exists_of_mem_callLinks hmark
    rfl
  rw [Document.backLinks, hspans.map_withAttribute hnodup hread,
    Markup.gather_singleton_of_none rfl,
    (readsNotes_readWith hkey onTree).gather_pageMarkup (fun _ ↦ rfl) h, marks,
    List.filterMap_append, filterMap_noteMarks_of_backLinks (fun _ _ _ ↦ rfl) (fun _ _ ↦ rfl),
    hbody, List.nil_append, filterMap_readWith hlinks]

theorem filter_enclosedMarkup {tag : List Char} {trees : List Markup}
    (h : ∀ tree ∈ trees, tree.kind.hasTag tag = true) :
    (enclosedMarkup trees).filter (·.kind.hasTag tag) = trees := by
  have hfollowing (trees : List Markup) (h : ∀ tree ∈ trees, tree.kind.hasTag tag = true) :
      (followingMarkup trees).filter (·.kind.hasTag tag) = trees := by
    induction trees with
    | nil => rfl
    | cons tree rest ih =>
      have hrest := ih fun other hother ↦ h other (by simp [hother])
      have hline : lineMarkup.kind.hasTag tag = false := rfl
      simp only [followingMarkup, List.filter_cons, hline, h tree (by simp), hrest,
        Bool.false_eq_true, ↓reduceIte]
  cases trees with
  | nil => rfl
  | cons tree rest =>
    have hlines := hfollowing (tree :: rest) h
    rw [followingMarkup] at hlines
    rw [enclosedMarkup, List.filter_append, hlines]
    simp [Markup.kind, Kind.hasTag]

/-- The notes of the section are the items of its list. -/
theorem select_sectionOf {notes : List Markup}
    (h : ∀ note ∈ notes, note.kind.hasTag "li".toList = true) :
    Markup.select (Kind.hasTag "li".toList) (Markup.select (Kind.hasTag "ol".toList)
      ((sectionOf notes).filter (·.kind.isNoteSection))) = notes := by
  cases notes with
  | nil => rfl
  | cons note rest =>
    have hlist : (enclosedMarkup [plain "ol" (enclosedMarkup (note :: rest))]).filter
        (·.kind.hasTag "ol".toList) = [plain "ol" (enclosedMarkup (note :: rest))] :=
      filter_enclosedMarkup fun tree hmem ↦ by
        obtain rfl := List.mem_singleton.1 hmem
        rfl
    have hitems := filter_enclosedMarkup h
    have hsection (inner : List Markup) : [lineMarkup, .element "section".toList sectionAttributes
        inner].filter (·.kind.isNoteSection) =
          [.element "section".toList sectionAttributes inner] := rfl
    rw [sectionOf, if_neg (by simp), hsection]
    simp only [Markup.select, List.flatMap_singleton, Markup.children, hlist, hitems]

/-- The notes in the document are those for the footnotes in order. -/
theorem spans_notes (h : IsOrder tree order) : ∃ area,
    let ds := Definitions.ofNode tree
    (page tree).Spans (page tree).notes (notesOf ds 1 (callsIn ds (topNodes tree)) order) area := by
  obtain ⟨area, hspans, -⟩ := page_spans tree
  obtain ⟨area₁, hsection⟩ := hspans.select Kind.isNoteSection
  obtain ⟨area₂, hlist⟩ := hsection.select (Kind.hasTag "ol".toList)
  obtain ⟨area₃, hnotes⟩ := hlist.select (Kind.hasTag "li".toList)
  refine ⟨area₃, ?_⟩
  have hkey : .data .footnotes ∈ noteKeys := by decide
  have hbody : (linesMarkup (nodesMarkup (.ofNode tree) false (topNodes tree) {}).1).filter
      (·.kind.isNoteSection) = [] := by
    have hread := readsNotes_attribute? hkey
    have hnone : Markup.gather (·.attribute? (.data .footnotes))
        (linesMarkup (nodesMarkup (.ofNode tree) false (topNodes tree) {}).1) = [] := by
      rw [hread.isContent.gather_linesMarkup, ← Calls.of_nil, hread.gather_nodesMarkup]
      refine List.filterMap_eq_nil_iff.2 fun mark hmark ↦ ?_
      obtain ⟨called, identifier, rfl⟩ := exists_of_mem_callLinks hmark
      rfl
    refine List.filter_eq_nil_iff.2 fun top htop ↦ ?_
    have htree := Markup.gather_eq_nil_iff.1 hnone top (Markup.mem_subtreesAll_of_mem htop)
    obtain ⟨kind, inner⟩ := top
    cases kind <;> simp_all [Markup.kind, Kind.isNoteSection, Markup.attribute?]
  have hitems : ∀ note ∈ notesOf (.ofNode tree) 1 (callsIn (.ofNode tree) (topNodes tree)) order,
      note.kind.hasTag "li".toList = true := by
    intro note hmem
    obtain ⟨number, identifier, blocks, rfl⟩ := exists_of_mem_notesOf hmem
    rfl
  have hselect : Markup.select Kind.isNoteSection [.node .root (pageMarkup tree)] =
      (pageMarkup tree).filter (·.kind.isNoteSection) := by
    simp [Markup.select, Markup.children]
  rw [hselect, h.page_eq, List.filter_append, hbody, List.nil_append, select_sectionOf hitems]
    at hnotes
  exact hnotes

/-- The links to notes have the addresses of the calls. -/
theorem map_id_callLinks (h : IsOrder tree order) :
    (callLinks [] (pageCalls tree order)).map (·.attribute? .id) =
      (callIds order (pageCalls tree order)).map some := by
  refine List.ext_getElem? fun index ↦ ?_
  rw [List.getElem?_map, getElem?_callLinks, List.getElem?_map, List.nil_append]
  cases hcall : (pageCalls tree order)[index]? with
  | none => simp [callIds, hcall]
  | some identifier =>
    have hcount : (Calls.of ((pageCalls tree order).take (index + 1))).count identifier =
        countUpTo (pageCalls tree order) index identifier := by
      rw [Calls.count, Calls.all_of, countUpTo]
    rw [getElem?_callIds order hcall, anchorIn, ← h.number_take hcall, ← hcount]
    rfl

/-- The notes have the addresses of the footnotes. -/
theorem map_id_notesOf (h : IsOrder tree order) (ds : Definitions) (called : List (List Char)) :
    (notesOf ds 1 called order).map (·.attribute? .id) =
      (order.map fun identifier ↦ noteId (anchorIn order identifier)).map some := by
  refine List.ext_getElem? fun index ↦ ?_
  rw [List.getElem?_map, getElem?_notesOf, List.getElem?_map, List.getElem?_map]
  cases hnote : order[index]? with
  | none => rfl
  | some identifier =>
    have hanchor : anchorIn order identifier = noteAnchor identifier (1 + index) := by
      rw [anchorIn, h.idxOf_eq hnote, add_comm]
    simp only [Option.map_some, hanchor]
    rfl

/-- The identifiers in the document are the addresses of the calls and of the notes. -/
theorem identifiers_perm (h : IsOrder tree order) :
    (page tree).identifiers.Perm (callIds order (pageCalls tree order) ++
      order.map fun identifier ↦ noteId (anchorIn order identifier)) := by
  obtain ⟨area, hspans, hnodup⟩ := page_spans tree
  have hkey : .id ∈ noteKeys := by decide
  have hread {marks : List Markup} {ids : List (List Char)}
      (hmap : marks.map (·.attribute? .id) = ids.map some) :
      marks.filterMap (·.attribute? .id) = ids := by
    have hids := congrArg (List.filterMap id) hmap
    simpa [List.filterMap_map, Function.comp_def] using hids
  have hback : (backLinks 1 order).filterMap (·.attribute? .id) = [] := by
    refine List.filterMap_eq_nil_iff.2 fun mark hmark ↦ ?_
    obtain ⟨number, identifier, rfl⟩ := exists_of_mem_backLinks hmark
    rfl
  have hmarks : (marks tree order).Perm (callLinks [] (pageCalls tree order) ++
      (notesOf (.ofNode tree) 1 (callsIn (.ofNode tree) (topNodes tree)) order ++
        backLinks 1 order)) := by
    rw [marks, pageCalls, callLinks_append, List.nil_append, List.append_assoc]
    exact (noteMarks_perm ..).append_left _
  have hids := hmarks.filterMap (·.attribute? .id)
  rw [List.filterMap_append, List.filterMap_append, hread h.map_id_callLinks,
    hread (h.map_id_notesOf _ _), hback, List.append_nil] at hids
  rwa [Document.identifiers, hspans.filterMap_attribute? hnodup,
    Markup.gather_singleton_of_none rfl,
    (readsNotes_attribute? hkey).gather_pageMarkup (fun _ ↦ rfl) h]

end IsOrder

end Typeset

end Galley
