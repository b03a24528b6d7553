import Galley.Proofs.Typeset.Items

/-!
The lists of a page. The lists in the document of a page, in the order in which they are written,
are those of the source that are set, each before those in it, first in the text and then in one
note after the other; only the list of the notes comes in between and has no source. Each of them is
loose or tight as it and its own items say, whatever stands around it or in it
(`page_sets_each_list`).
-/

set_option autoImplicit false
set_option relaxedAutoImplicit false

namespace Galley

open Html Markdown Typeset

/-! ### Lists in a document and in its source -/

namespace Html

/-- Whether a node is a list. -/
def Kind.isList (kind : Kind) : Bool := kind.hasTag "ol".toList || kind.hasTag "ul".toList

/-- The lists of a document, in the order in which they are written. -/
def Document.lists (doc : Document) : List NodeId := doc.nodes.filter (doc.isOfKind Kind.isList)

/-- A tree that is a list. -/
def Markup.list? : Markup → Option Markup := Option.guard (·.kind.isList)

end Html

/-- Whether a node is a list. -/
def Markdown.Node.isList : Node → Bool
  | .branch (.list _ _ _) _ => true
  | _ => false

namespace Typeset

mutual

/-- The nodes that are set of a node, each before those in it. -/
def placed : Node → List Node
  | .atom value => [.atom value]
  | .branch construct children =>
    match construct with
    | .table alignments => .branch (.table alignments) children :: placedInTable children
    | .row | .cell | .footnoteDefinition _ => []
    | construct => .branch construct children :: placedAll children

/-- The nodes that are set of nodes. -/
def placedAll : List Node → List Node
  | [] => []
  | node :: rest => placed node ++ placedAll rest

/-- The nodes that are set of the rows among the nodes of a table. -/
def placedInTable : List Node → List Node
  | [] => []
  | .branch .row children :: rest => placedInRow children ++ placedInTable rest
  | _ :: rest => placedInTable rest

/-- The nodes that are set of the cells among the nodes of a row. -/
def placedInRow : List Node → List Node
  | [] => []
  | .branch .cell children :: rest => placedAll children ++ placedInRow rest
  | _ :: rest => placedInRow rest

end

/-- The lists that are set of nodes, each before those in it. -/
def listsIn (nodes : List Node) : List Node := (placedAll nodes).filter Node.isList

/-- What the lists of a page are set from, given the footnotes in the order of their notes: the
lists in the text, nothing for the list of the notes, and the lists in the notes. -/
def listSources (tree : Node) (order : List (List Char)) : List (Option Node) :=
  let ds := Definitions.ofNode tree
  (listsIn (topNodes tree)).map some ++ if order.isEmpty then [] else
    none :: (order.flatMap fun identifier =>
      listsIn ((ds.footnote? identifier).getD [])).map some

/-! ### Lists -/

/-- A part of a list is set from a node of the list; if that is an item then the part is an item
that is set from the blocks of its content. -/
def IsSetAsPart (ds : Definitions) (isLoose : Bool) (child : Node) (part : List Markup) : Prop :=
  ∃ calls, part = (nodeMarkup ds (!isLoose) child calls).1 ∧
    ∀ checked spread content, child = .branch (.item checked spread) content →
      ∃ item, part = [item] ∧
        IsSetAsItem isLoose checked (nodesMarkup ds (!isLoose) content calls).1 item

/-- A list is set from a list of the source. It is loose if it is set to be or one of its own items
is, and each of its nodes has its part. -/
def IsSetAsList (ds : Definitions) (source : Node) (list : Markup) : Prop :=
  ∃ isOrdered start spread children parts,
    source = .branch (.list isOrdered start spread) children ∧
    list = .element (listTag isOrdered) (listAttributes isOrdered start children)
      (enclosedMarkup parts.flatten) ∧
    List.Forall₂ (IsSetAsPart ds (spread || children.any isSpreadItem)) children parts

/-- A list is what a list of the source is set as somewhere. -/
def IsPlaced (ds : Definitions) (source : Node) (list : Markup) : Prop :=
  source.isList = true ∧ ∃ isTight calls, (nodeMarkup ds isTight source calls).1 = [list]

/-! ### What nodes are set as -/

/-- The lists in trees are those of the nodes, one by one, and no box stands outside of items. -/
structure PlacesLists (ds : Definitions) (nodes : List Node) (trees : List Markup) : Prop where
  lists : List.Forall₂ (IsPlaced ds) (nodes.filter Node.isList) (Markup.gather Markup.list? trees)
  ownBoxes : Markup.ownBoxesIn trees = []

/-- The tags of elements that are neither lists nor items nor boxes. -/
def IsPlainTag (tag : List Char) : Prop := tag ∉ listTags ++ ["li".toList, "input".toList]

instance (tag : List Char) : Decidable (IsPlainTag tag) :=
  inferInstanceAs (Decidable (tag ∉ listTags ++ ["li".toList, "input".toList]))

theorem list?_element {tag : List Char} (htag : tag ∉ listTags) (attrs : Attributes)
    (inner : List Markup) : Markup.list? (.element tag attrs inner) = none := by
  have hlist : Kind.isList (.element tag attrs) = false := by
    simpa [Kind.isList, Kind.hasTag, listTags] using htag
  simp [Markup.list?, Markup.kind, Option.guard, hlist]

theorem ignoresWrapping_list? : IgnoresWrapping Markup.list? where
  line := rfl
  space := rfl
  box _ := rfl
  wrapper _ _ hlist attrs _ inner := list?_element hlist attrs inner

namespace PlacesLists

variable {ds : Definitions} {nodes others : List Node} {trees rest : List Markup}

theorem nil : PlacesLists ds [] [] := ⟨.nil, rfl⟩

/-- Trees with the same lists, and with the same boxes outside of items, place the same lists. -/
theorem congr (h : PlacesLists ds nodes trees)
    (hlists : Markup.gather Markup.list? rest = Markup.gather Markup.list? trees)
    (hboxes : Markup.ownBoxesIn rest = Markup.ownBoxesIn trees) : PlacesLists ds nodes rest :=
  ⟨hlists ▸ h.lists, hboxes.trans h.ownBoxes⟩

theorem append (h : PlacesLists ds nodes trees) (h' : PlacesLists ds others rest) :
    PlacesLists ds (nodes ++ others) (trees ++ rest) := by
  refine ⟨?_, by rw [Markup.ownBoxesIn_append, h.ownBoxes, h'.ownBoxes, List.append_nil]⟩
  rw [List.filter_append, Markup.gather_append]
  exact List.rel_append h.lists h'.lists

/-- A node that is no list adds none. -/
theorem skip {node : Node} (hnode : node.isList = false) (h : PlacesLists ds nodes trees) :
    PlacesLists ds (node :: nodes) trees :=
  ⟨by rw [List.filter_cons_of_neg (by simp [hnode])]; exact h.lists, h.ownBoxes⟩

theorem leaf (value : List Char) : PlacesLists ds [] [.leaf value] := ⟨.nil, rfl⟩

theorem element (h : PlacesLists ds nodes trees) {tag : List Char} (htag : IsPlainTag tag)
    (attrs : Attributes) : PlacesLists ds nodes [.element tag attrs trees] := by
  simp only [IsPlainTag, List.mem_append, not_or, List.mem_cons, List.not_mem_nil, or_false] at htag
  exact h.congr (Markup.gather_singleton_of_none (list?_element htag.1 attrs trees))
    (Markup.ownBoxesIn_element htag.2.1 htag.2.2 attrs trees)

theorem enclosed (h : PlacesLists ds nodes trees) : PlacesLists ds nodes (enclosedMarkup trees) :=
  h.congr (ignoresWrapping_list?.ignoresLines.read_enclosedMarkup trees)
    (ignoresLines_ownBoxesIn.read_enclosedMarkup trees)

/-- An item hides the boxes in it. -/
theorem item {attrs : Attributes} (h : PlacesLists ds nodes trees)
    (hlists : Markup.gather Markup.list? rest = Markup.gather Markup.list? trees) :
    PlacesLists ds nodes [.element "li".toList attrs rest] := by
  refine h.congr ((Markup.gather_singleton_of_none ?_).trans hlists) h.ownBoxes.symm
  exact list?_element (by decide) attrs rest

theorem row (h : PlacesLists ds nodes trees) :
    PlacesLists ds nodes [plain "tr" (enclosedMarkup trees)] :=
  h.enclosed.element (by decide) .empty

theorem sections (h : PlacesLists ds nodes trees) (h' : PlacesLists ds others rest) :
    PlacesLists ds (nodes ++ others) (sectionsMarkup [headMarkup trees] rest) := by
  have hhead : PlacesLists ds nodes [headMarkup trees] := h.row.enclosed.element (by decide) .empty
  unfold sectionsMarkup
  split_ifs with hnone
  · rw [List.isEmpty_iff.1 hnone] at h'
    simpa using hhead.append h'
  · exact hhead.append (h'.enclosed.element (by decide) .empty)

theorem atom (ds : Definitions) (atom : Atom) (calls : Calls) :
    PlacesLists ds [.atom atom] (calledMarkup ds atom calls).1 := by
  refine .skip rfl ?_
  have hvalue (value : List Char) : PlacesLists ds [] (valueMarkup value) := by
    unfold valueMarkup
    split_ifs
    · exact .nil
    · exact .leaf value
  cases atom with
  | text value => exact .leaf value
  | html value => exact ⟨.nil, rfl⟩
  | code language remark value place =>
    exact .element (.element (hvalue value) (by decide) _) (by decide) _
  | math remark value => exact .element (.element (.leaf value) (by decide) _) (by decide) _
  | inlineCode value => exact .element (.leaf value) (by decide) _
  | inlineMath value => exact .element (.leaf value) (by decide) _
  | hardBreak => exact .append (.element .nil (by decide) _) (.leaf _)
  | thematicBreak => exact .element .nil (by decide) _
  | image url title alt => exact .element .nil (by decide) _
  | imageReference style reference alt =>
    cases hlink : ds.link? reference.identifier with
    | none =>
      simp only [calledMarkup, atomMarkup, hlink]
      exact .leaf _
    | some target =>
      simp only [calledMarkup, atomMarkup, hlink]
      exact .element .nil (by decide) _
  | footnoteReference reference =>
    cases hnote : ds.footnote? reference.identifier with
    | none =>
      simp only [calledMarkup, hnote]
      exact .leaf _
    | some content =>
      simp only [calledMarkup, hnote]
      exact .element (.element (.leaf _) (by decide) _) (by decide) _
  | _ => exact .nil

/-- A node with children places the lists that its children place, and itself if it is one. -/
theorem branch {isTight : Bool} {construct : Construct} {children : List Node} {calls : Calls}
    (hnodes : ∀ isTight, PlacesLists ds (placedAll children)
      (nodesMarkup ds isTight children calls).1)
    (htable : ∀ alignments, PlacesLists ds (placedInTable children)
      (tableMarkup ds isTight alignments children calls).1) :
    PlacesLists ds (placed (.branch construct children))
      (nodeMarkup ds isTight (.branch construct children) calls).1 := by
  cases construct with
  | root => exact .skip rfl (hnodes isTight)
  | component inText name attributes => exact .skip rfl (hnodes isTight)
  | heading level =>
    have htags : ∀ tag ∈ headingTags, IsPlainTag tag := by decide
    exact .skip rfl ((hnodes isTight).element (htags _ (headingTag_mem level)) _)
  | blockquote => exact .skip rfl ((hnodes isTight).enclosed.element (by decide) _)
  | linkReference style reference =>
    refine .skip rfl ?_
    cases hlink : ds.link? reference.identifier with
    | none =>
      simp only [nodeMarkup, constructMarkup, hlink]
      have hinner := ((leaf ['[']).append (hnodes isTight)).append (leaf [']'])
      rw [List.nil_append, List.append_nil] at hinner
      exact hinner
    | some target =>
      simp only [nodeMarkup, constructMarkup, hlink]
      exact (hnodes isTight).element (by decide) _
  | list isOrdered start spread =>
    have hinner := (hnodes (isTightBelow isTight (.list isOrdered start spread) children)).enclosed
    have hlist (attrs : Attributes) (inner : List Markup) :
        Markup.list? (.element (listTag isOrdered) attrs inner) =
          some (.element (listTag isOrdered) attrs inner) := by cases isOrdered <;> rfl
    refine ⟨?_, ?_⟩
    · simp only [nodeMarkup, constructMarkup]
      rw [Markup.gather_singleton_of_some (hlist _ _)]
      exact .cons ⟨rfl, isTight, calls, rfl⟩ hinner.lists
    · have htag : listTag isOrdered ≠ "li".toList ∧ listTag isOrdered ≠ "input".toList := by
        cases isOrdered <;> decide
      exact (Markup.ownBoxesIn_element htag.1 htag.2 _ _).trans hinner.ownBoxes
  | item checked spread =>
    have hblocks := ignoresWrapping_list?.ignoresLines.read_blocksMarkup (!isTight || spread)
      true (boxMarkup checked) (.nodesMarkup ds isTight children calls)
    rw [ignoresWrapping_list?.gather_boxMarkup, List.nil_append] at hblocks
    exact .skip rfl ((hnodes isTight).item hblocks)
  | table alignments => exact .skip rfl ((htable alignments).enclosed.element (by decide) _)
  | row => exact .nil
  | cell => exact .nil
  | footnoteDefinition reference => exact .nil
  | _ => exact .skip rfl ((hnodes isTight).element (by decide) _)

mutual

theorem nodeMarkup (ds : Definitions) (isTight : Bool) : ∀ (node : Node) (calls : Calls),
    PlacesLists ds (placed node) (Typeset.nodeMarkup ds isTight node calls).1
  | .atom atom, calls => .atom ds atom calls
  | .branch _ children, calls =>
    .branch (fun isTight ↦ .nodesMarkup ds isTight children calls)
      fun alignments ↦ .tableMarkup ds isTight alignments children calls

theorem nodesMarkup (ds : Definitions) (isTight : Bool) : ∀ (nodes : List Node) (calls : Calls),
    PlacesLists ds (placedAll nodes) (Typeset.nodesMarkup ds isTight nodes calls).1
  | [], _ => .nil
  | node :: rest, calls =>
    .append (.nodeMarkup ds isTight node calls) (.nodesMarkup ds isTight rest _)

theorem tableMarkup (ds : Definitions) (isTight : Bool)
    (alignments : List (Option Markdown.Alignment)) : ∀ (nodes : List Node) (calls : Calls),
      PlacesLists ds (placedInTable nodes) (Typeset.tableMarkup ds isTight alignments nodes calls).1
  | [], _ => .nil
  | .atom _ :: rest, calls => .tableMarkup ds isTight alignments rest calls
  | .branch construct children :: rest, calls => by
    have hrest := PlacesLists.tableMarkup ds isTight alignments rest calls
    cases construct with
    | row =>
      exact .sections (.cellsMarkup ds isTight (by decide) alignments children calls)
        (.rowsMarkup ds isTight alignments rest _)
    | _ => exact hrest

theorem rowsMarkup (ds : Definitions) (isTight : Bool)
    (alignments : List (Option Markdown.Alignment)) : ∀ (nodes : List Node) (calls : Calls),
      PlacesLists ds (placedInTable nodes) (Typeset.rowsMarkup ds isTight alignments nodes calls).1
  | [], _ => .nil
  | .atom _ :: rest, calls => .rowsMarkup ds isTight alignments rest calls
  | .branch construct children :: rest, calls => by
    have hrest (calls : Calls) := PlacesLists.rowsMarkup ds isTight alignments rest calls
    cases construct with
    | row =>
      exact .append (row (.cellsMarkup ds isTight (by decide) alignments children calls)) (hrest _)
    | _ => exact hrest calls

theorem cellsMarkup (ds : Definitions) (isTight : Bool) {tag : List Char} (htag : IsPlainTag tag) :
    ∀ (alignments : List (Option Markdown.Alignment)) (nodes : List Node) (calls : Calls),
      PlacesLists ds (placedInRow nodes)
        (Typeset.cellsMarkup ds isTight tag alignments nodes calls).1
  | _, [], _ => .nil
  | alignments, .atom _ :: rest, calls => .cellsMarkup ds isTight htag alignments.tail rest calls
  | alignments, .branch construct children :: rest, calls => by
    have hrest (calls : Calls) := PlacesLists.cellsMarkup ds isTight htag alignments.tail rest calls
    cases construct with
    | cell =>
      exact .append ((PlacesLists.nodesMarkup ds isTight children calls).element htag _) (hrest _)
    | _ => exact hrest calls

end

end PlacesLists

/-! ### What a list is set as -/

/-- An item is set from the blocks of its content. A list with an item that is set loosely is
loose, so that the item itself does not say more. -/
theorem isSetAsPart_nodeMarkup {ds : Definitions} {isLoose : Bool} {child : Node}
    (hspread : isSpreadItem child = true → isLoose = true) (calls : Calls) :
    IsSetAsPart ds isLoose child (nodeMarkup ds (!isLoose) child calls).1 := by
  refine ⟨calls, rfl, ?_⟩
  rintro checked spread content rfl
  have hloose : (!(!isLoose) || spread) = isLoose := by
    cases spread with
    | false => simp
    | true => simp [hspread rfl]
  have hitem := isSetAsItem_blocksMarkup isLoose checked
    (.nodesMarkup ds (!isLoose) content calls) (PlacesLists.nodesMarkup ds _ content calls).ownBoxes
  refine ⟨_, ?_, hitem⟩
  simp only [nodeMarkup, constructMarkup, isTightBelow, hloose]

theorem exists_parts (ds : Definitions) {isLoose : Bool} {children : List Node}
    (hspread : ∀ child ∈ children, isSpreadItem child = true → isLoose = true) (calls : Calls) :
    ∃ parts, (nodesMarkup ds (!isLoose) children calls).1 = parts.flatten ∧
      List.Forall₂ (IsSetAsPart ds isLoose) children parts := by
  induction children generalizing calls with
  | nil => exact ⟨[], rfl, .nil⟩
  | cons child rest ih =>
    obtain ⟨parts, hparts, hrest⟩ := ih (fun other hmem ↦ hspread other (by simp [hmem]))
      (nodeMarkup ds (!isLoose) child calls).2
    refine ⟨(nodeMarkup ds (!isLoose) child calls).1 :: parts, ?_, .cons ?_ hrest⟩
    · rw [nodesMarkup, List.flatten_cons, ← hparts]
    · exact isSetAsPart_nodeMarkup (hspread child (by simp)) calls

/-- How a list is set does not depend on where it stands. -/
theorem IsPlaced.isSetAsList {ds : Definitions} {source : Node} {list : Markup}
    (h : IsPlaced ds source list) : IsSetAsList ds source list := by
  obtain ⟨hlist, isTight, calls, hset⟩ := h
  obtain ⟨isOrdered, start, spread, children, rfl⟩ : ∃ isOrdered start spread children,
      source = .branch (.list isOrdered start spread) children := by
    unfold Node.isList at hlist
    split at hlist
    · exact ⟨_, _, _, _, rfl⟩
    · simp at hlist
  have hloose : ∀ child ∈ children, isSpreadItem child = true →
      (spread || children.any isSpreadItem) = true := fun child hmem hspread ↦ by
    rw [List.any_eq_true.2 ⟨child, hmem, hspread⟩, Bool.or_true]
  obtain ⟨parts, hparts, hchildren⟩ := exists_parts ds hloose calls
  refine ⟨isOrdered, start, spread, children, parts, rfl, ?_, hchildren⟩
  rw [← hparts]
  exact (List.singleton_inj.1 hset).symm

/-! ### Pages -/

/-- A list of a page is set from a list of the source. The list of the notes has none. -/
def IsSetFrom (ds : Definitions) (source : Option Node) (list : Markup) : Prop :=
  match source with
  | some source => IsSetAsList ds source list
  | none => ∃ notes, list = plain "ol" notes

/-- Notes place the lists in what their footnotes hold. -/
theorem placesLists_notesOf (ds : Definitions) (number : Nat) (called order : List (List Char)) :
    PlacesLists ds (order.flatMap fun identifier ↦
      placedAll ((ds.footnote? identifier).getD [])) (notesOf ds number called order) := by
  induction order generalizing number called with
  | nil => exact .nil
  | cons identifier rest ih =>
    have hblocks :=
      PlacesLists.nodesMarkup ds false ((ds.footnote? identifier).getD []) (.of called)
    have hnote : PlacesLists ds (placedAll ((ds.footnote? identifier).getD []))
        [noteMarkup identifier number
          (nodesMarkup ds false ((ds.footnote? identifier).getD []) (.of called)).1] := by
      refine hblocks.item ?_
      rw [ignoresWrapping_list?.ignoresLines.read_enclosedMarkup,
        ignoresWrapping_list?.gather_backLinkedMarkup _ (.nodesMarkup ds false _ _),
        Markup.gather_singleton_of_none (list?_element (by decide) _ _)]
      exact List.append_nil _
    rw [notesOf, List.flatMap_cons]
    exact hnote.append (ih (number + 1) (called ++ noteCalls ds identifier))

/-- The lists of the section of notes are the one around the notes and those in them. -/
theorem gather_sectionOf (notes : List Markup) :
    Markup.gather Markup.list? (sectionOf notes) = if notes.isEmpty then [] else
      plain "ol" (enclosedMarkup notes) :: Markup.gather Markup.list? notes := by
  have hlines := ignoresWrapping_list?.ignoresLines
  have hlist (inner : List Markup) :
      Markup.list? (plain "ol" inner) = some (plain "ol" inner) := rfl
  unfold sectionOf
  split_ifs
  · rfl
  · rw [Markup.gather_cons, hlines.line, List.nil_append,
      Markup.gather_singleton_of_none (list?_element (by decide) _ _),
      hlines.read_enclosedMarkup, Markup.gather_singleton_of_some (hlist _),
      hlines.read_enclosedMarkup]

/-- The lists in the trees of a page are set from its sources, one by one. -/
theorem IsOrder.isSetFrom {tree : Node} {order : List (List Char)} (h : IsOrder tree order) :
    List.Forall₂ (IsSetFrom (.ofNode tree)) (listSources tree order)
      (Markup.gather Markup.list? (pageMarkup tree)) := by
  have hsome {sources : List Node} {lists : List Markup}
      (hlists : List.Forall₂ (IsPlaced (.ofNode tree)) sources lists) :
      List.Forall₂ (IsSetFrom (.ofNode tree)) (sources.map some) lists :=
    List.forall₂_map_left_iff.2 (hlists.imp fun _ _ hplaced ↦ hplaced.isSetAsList)
  have hbody := (PlacesLists.nodesMarkup (.ofNode tree) false (topNodes tree) {}).lists
  have hnotes := (placesLists_notesOf (.ofNode tree) 1
    (callsIn (.ofNode tree) (topNodes tree)) order).lists
  rw [List.filter_flatMap] at hnotes
  have hempty : (notesOf (.ofNode tree) 1 (callsIn (.ofNode tree) (topNodes tree)) order).isEmpty =
      order.isEmpty := by
    rw [Bool.eq_iff_iff, List.isEmpty_iff_length_eq_zero, List.isEmpty_iff_length_eq_zero,
      length_notesOf]
  rw [h.page_eq, Markup.gather_append, ignoresWrapping_list?.ignoresLines.read_linesMarkup,
    gather_sectionOf, hempty, listSources]
  refine List.rel_append (hsome hbody) ?_
  split_ifs
  · exact .nil
  · exact .cons ⟨_, rfl⟩ (hsome hnotes)

end Typeset

/-- Each list of a page is loose or tight by itself: the lists in the document of a page are set
from those of the source, one by one. -/
theorem page_sets_each_list (tree : Node) : ∃ order lists, IsOrder tree order ∧
    List.Forall₂ (page tree).StandsFor (page tree).lists lists ∧
      List.Forall₂ (IsSetFrom (.ofNode tree)) (listSources tree order) lists := by
  obtain ⟨order, horder⟩ := exists_isOrder tree
  obtain ⟨area, hspans, hnodup⟩ := page_spans tree
  refine ⟨order, _, horder, ?_, horder.isSetFrom⟩
  have hlists : Markup.gather Markup.list? (pageMarkup tree) =
      (Markup.subtreesAll [.node .root (pageMarkup tree)]).filter (·.kind.isList) := by
    rw [← List.filterMap_eq_filter]
    exact (Markup.gather_singleton_of_none rfl).symm
  rw [hlists]
  exact hspans.forall₂_filter_nodes hnodup Kind.isList

/-- The list below the task keeps its paragraph, and the task does not. -/
example :
    let inner : Node := .branch (.list true none true)
      [.branch (.item none false) [.branch .paragraph [.text "b".toList]]]
    let task : Node := .branch (.item (some true) false)
      [.branch .paragraph [.text "a".toList], inner]
    (page (.branch .root [.branch (.list false none false) [task]])).write =
      "<ul class=\"contains-task-list\">\n<li class=\"task-list-item\">".toList ++
        "<input type=\"checkbox\" disabled checked> a\n".toList ++
          "<ol>\n<li>\n<p>b</p>\n</li>\n</ol>\n</li>\n</ul>".toList := by
  decide +kernel

end Galley
