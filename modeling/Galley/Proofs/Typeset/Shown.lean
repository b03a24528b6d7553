import Galley.Proofs.Html.Gather
import Galley.Proofs.Typeset.Paragraphs

/-!
What a page shows of its source. The atoms that a node shows are those in it that are set
(`shown`): what stands in definitions of footnotes, in stray parts of tables, or in tables and rows
without being a row or a cell is left out. All else on a page is wrapping around them. A reading
that gives nothing for the wrapping (`IgnoresWrapping`) gathers from the trees of nodes what it
gathers from the trees of their atoms, set one after the other, and the same calls are made
(`IgnoresWrapping.shows_nodes`). A reading that gives nothing for texts (`IsContent`) gives nothing
for any wrapping.
-/

set_option autoImplicit false
set_option relaxedAutoImplicit false

namespace Galley.Typeset

open Html Markdown

/-! ### Atoms -/

mutual

/-- The atoms that are set of a node, in order. -/
def shown : Node → List Atom
  | .atom value => [value]
  | .branch construct children =>
    match construct with
    | .table _ => shownInTable children
    | .row | .cell | .footnoteDefinition _ => []
    | _ => shownAll children

/-- The atoms that are set of nodes. -/
def shownAll : List Node → List Atom
  | [] => []
  | node :: rest => shown node ++ shownAll rest

/-- The atoms that are set of the rows among the nodes of a table. -/
def shownInTable : List Node → List Atom
  | [] => []
  | .branch .row children :: rest => shownInRow children ++ shownInTable rest
  | _ :: rest => shownInTable rest

/-- The atoms that are set of the cells among the nodes of a row. -/
def shownInRow : List Node → List Atom
  | [] => []
  | .branch .cell children :: rest => shownAll children ++ shownInRow rest
  | _ :: rest => shownInRow rest

end

@[simp] theorem shownAll_append (nodes others : List Node) :
    shownAll (nodes ++ others) = shownAll nodes ++ shownAll others := by
  induction nodes with
  | nil => rfl
  | cons node rest ih => simp [shownAll, ih]

/-- Nodes without children show nothing in a table, nor in a row. -/
theorem shownInTable_append_of_atoms {nodes : List Node}
    (h : ∀ node ∈ nodes, ∃ value, node = .atom value) (rest : List Node) :
    shownInTable (nodes ++ rest) = shownInTable rest ∧
      shownInRow (nodes ++ rest) = shownInRow rest := by
  induction nodes with
  | nil => exact ⟨rfl, rfl⟩
  | cons node nodes ih =>
    obtain ⟨value, rfl⟩ := h node (by simp)
    exact ih fun other hother ↦ h other (by simp [hother])

/-- The trees of atoms, one after the other. -/
def atomsMarkup (ds : Definitions) : List Atom → Calls → Marked
  | [], calls => ([], calls)
  | atom :: rest, calls =>
    let (trees, calls) := calledMarkup ds atom calls
    let (others, calls) := atomsMarkup ds rest calls
    (trees ++ others, calls)

theorem atomsMarkup_append (ds : Definitions) (atoms others : List Atom) (calls : Calls) :
    atomsMarkup ds (atoms ++ others) calls =
      let (trees, calls) := atomsMarkup ds atoms calls
      let (rest, calls) := atomsMarkup ds others calls
      (trees ++ rest, calls) := by
  induction atoms generalizing calls with
  | nil => rfl
  | cons atom atoms ih => simp [atomsMarkup, ih]

/-- Where no footnote is defined, none is called. -/
theorem calledMarkup_of_no_notes {ds : Definitions} (hnotes : ds.footnotes = []) (atom : Atom)
    (calls : Calls) : calledMarkup ds atom calls = (atomMarkup ds atom, calls) := by
  cases atom <;> simp [calledMarkup, Definitions.footnote?, hnotes]

/-- Atoms that call no footnote are set one by one. -/
theorem atomsMarkup_of_no_calls {ds : Definitions} {atoms : List Atom}
    (hatoms : ∀ atom ∈ atoms, ∀ calls, calledMarkup ds atom calls = (atomMarkup ds atom, calls))
    (calls : Calls) : atomsMarkup ds atoms calls = (atoms.flatMap (atomMarkup ds), calls) := by
  induction atoms with
  | nil => rfl
  | cons atom rest ih =>
    have hrest := ih fun other hother ↦ hatoms other (by simp [hother])
    simp [atomsMarkup, hatoms atom (by simp), hrest]

/-! ### Wrapping -/

/-- The tags of what is set around atoms. -/
def wrapperTags : List (List Char) :=
  ["p".toList, "em".toList, "strong".toList, "del".toList, "blockquote".toList, "a".toList,
    "ol".toList, "ul".toList, "li".toList, "table".toList, "thead".toList, "tbody".toList,
    "tr".toList, "th".toList, "td".toList] ++ headingTags

/-- The keys of attributes of what is set around atoms. -/
def wrapperKeys : List AttributeKey := [.href, .title, .start, .className, .align]

/-- A reading gives nothing for what is set around atoms. -/
structure IsContent {α : Type} (read : Markup → Option α) : Prop where
  text : ∀ value, read (.leaf value) = none
  box : ∀ isChecked, read (.element "input".toList (boxAttributes isChecked) []) = none
  wrapper : ∀ tag ∈ wrapperTags, ∀ attrs, attrs.HasKeys wrapperKeys → ∀ inner,
    read (.element tag attrs inner) = none

/-- The tags of lists. -/
def listTags : List (List Char) := ["ol".toList, "ul".toList]

/-- A reading gives nothing for what is set around atoms, apart from lists and brackets. -/
structure IgnoresWrapping {α : Type} (read : Markup → Option α) : Prop where
  line : read lineMarkup = none
  space : read (.leaf [' ']) = none
  box : ∀ isChecked, read (.element "input".toList (boxAttributes isChecked) []) = none
  wrapper : ∀ tag ∈ wrapperTags, tag ∉ listTags → ∀ attrs, attrs.HasKeys wrapperKeys → ∀ inner,
    read (.element tag attrs inner) = none

/-! ### Readings that ignore the wrapping -/

/-- From the trees of a construct the same is gathered as from the trees in it. -/
def IsTransparent {α : Type} (read : Markup → Option α) (ds : Definitions)
    (construct : Construct) : Prop :=
  ∀ isTight nodes, ∀ trees : List Markup,
    (∀ checked spread, construct = .item checked spread → ParagraphsArePlain trees) →
    Markup.gather read (constructMarkup ds isTight construct nodes trees) =
      Markup.gather read trees

namespace IgnoresWrapping

variable {α : Type} {read : Markup → Option α} {ds : Definitions} {construct : Construct}

theorem ignoresLines (h : IgnoresWrapping read) : IgnoresLines (Markup.gather read) where
  append := Markup.gather_append
  line := Markup.gather_singleton_of_none h.line
  paragraph inner :=
    Markup.gather_singleton_of_none (h.wrapper _ (by decide) (by decide) _ .empty inner)

theorem gather_boxMarkup (h : IgnoresWrapping read) (checked : Option Bool) :
    Markup.gather read (boxMarkup checked) = [] := by
  cases checked with
  | none => rfl
  | some isChecked =>
    rw [boxMarkup, Markup.gather_cons, Markup.gather_singleton_of_none h.space, Markup.gather_nil,
      List.append_nil]
    exact Markup.gather_singleton_of_none (h.box isChecked)

theorem gather_wrapper (h : IgnoresWrapping read) {tag : List Char} (htag : tag ∈ wrapperTags)
    (hlist : tag ∉ listTags) {attrs : Attributes} (hattrs : attrs.HasKeys wrapperKeys)
    (inner : List Markup) : Markup.gather read [.element tag attrs inner] =
      Markup.gather read inner :=
  Markup.gather_singleton_of_none (h.wrapper tag htag hlist attrs hattrs inner)

/-- A construct is transparent if it shows what is in it, a list only to a reading that ignores
lists, and a reference that leads nowhere only to one that ignores brackets. -/
theorem isTransparent (h : IgnoresWrapping read)
    (hset : construct ≠ .row ∧ construct ≠ .cell ∧
      ∀ reference, construct ≠ .footnoteDefinition reference)
    (hlist : ∀ isOrdered start spread, construct = .list isOrdered start spread →
      ∀ tag ∈ listTags, ∀ attrs : Attributes, attrs.HasKeys wrapperKeys → ∀ inner,
        read (.element tag attrs inner) = none)
    (hbrackets : ∀ style reference, construct = .linkReference style reference →
      ds.link? reference.identifier = none →
        read (.leaf ['[']) = none ∧ read (.leaf [']']) = none) :
    IsTransparent read ds construct := by
  intro isTight nodes trees hplain
  have hlines := h.ignoresLines
  cases construct with
  | root => rfl
  | component inText name attributes => rfl
  | heading level =>
    have hheading : ∀ tag ∈ headingTags, tag ∉ listTags := by decide
    exact h.gather_wrapper (List.mem_append_right _ (headingTag_mem level))
      (hheading _ (headingTag_mem level)) .empty trees
  | blockquote =>
    exact (h.gather_wrapper (by decide) (by decide) .empty _).trans
      (hlines.read_enclosedMarkup trees)
  | link url title =>
    exact h.gather_wrapper (by decide) (by decide)
      ((linkAttributes_hasKeys url title).mono (by decide)) trees
  | linkReference style reference =>
    cases hlink : ds.link? reference.identifier with
    | none =>
      obtain ⟨hopening, hclosing⟩ := hbrackets style reference rfl hlink
      simp only [constructMarkup, hlink]
      rw [List.cons_append, Markup.gather_cons, Markup.gather_singleton_of_none hopening,
        Markup.gather_nil, List.nil_append, Markup.gather_append,
        Markup.gather_singleton_of_none hclosing, Markup.gather_nil, List.append_nil]
    | some target =>
      simp only [constructMarkup, hlink]
      exact h.gather_wrapper (by decide) (by decide)
        ((linkAttributes_hasKeys target.url target.title).mono (by decide)) trees
  | list isOrdered start spread =>
    have htag : listTag isOrdered ∈ listTags := by cases isOrdered <;> decide
    exact (Markup.gather_singleton_of_none (hlist isOrdered start spread rfl _ htag _
      ((listAttributes_hasKeys isOrdered start nodes).mono (by decide)) _)).trans
        (hlines.read_enclosedMarkup trees)
  | item checked spread =>
    have hblocks := hlines.read_blocksMarkup (!isTight || spread) true (boxMarkup checked)
      (hplain checked spread rfl)
    rw [h.gather_boxMarkup, List.nil_append] at hblocks
    exact (h.gather_wrapper (by decide) (by decide)
      ((itemAttributes_hasKeys checked).mono (by decide)) _).trans hblocks
  | table alignments =>
    exact (h.gather_wrapper (by decide) (by decide) .empty _).trans
      (hlines.read_enclosedMarkup trees)
  | row => exact absurd rfl hset.1
  | cell => exact absurd rfl hset.2.1
  | footnoteDefinition reference => exact absurd rfl (hset.2.2 reference)
  | _ => exact h.gather_wrapper (by decide) (by decide) .empty trees

theorem gather_row (h : IgnoresWrapping read) (cells : List Markup) :
    Markup.gather read [plain "tr" (enclosedMarkup cells)] = Markup.gather read cells :=
  (h.gather_wrapper (by decide) (by decide) .empty _).trans
    (h.ignoresLines.read_enclosedMarkup cells)

theorem gather_sectionsMarkup (h : IgnoresWrapping read) (cells rows : List Markup) :
    Markup.gather read (sectionsMarkup [headMarkup cells] rows) =
      Markup.gather read cells ++ Markup.gather read rows := by
  have hhead : Markup.gather read [headMarkup cells] = Markup.gather read cells :=
    (h.gather_wrapper (by decide) (by decide) .empty _).trans
      ((h.ignoresLines.read_enclosedMarkup _).trans (h.gather_row cells))
  have hbody : Markup.gather read [plain "tbody" (enclosedMarkup rows)] =
      Markup.gather read rows :=
    (h.gather_wrapper (by decide) (by decide) .empty _).trans
      (h.ignoresLines.read_enclosedMarkup rows)
  unfold sectionsMarkup
  split_ifs with hnone
  · rw [List.isEmpty_iff.1 hnone, hhead, Markup.gather_nil, List.append_nil]
  · rw [Markup.gather_append, hhead, hbody]

/-- From the blocks of a note with the link back the same is gathered as from the blocks and the
link. -/
theorem gather_backLinkedMarkup (h : IgnoresWrapping read) (link : Markup) {blocks : List Markup}
    (hplain : ParagraphsArePlain blocks) :
    Markup.gather read (backLinkedMarkup link blocks) =
      Markup.gather read blocks ++ Markup.gather read [link] := by
  rcases List.eq_nil_or_concat blocks with rfl | ⟨front, last, rfl⟩
  · rfl
  · rw [List.concat_eq_append] at hplain ⊢
    simp only [backLinkedMarkup, List.getLast?_append, List.getLast?_singleton, Option.some_or,
      List.dropLast_concat]
    split_ifs with hparagraph
    · obtain ⟨inner, rfl⟩ := hplain last (by simp) hparagraph
      have hlast : Markup.gather read [plain "p" (inner ++ [.leaf [' '], link])] =
          Markup.gather read inner ++ Markup.gather read [link] := by
        rw [h.ignoresLines.paragraph, Markup.gather_append, Markup.gather_cons,
          Markup.gather_singleton_of_none h.space, Markup.gather_nil, List.nil_append]
      simp only [Markup.kind, Markup.children, Markup.gather_append, hlast,
        h.ignoresLines.paragraph, List.append_assoc]
    · rw [Markup.gather_append]

end IgnoresWrapping

/-! ### Nodes and the atoms they show -/

section Shows

variable {α : Type} {read : Markup → Option α}

/-- The trees and the calls of a step agree with those of atoms: the same is gathered from the
trees, and the same calls are made. -/
def Shows (read : Markup → Option α) (ds : Definitions) (step : Calls → Marked)
    (atoms : List Atom) : Prop :=
  ∀ calls, Markup.gather read (step calls).1 = Markup.gather read (atomsMarkup ds atoms calls).1 ∧
    (step calls).2 = (atomsMarkup ds atoms calls).2

variable {ds : Definitions} {step step' : Calls → Marked} {atoms atoms' : List Atom}

theorem Shows.nil : Shows read ds (fun calls ↦ ([], calls)) [] := fun _ ↦ ⟨rfl, rfl⟩

theorem Shows.atom (atom : Atom) : Shows read ds (calledMarkup ds atom) [atom] := fun calls ↦ by
  simp [atomsMarkup]

/-- Two steps one after the other show the atoms of both, if from what is made of their trees the
same is gathered as from the trees. -/
theorem Shows.both {f : List Markup → List Markup → List Markup}
    (hf : ∀ trees others, Markup.gather read (f trees others) =
      Markup.gather read trees ++ Markup.gather read others)
    (hstep : Shows read ds step atoms) (hstep' : Shows read ds step' atoms') :
    Shows read ds (fun calls ↦
      let (trees, calls) := step calls
      let (others, calls) := step' calls
      (f trees others, calls)) (atoms ++ atoms') := by
  intro calls
  obtain ⟨htrees, hcalls⟩ := hstep calls
  obtain ⟨hothers, hcalls'⟩ := hstep' (step calls).2
  rw [hcalls] at hothers hcalls'
  rw [atomsMarkup_append]
  dsimp only
  rw [hf, htrees, hcalls, hothers, Markup.gather_append]
  exact ⟨rfl, hcalls'⟩

/-- A step shows the same atoms if from what is made of its trees the same is gathered as from the
trees. -/
theorem Shows.map {f : List Markup → List Markup} (hstep : Shows read ds step atoms)
    (hf : ∀ calls, Markup.gather read (f (step calls).1) = Markup.gather read (step calls).1) :
    Shows read ds (fun calls ↦
      let (trees, calls) := step calls
      (f trees, calls)) atoms := fun calls ↦
  ⟨(hf calls).trans (hstep calls).1, (hstep calls).2⟩

end Shows

/-- A node is a construct that is transparent, if it shows what is in it. -/
def ShowsThrough {α : Type} (read : Markup → Option α) (ds : Definitions) (node : Node) : Prop :=
  ∀ construct children, node = .branch construct children →
    construct ≠ .row ∧ construct ≠ .cell ∧
      (∀ reference, construct ≠ .footnoteDefinition reference) → IsTransparent read ds construct

namespace IgnoresWrapping

variable {α : Type} {read : Markup → Option α} {ds : Definitions}

theorem shows_branch {isTight : Bool} {construct : Construct} {children : List Node}
    (hthrough : Node.AllIn (ShowsThrough read ds) [.branch construct children])
    (hnodes : ∀ isTight, Shows read ds (nodesMarkup ds isTight children) (shownAll children))
    (htable : ∀ alignments,
      Shows read ds (tableMarkup ds isTight alignments children) (shownInTable children)) :
    Shows read ds (nodeMarkup ds isTight (.branch construct children))
      (shown (.branch construct children)) := by
  have hconstruct := hthrough.top construct children rfl
  cases construct with
  | table alignments =>
    exact (htable alignments).map (f := constructMarkup ds isTight (.table alignments) children)
      fun calls ↦ hconstruct (by simp) isTight children _ (by simp)
  | row => exact .nil
  | cell => exact .nil
  | footnoteDefinition reference => exact .nil
  | _ =>
    exact (hnodes _).map (f := constructMarkup ds isTight _ children) fun calls ↦
      hconstruct (by simp) isTight children _ fun _ _ _ ↦ .nodesMarkup ds _ children calls

mutual

theorem shows_node (h : IgnoresWrapping read) (isTight : Bool) :
    ∀ node, Node.AllIn (ShowsThrough read ds) [node] →
      Shows read ds (nodeMarkup ds isTight node) (shown node)
  | .atom atom, _ => .atom atom
  | .branch _ children, hthrough =>
    shows_branch hthrough (fun isTight ↦ h.shows_nodes isTight children hthrough.children)
      (fun alignments ↦ h.shows_table isTight alignments children hthrough.children)

theorem shows_nodes (h : IgnoresWrapping read) (isTight : Bool) :
    ∀ nodes, Node.AllIn (ShowsThrough read ds) nodes →
      Shows read ds (nodesMarkup ds isTight nodes) (shownAll nodes)
  | [], _ => .nil
  | node :: rest, hthrough => .both (fun _ _ ↦ Markup.gather_append _ _)
    (h.shows_node isTight node hthrough.head) (h.shows_nodes isTight rest hthrough.tail)

theorem shows_table (h : IgnoresWrapping read) (isTight : Bool)
    (alignments : List (Option Markdown.Alignment)) :
    ∀ nodes, Node.AllIn (ShowsThrough read ds) nodes →
      Shows read ds (tableMarkup ds isTight alignments nodes) (shownInTable nodes)
  | [], _ => .nil
  | .atom _ :: rest, hthrough => h.shows_table isTight alignments rest hthrough.tail
  | .branch construct children :: rest, hthrough => by
    have hrest := h.shows_table isTight alignments rest hthrough.tail
    cases construct with
    | row =>
      simp only [tableMarkup, shownInTable]
      exact .both (f := fun cells rows ↦ sectionsMarkup [headMarkup cells] rows)
        h.gather_sectionsMarkup
        (h.shows_cells isTight (by decide) (by decide) alignments children hthrough.children)
        (h.shows_rows isTight alignments rest hthrough.tail)
    | _ => exact hrest

theorem shows_rows (h : IgnoresWrapping read) (isTight : Bool)
    (alignments : List (Option Markdown.Alignment)) :
    ∀ nodes, Node.AllIn (ShowsThrough read ds) nodes →
      Shows read ds (rowsMarkup ds isTight alignments nodes) (shownInTable nodes)
  | [], _ => .nil
  | .atom _ :: rest, hthrough => h.shows_rows isTight alignments rest hthrough.tail
  | .branch construct children :: rest, hthrough => by
    have hrest := h.shows_rows isTight alignments rest hthrough.tail
    cases construct with
    | row =>
      simp only [rowsMarkup, shownInTable]
      exact .both (f := fun cells rows ↦ plain "tr" (enclosedMarkup cells) :: rows)
        (fun cells rows ↦ by rw [Markup.gather_cons, h.gather_row])
        (h.shows_cells isTight (by decide) (by decide) alignments children hthrough.children)
        hrest
    | _ => exact hrest

theorem shows_cells (h : IgnoresWrapping read) (isTight : Bool) {tag : List Char}
    (htag : tag ∈ wrapperTags) (hlist : tag ∉ listTags) :
    ∀ (alignments : List (Option Markdown.Alignment)) (nodes : List Node),
      Node.AllIn (ShowsThrough read ds) nodes →
        Shows read ds (cellsMarkup ds isTight tag alignments nodes) (shownInRow nodes)
  | _, [], _ => .nil
  | alignments, .atom _ :: rest, hthrough =>
    h.shows_cells isTight htag hlist alignments.tail rest hthrough.tail
  | alignments, .branch construct children :: rest, hthrough => by
    have hrest := h.shows_cells isTight htag hlist alignments.tail rest hthrough.tail
    cases construct with
    | cell =>
      simp only [cellsMarkup, shownInRow]
      exact .both (f := fun inner cells ↦
          .element tag (cellAttributes alignments.head?.join) inner :: cells)
        (fun inner cells ↦ by
          rw [Markup.gather_cons, h.gather_wrapper htag hlist
            ((cellAttributes_hasKeys alignments.head?.join).mono (by decide))])
        (h.shows_nodes isTight children hthrough.children) hrest
    | _ => exact hrest

end

/-- From a page is gathered what is gathered from the atoms it shows and from its notes. -/
theorem gather_pageMarkup (h : IgnoresWrapping read) {tree : Node}
    (hthrough : Node.AllIn (ShowsThrough read (.ofNode tree)) (topNodes tree)) :
    Markup.gather read (pageMarkup tree) =
      let ds := Definitions.ofNode tree
      let (body, calls) := atomsMarkup ds (shownAll (topNodes tree)) {}
      Markup.gather read body ++ Markup.gather read (sectionMarkup ds calls).1 := by
  obtain ⟨htrees, hcalls⟩ := h.shows_nodes false (topNodes tree) hthrough {}
  rw [pageMarkup]
  dsimp only
  rw [Markup.gather_append, h.ignoresLines.read_linesMarkup, htrees, hcalls]

/-- A page on which no footnote is called is gathered from atom by atom. -/
theorem gather_pageMarkup_of_no_calls (h : IgnoresWrapping read) {tree : Node}
    (hthrough : Node.AllIn (ShowsThrough read (.ofNode tree)) (topNodes tree))
    (hatoms : ∀ atom ∈ shownAll (topNodes tree), ∀ calls,
      calledMarkup (.ofNode tree) atom calls = (atomMarkup (.ofNode tree) atom, calls)) :
    Markup.gather read (pageMarkup tree) = (shownAll (topNodes tree)).flatMap fun atom ↦
      Markup.gather read (atomMarkup (.ofNode tree) atom) := by
  rw [h.gather_pageMarkup hthrough]
  dsimp only
  rw [atomsMarkup_of_no_calls hatoms]
  have hsection (calls : Calls) (hcalls : calls.order = []) :
      (sectionMarkup (.ofNode tree) calls).1 = [] := by simp [sectionMarkup, hcalls]
  rw [hsection _ rfl, Markup.gather_nil, List.append_nil]
  induction shownAll (topNodes tree) with
  | nil => rfl
  | cons atom rest ih => simp [ih]

end IgnoresWrapping

/-! ### Readings of content -/

namespace IsContent

variable {α : Type} {read : Markup → Option α}

theorem ignoresWrapping (h : IsContent read) : IgnoresWrapping read where
  line := h.text _
  space := h.text _
  box := h.box
  wrapper tag htag _ := h.wrapper tag htag

theorem allShowThrough (h : IsContent read) (ds : Definitions) (nodes : List Node) :
    Node.AllIn (ShowsThrough read ds) nodes := fun _ _ _ _ _ hset ↦
  h.ignoresWrapping.isTransparent hset
    (fun _ _ _ _ tag htag ↦ h.wrapper tag ((by decide : listTags ⊆ wrapperTags) htag))
    fun _ _ _ _ ↦ ⟨h.text _, h.text _⟩

theorem gather_text (h : IsContent read) (value : List Char) :
    Markup.gather read [.leaf value] = [] :=
  Markup.gather_singleton_of_none (h.text value)

theorem gather_linesMarkup (h : IsContent read) (trees : List Markup) :
    Markup.gather read (linesMarkup trees) = Markup.gather read trees :=
  h.ignoresWrapping.ignoresLines.read_linesMarkup trees

theorem gather_enclosedMarkup (h : IsContent read) (trees : List Markup) :
    Markup.gather read (enclosedMarkup trees) = Markup.gather read trees :=
  h.ignoresWrapping.ignoresLines.read_enclosedMarkup trees

theorem shows_nodes (h : IsContent read) (ds : Definitions) (isTight : Bool) (nodes : List Node) :
    Shows read ds (nodesMarkup ds isTight nodes) (shownAll nodes) :=
  h.ignoresWrapping.shows_nodes isTight nodes (h.allShowThrough ds nodes)

/-- A page without definitions of footnotes is gathered from atom by atom. -/
theorem gather_pageMarkup_of_no_notes (h : IsContent read) {tree : Node}
    (hnotes : (Definitions.ofNode tree).footnotes = []) :
    Markup.gather read (pageMarkup tree) = (shownAll (topNodes tree)).flatMap fun atom ↦
      Markup.gather read (atomMarkup (.ofNode tree) atom) :=
  h.ignoresWrapping.gather_pageMarkup_of_no_calls (h.allShowThrough _ _)
    fun atom _ calls ↦ calledMarkup_of_no_notes hnotes atom calls

end IsContent

end Galley.Typeset
