import Galley.Proofs.Html.Attributes
import Galley.Proofs.Markdown.Node
import Galley.Proofs.Typeset.Markup

/-!
Properties of all trees of a page. `Admits fits good` lists what the parts of a page can be, given
that every node of the source fits: if all of them are good then every tree in the page is
(`Admits.pageMarkup`).
-/

set_option autoImplicit false
set_option relaxedAutoImplicit false

namespace Galley.Typeset

open Html Markdown

/-- The tags of elements of a page that have content, apart from code. -/
def contentTags : List (List Char) :=
  ["p".toList, "em".toList, "strong".toList, "del".toList, "blockquote".toList, "a".toList,
    "sup".toList, "ol".toList, "ul".toList, "li".toList, "table".toList, "thead".toList,
    "tbody".toList, "tr".toList, "th".toList, "td".toList, "section".toList]

/-- The tags of elements that code and formulas are set in. -/
def codeTags : List (List Char) := ["pre".toList, "code".toList]

/-- Whether a node is code or a formula. -/
def isCode : Atom → Bool
  | .code _ _ _ _ | .math _ _ | .inlineCode _ | .inlineMath _ => true
  | _ => false

/-- The tags of elements of a page that have no content. -/
def bareTags : List (List Char) := ["br".toList, "hr".toList, "img".toList, "input".toList]

/-- The keys of attributes of a page. -/
def pageKeys : List AttributeKey :=
  [.id, .className, .href, .src, .alt, .title, .align, .start, .type, .disabled, .checked,
    .data .footnoteRef, .data .footnoteBackref, .data .footnotes, .other "aria-label".toList]

/-- What the parts of a page can be, given that the nodes of the source fit. -/
structure Admits (fits : Node → Prop) (good : Markup → Prop) : Prop where
  text : ∀ value, good (.leaf value)
  raw : ∀ value, fits (.atom (.html value)) → good (.node (.raw value) [])
  bare : ∀ tag ∈ bareTags, ∀ attrs, attrs.HasKeys pageKeys → good (.element tag attrs [])
  content : ∀ tag ∈ contentTags, ∀ attrs, attrs.HasKeys pageKeys → ∀ inner, Markup.All good inner →
    good (.element tag attrs inner)
  code : ∀ atom, isCode atom = true → fits (.atom atom) → ∀ ds, Markup.All good (atomMarkup ds atom)
  heading : ∀ ds isTight level children calls, fits (.branch (.heading level) children) →
    let inner := (nodesMarkup ds isTight children calls).1
    Markup.All good inner → good (.element (headingTag level) .empty inner)
  paragraph : ∀ attrs inner inner', good (.element "p".toList attrs inner) →
    Markup.All good inner' → good (.element "p".toList attrs inner')

/-! ### Attributes of a page -/

theorem codeAttributes_hasKeys (language : Option (List Char)) :
    (codeAttributes language).HasKeys [.className] := by
  unfold codeAttributes
  split
  · exact .empty
  · exact .empty
  · exact Attributes.HasKeys.empty.set (by decide) _

theorem linkAttributes_hasKeys (url : List Char) (title : Option (List Char)) :
    (linkAttributes url title).HasKeys [.href, .title] :=
  (Attributes.HasKeys.empty.set (by decide) _).setIf (by decide) _

theorem imageAttributes_hasKeys (url alt : List Char) (title : Option (List Char)) :
    (imageAttributes url alt title).HasKeys [.src, .alt, .title] :=
  ((Attributes.HasKeys.empty.set (by decide) _).set (by decide) _).setIf (by decide) _

theorem cellAttributes_hasKeys (alignment : Option Markdown.Alignment) :
    (cellAttributes alignment).HasKeys [.align] :=
  Attributes.HasKeys.empty.setIf (by decide) _

theorem listAttributes_hasKeys (isOrdered : Bool) (start : Option Nat) (nodes : List Node) :
    (listAttributes isOrdered start nodes).HasKeys [.start, .className] := by
  unfold listAttributes
  have hstart : ∀ attrs : Attributes, attrs.HasKeys [.start, .className] →
      (if nodes.any isTaskItem then attrs.set .className "contains-task-list".toList
        else attrs).HasKeys [.start, .className] := by
    intro attrs hattrs
    split
    · exact hattrs.set (by decide) _
    · exact hattrs
  refine hstart _ ?_
  split
  · split
    · exact .empty
    · exact Attributes.HasKeys.empty.set (by decide) _
  · exact .empty

theorem itemAttributes_hasKeys (checked : Option Bool) :
    (itemAttributes checked).HasKeys [.className] := by
  cases checked with
  | none => exact .empty
  | some isChecked => exact Attributes.HasKeys.empty.set (by decide) _

theorem mathAttributes_hasKeys (style : String) :
    (mathAttributes style).HasKeys [.className] :=
  Attributes.HasKeys.empty.set (by decide) _

theorem boxAttributes_hasKeys (isChecked : Bool) :
    (boxAttributes isChecked).HasKeys [.type, .disabled, .checked] := by
  have hbox : Attributes.HasKeys (.ofList [(.type, "checkbox".toList), (.disabled, [])])
      [.type, .disabled, .checked] :=
    .ofList (by decide)
  cases isChecked with
  | false => exact hbox
  | true => exact hbox.set (by decide) _

theorem callAttributes_hasKeys (calls : Calls) (identifier : List Char) :
    (callAttributes calls identifier).HasKeys pageKeys :=
  .ofList (by simp [pageKeys])

theorem backLinkAttributes_hasKeys (anchor : List Char) (number : Nat) :
    (backLinkAttributes anchor number).HasKeys pageKeys :=
  .ofList (by simp [pageKeys])

theorem noteAttributes_hasKeys (anchor : List Char) : (noteAttributes anchor).HasKeys pageKeys :=
  Attributes.HasKeys.empty.set (by decide) _

theorem sectionAttributes_hasKeys : sectionAttributes.HasKeys pageKeys := .ofList (by decide)

/-! ### Parts of a page -/

theorem eq_of_isParagraphMarkup {tree : Markup} (h : isParagraphMarkup tree = true) :
    ∃ attrs inner, tree = .element "p".toList attrs inner := by
  obtain ⟨kind, inner⟩ := tree
  cases kind with
  | element tag attrs =>
    obtain rfl : tag = "p".toList := by simpa [isParagraphMarkup, Markup.kind] using h
    exact ⟨attrs, inner, rfl⟩
  | _ => simp [isParagraphMarkup, Markup.kind] at h

/-- What code and formulas are set as is good if texts are, and elements for code with good
content. -/
theorem all_of_isCode {good : Markup → Prop} (htext : ∀ value, good (.leaf value))
    (helement : ∀ tag ∈ codeTags, ∀ attrs, attrs.HasKeys pageKeys → ∀ inner,
      Markup.All good inner → good (.element tag attrs inner))
    {atom : Atom} (hatom : isCode atom = true) (ds : Definitions) :
    Markup.All good (atomMarkup ds atom) := by
  have hleaf (value : List Char) : Markup.All good [.leaf value] :=
    Markup.All.singleton.2 ⟨htext value, .nil⟩
  have hvalue (value : List Char) : Markup.All good (valueMarkup value) := by
    unfold valueMarkup
    split_ifs
    · exact .nil
    · exact hleaf value
  have hcode {tag : List Char} (htag : tag ∈ codeTags) {attrs : Attributes}
      (hattrs : attrs.HasKeys pageKeys) {inner : List Markup} (hinner : Markup.All good inner) :
      Markup.All good [.element tag attrs inner] :=
    Markup.All.singleton.2 ⟨helement tag htag attrs hattrs inner hinner, hinner⟩
  cases atom with
  | code language remark value place =>
    exact hcode (by decide) .empty (hcode (by decide)
      ((codeAttributes_hasKeys language).mono (by decide)) (hvalue value))
  | math remark value =>
    exact hcode (by decide) .empty
      (hcode (by decide) ((mathAttributes_hasKeys _).mono (by decide)) (hleaf value))
  | inlineCode value => exact hcode (by decide) .empty (hleaf value)
  | inlineMath value =>
    exact hcode (by decide) ((mathAttributes_hasKeys _).mono (by decide)) (hleaf value)
  | _ => simp [isCode] at hatom

namespace Admits

variable {fits : Node → Prop} {good : Markup → Prop} {trees box : List Markup}

/-- What holds of all kinds that a page can have holds of all parts of it. -/
theorem of_kind (good : Kind → Prop) (htext : ∀ value, good (.text value))
    (hraw : ∀ value, fits (.atom (.html value)) → good (.raw value))
    (helement : ∀ tag ∈ contentTags ++ codeTags ++ bareTags, ∀ attrs, attrs.HasKeys pageKeys →
      good (.element tag attrs))
    (hheading : ∀ level children, fits (.branch (.heading level) children) →
      good (.element (headingTag level) .empty)) : Admits fits fun tree ↦ good tree.kind where
  text := htext
  raw := hraw
  bare tag htag attrs hattrs := helement tag (List.mem_append_right _ htag) attrs hattrs
  content tag htag attrs hattrs _ _ :=
    helement tag (List.mem_append_left _ (List.mem_append_left _ htag)) attrs hattrs
  code _ hatom _ ds := all_of_isCode htext (fun tag htag attrs hattrs _ _ ↦
    helement tag (List.mem_append_left _ (List.mem_append_right _ htag)) attrs hattrs) hatom ds
  heading _ _ level children _ hfits _ := hheading level children hfits
  paragraph _ _ _ h _ := h

theorem all_text (h : Admits fits good) (value : List Char) : Markup.All good [.leaf value] :=
  Markup.All.singleton.2 ⟨h.text value, .nil⟩

theorem all_bare (h : Admits fits good) {tag : List Char} (htag : tag ∈ bareTags)
    {attrs : Attributes} (hattrs : attrs.HasKeys pageKeys) :
    Markup.All good [.element tag attrs []] :=
  Markup.All.singleton.2 ⟨h.bare tag htag attrs hattrs, .nil⟩

theorem all_content (h : Admits fits good) {tag : List Char} (htag : tag ∈ contentTags)
    {attrs : Attributes} (hattrs : attrs.HasKeys pageKeys) (htrees : Markup.All good trees) :
    Markup.All good [.element tag attrs trees] :=
  Markup.All.singleton.2 ⟨h.content tag htag attrs hattrs trees htrees, htrees⟩

theorem followingMarkup (h : Admits fits good) (htrees : Markup.All good trees) :
    Markup.All good (followingMarkup trees) := by
  induction trees with
  | nil => exact .nil
  | cons tree rest ih =>
    rw [Markup.All.cons] at htrees
    exact Markup.All.cons.2 ⟨⟨h.text _, .nil⟩, Markup.All.cons.2 ⟨htrees.1, ih htrees.2⟩⟩

theorem linesMarkup (h : Admits fits good) (htrees : Markup.All good trees) :
    Markup.All good (linesMarkup trees) := by
  cases trees with
  | nil => exact .nil
  | cons tree rest =>
    rw [Markup.All.cons] at htrees
    exact Markup.All.cons.2 ⟨htrees.1, h.followingMarkup htrees.2⟩

theorem enclosedMarkup (h : Admits fits good) (htrees : Markup.All good trees) :
    Markup.All good (enclosedMarkup trees) := by
  cases trees with
  | nil => exact h.all_text _
  | cons tree rest =>
    have hlines := h.followingMarkup htrees
    exact Markup.All.append.2 ⟨hlines, h.all_text _⟩

theorem edgeMarkup (h : Admits fits good) (isNeeded : Bool) :
    Markup.All good (edgeMarkup isNeeded) := by
  cases isNeeded with
  | false => exact .nil
  | true => exact h.all_text _

theorem filledMarkup (h : Admits fits good) (isLoose : Bool) {tree : Markup}
    (hbox : Markup.All good box) (htree : Markup.All good [tree]) :
    Markup.All good (filledMarkup (isParagraphMarkup tree) isLoose box tree) := by
  unfold Typeset.filledMarkup
  split_ifs with hparagraph
  · obtain ⟨attrs, inner, rfl⟩ := eq_of_isParagraphMarkup hparagraph
    rw [Markup.All.singleton] at htree ⊢
    have hinner := Markup.All.append.2 ⟨hbox, htree.2⟩
    exact ⟨h.paragraph attrs inner _ htree.1 hinner, hinner⟩
  · exact Markup.All.append.2 ⟨hbox, (Markup.All.singleton.1 htree).2⟩
  · exact Markup.All.append.2 ⟨hbox, htree⟩

theorem blocksMarkup (h : Admits fits good) (isLoose isFirst : Bool) (hbox : Markup.All good box)
    (htrees : Markup.All good trees) :
    Markup.All good (blocksMarkup isLoose isFirst box trees) := by
  induction trees generalizing isFirst box with
  | nil => exact hbox
  | cons tree rest ih =>
    rw [Markup.All.cons, ← Markup.All.singleton] at htrees
    have hblock := h.filledMarkup isLoose hbox htrees.1
    rw [Typeset.blocksMarkup, blockMarkup, Markup.All.append, Markup.All.append, Markup.All.append]
    exact ⟨⟨⟨h.edgeMarkup _, hblock⟩, h.edgeMarkup _⟩, ih false .nil htrees.2⟩

theorem boxMarkup (h : Admits fits good) (checked : Option Bool) :
    Markup.All good (boxMarkup checked) := by
  cases checked with
  | none => exact .nil
  | some isChecked =>
    exact Markup.All.append.2
      ⟨h.all_bare (by decide) ((boxAttributes_hasKeys isChecked).mono (by decide)),
        h.all_text [' ']⟩

theorem backLinkedMarkup (h : Admits fits good) {link : Markup} (hlink : Markup.All good [link])
    (htrees : Markup.All good trees) : Markup.All good (backLinkedMarkup link trees) := by
  rcases List.eq_nil_or_concat trees with rfl | ⟨front, last, rfl⟩
  · exact hlink
  · rw [List.concat_eq_append, Markup.All.append] at htrees
    simp only [Typeset.backLinkedMarkup, List.concat_eq_append, List.getLast?_concat,
      List.dropLast_concat]
    split_ifs with hparagraph
    · obtain ⟨attrs, inner, rfl⟩ := eq_of_isParagraphMarkup hparagraph
      have hlast := Markup.All.singleton.1 htrees.2
      have hinner := Markup.All.append.2
        ⟨hlast.2, Markup.All.append.2 ⟨h.all_text [' '], hlink⟩⟩
      exact Markup.All.append.2 ⟨htrees.1, Markup.All.singleton.2
        ⟨h.paragraph attrs inner _ hlast.1 hinner, hinner⟩⟩
    · exact Markup.All.append.2 ⟨Markup.All.append.2 htrees, hlink⟩

theorem atomMarkup (h : Admits fits good) (ds : Definitions) {atom : Atom}
    (hatom : fits (.atom atom)) : Markup.All good (atomMarkup ds atom) := by
  cases atom with
  | text value => exact h.all_text value
  | html value => exact Markup.All.singleton.2 ⟨h.raw value hatom, .nil⟩
  | code language remark value place => exact h.code _ rfl hatom ds
  | math remark value => exact h.code _ rfl hatom ds
  | inlineCode value => exact h.code _ rfl hatom ds
  | inlineMath value => exact h.code _ rfl hatom ds
  | hardBreak => exact Markup.All.append.2 ⟨h.all_bare (by decide) .empty, h.all_text ['\n']⟩
  | thematicBreak => exact h.all_bare (by decide) .empty
  | image url title alt =>
    exact h.all_bare (by decide) ((imageAttributes_hasKeys url alt title).mono (by decide))
  | imageReference style reference alt =>
    cases hlink : ds.link? reference.identifier with
    | none =>
      simp only [Typeset.atomMarkup, hlink]
      exact h.all_text _
    | some target =>
      simp only [Typeset.atomMarkup, hlink]
      exact h.all_bare (by decide)
        ((imageAttributes_hasKeys target.url alt target.title).mono (by decide))
  | footnoteReference reference => exact h.all_text _
  | _ => exact .nil

theorem calledMarkup (h : Admits fits good) (ds : Definitions) {atom : Atom}
    (hatom : fits (.atom atom)) (calls : Calls) :
    Markup.All good (calledMarkup ds atom calls).1 := by
  unfold Typeset.calledMarkup
  split
  · split
    · exact h.all_content (by decide) .empty
        (h.all_content (by decide) (callAttributes_hasKeys _ _) (h.all_text _))
    · exact h.atomMarkup ds hatom
  · exact h.atomMarkup ds hatom

theorem sectionsMarkup (h : Admits fits good) {rows : List Markup} (htrees : Markup.All good trees)
    (hrows : Markup.All good rows) : Markup.All good (sectionsMarkup [headMarkup trees] rows) := by
  have hrow := h.all_content (by decide : "tr".toList ∈ contentTags) .empty
    (h.enclosedMarkup htrees)
  have hhead := h.all_content (by decide : "thead".toList ∈ contentTags) .empty
    (h.enclosedMarkup hrow)
  unfold Typeset.sectionsMarkup
  split_ifs
  · exact hhead
  · exact Markup.All.append.2
      ⟨hhead, h.all_content (by decide) .empty (h.enclosedMarkup hrows)⟩

/-- The trees of a node that is not a heading, from good trees of its children. -/
theorem constructMarkup (h : Admits fits good) (ds : Definitions) (isTight : Bool)
    {construct : Construct} (hconstruct : ∀ level, construct ≠ .heading level)
    (nodes : List Node) (htrees : Markup.All good trees) :
    Markup.All good (constructMarkup ds isTight construct nodes trees) := by
  cases construct with
  | heading level => exact absurd rfl (hconstruct level)
  | root => exact htrees
  | component inText name attributes => exact htrees
  | blockquote => exact h.all_content (by decide) .empty (h.enclosedMarkup htrees)
  | link url title =>
    exact h.all_content (by decide) ((linkAttributes_hasKeys url title).mono (by decide)) htrees
  | linkReference style reference =>
    cases hlink : ds.link? reference.identifier with
    | none =>
      simp only [Typeset.constructMarkup, hlink]
      exact Markup.All.append.2
        ⟨Markup.All.cons.2 ⟨⟨h.text ['['], .nil⟩, htrees⟩, h.all_text [']']⟩
    | some target =>
      simp only [Typeset.constructMarkup, hlink]
      exact h.all_content (by decide)
        ((linkAttributes_hasKeys target.url target.title).mono (by decide)) htrees
  | list isOrdered start spread =>
    refine h.all_content ?_ ((listAttributes_hasKeys isOrdered start nodes).mono (by decide))
      (h.enclosedMarkup htrees)
    cases isOrdered <;> decide
  | item checked spread =>
    exact h.all_content (by decide) ((itemAttributes_hasKeys checked).mono (by decide))
      (h.blocksMarkup _ true (h.boxMarkup checked) htrees)
  | table alignments => exact h.all_content (by decide) .empty (h.enclosedMarkup htrees)
  | row => exact .nil
  | cell => exact .nil
  | footnoteDefinition reference => exact .nil
  | _ => exact h.all_content (by decide) .empty htrees

/-! ### Pages -/

/-- A node with children makes good trees if its children do. -/
theorem branchMarkup (h : Admits fits good) {ds : Definitions} {isTight : Bool}
    {construct : Construct} {children : List Node} {calls : Calls}
    (hfits : fits (.branch construct children))
    (hnodes : ∀ isTight, Markup.All good (nodesMarkup ds isTight children calls).1)
    (htable : ∀ alignments, Markup.All good (tableMarkup ds isTight alignments children calls).1) :
    Markup.All good (nodeMarkup ds isTight (.branch construct children) calls).1 := by
  have hconstruct {inner : List Markup} (hnot : ∀ level, construct ≠ .heading level)
      (hinner : Markup.All good inner) := h.constructMarkup ds isTight hnot children hinner
  cases construct with
  | heading level =>
    exact Markup.All.singleton.2
      ⟨h.heading ds isTight level children calls hfits (hnodes isTight), hnodes isTight⟩
  | table alignments => exact hconstruct (by simp) (htable alignments)
  | row => exact .nil
  | cell => exact .nil
  | footnoteDefinition reference => exact .nil
  | _ => exact hconstruct (by simp) (hnodes _)

mutual

theorem nodeMarkup (h : Admits fits good) (ds : Definitions) (isTight : Bool) :
    ∀ (node : Node) (calls : Calls), (∀ lower ∈ node.all, fits lower) →
      Markup.All good (nodeMarkup ds isTight node calls).1
  | .atom atom, calls, hfits => h.calledMarkup ds (hfits _ (Node.mem_all_self _)) calls
  | .branch construct children, calls, hfits =>
    have hbelow : ∀ lower ∈ Node.allIn children, fits lower := fun lower hlower ↦
      hfits lower (by simp [Node.all, hlower])
    h.branchMarkup (hfits _ (Node.mem_all_self _))
      (fun isTight ↦ h.nodesMarkup ds isTight children calls hbelow)
      (fun alignments ↦ h.tableMarkup ds isTight alignments children calls hbelow)

theorem nodesMarkup (h : Admits fits good) (ds : Definitions) (isTight : Bool) :
    ∀ (nodes : List Node) (calls : Calls), (∀ lower ∈ Node.allIn nodes, fits lower) →
      Markup.All good (nodesMarkup ds isTight nodes calls).1
  | [], _, _ => .nil
  | node :: rest, calls, hfits => by
    have hnode := h.nodeMarkup ds isTight node calls fun lower hlower ↦
      hfits lower (by simp [Node.allIn, hlower])
    have hrest := h.nodesMarkup ds isTight rest (Typeset.nodeMarkup ds isTight node calls).2
      fun lower hlower ↦ hfits lower (by simp [Node.allIn, hlower])
    exact Markup.All.append.2 ⟨hnode, hrest⟩

theorem tableMarkup (h : Admits fits good) (ds : Definitions) (isTight : Bool)
    (alignments : List (Option Markdown.Alignment)) :
    ∀ (nodes : List Node) (calls : Calls), (∀ lower ∈ Node.allIn nodes, fits lower) →
      Markup.All good (tableMarkup ds isTight alignments nodes calls).1
  | [], _, _ => .nil
  | .atom _ :: rest, calls, hfits =>
    h.tableMarkup ds isTight alignments rest calls fun lower hlower ↦
      hfits lower (by simp [Node.allIn, hlower])
  | .branch construct children :: rest, calls, hfits => by
    have hbelow : ∀ lower ∈ Node.allIn children, fits lower := fun lower hlower ↦
      hfits lower (by simp [Node.allIn, Node.all, hlower])
    have hafter : ∀ lower ∈ Node.allIn rest, fits lower := fun lower hlower ↦
      hfits lower (by simp [Node.allIn, hlower])
    have hrest := h.tableMarkup ds isTight alignments rest calls hafter
    cases construct with
    | row =>
      have hcells := h.cellsMarkup ds isTight (by decide : "th".toList ∈ contentTags) alignments
        children calls hbelow
      have hrows := fun calls ↦ h.rowsMarkup ds isTight alignments rest calls hafter
      exact h.sectionsMarkup hcells (hrows _)
    | _ => exact hrest

theorem rowsMarkup (h : Admits fits good) (ds : Definitions) (isTight : Bool)
    (alignments : List (Option Markdown.Alignment)) :
    ∀ (nodes : List Node) (calls : Calls), (∀ lower ∈ Node.allIn nodes, fits lower) →
      Markup.All good (rowsMarkup ds isTight alignments nodes calls).1
  | [], _, _ => .nil
  | .atom _ :: rest, calls, hfits =>
    h.rowsMarkup ds isTight alignments rest calls fun lower hlower ↦
      hfits lower (by simp [Node.allIn, hlower])
  | .branch construct children :: rest, calls, hfits => by
    have hbelow : ∀ lower ∈ Node.allIn children, fits lower := fun lower hlower ↦
      hfits lower (by simp [Node.allIn, Node.all, hlower])
    have hafter : ∀ lower ∈ Node.allIn rest, fits lower := fun lower hlower ↦
      hfits lower (by simp [Node.allIn, hlower])
    have hrest := fun calls ↦ h.rowsMarkup ds isTight alignments rest calls hafter
    cases construct with
    | row =>
      have hcells := h.cellsMarkup ds isTight (by decide : "td".toList ∈ contentTags) alignments
        children calls hbelow
      have hrow := h.all_content (by decide : "tr".toList ∈ contentTags) .empty
        (h.enclosedMarkup hcells)
      exact Markup.All.append.2 ⟨hrow, hrest _⟩
    | _ => exact hrest calls

theorem cellsMarkup (h : Admits fits good) (ds : Definitions) (isTight : Bool) {tag : List Char}
    (htag : tag ∈ contentTags) :
    ∀ (alignments : List (Option Markdown.Alignment)) (nodes : List Node) (calls : Calls),
      (∀ lower ∈ Node.allIn nodes, fits lower) →
        Markup.All good (cellsMarkup ds isTight tag alignments nodes calls).1
  | _, [], _, _ => .nil
  | alignments, .atom _ :: rest, calls, hfits =>
    h.cellsMarkup ds isTight htag alignments.tail rest calls fun lower hlower ↦
      hfits lower (by simp [Node.allIn, hlower])
  | alignments, .branch construct children :: rest, calls, hfits => by
    have hbelow : ∀ lower ∈ Node.allIn children, fits lower := fun lower hlower ↦
      hfits lower (by simp [Node.allIn, Node.all, hlower])
    have hafter : ∀ lower ∈ Node.allIn rest, fits lower := fun lower hlower ↦
      hfits lower (by simp [Node.allIn, hlower])
    have hrest := fun calls ↦ h.cellsMarkup ds isTight htag alignments.tail rest calls hafter
    cases construct with
    | cell =>
      have hinner := h.nodesMarkup ds isTight children calls hbelow
      have hcell := h.all_content htag
        ((cellAttributes_hasKeys alignments.head?.join).mono (by decide)) hinner
      exact Markup.All.append.2 ⟨hcell, hrest _⟩
    | _ => exact hrest calls

end

theorem noteMarkup (h : Admits fits good) (identifier : List Char) (number : Nat)
    (htrees : Markup.All good trees) :
    Markup.All good [noteMarkup identifier number trees] := by
  have hlink := h.all_content (by decide : "a".toList ∈ contentTags)
    (backLinkAttributes_hasKeys (noteAnchor identifier number) number) (h.all_text ['↩'])
  exact h.all_content (by decide) (noteAttributes_hasKeys _)
    (h.enclosedMarkup (h.backLinkedMarkup hlink htrees))

variable {tree : Node}

theorem notesMarkup (h : Admits fits good) (hfits : ∀ lower ∈ tree.all, fits lower) :
    ∀ (fuel index : Nat) (calls : Calls),
      Markup.All good (notesMarkup (.ofNode tree) fuel index calls).1
  | 0, _, _ => .nil
  | fuel + 1, index, calls => by
    have hrest := h.notesMarkup hfits fuel (index + 1)
    cases hcall : calls.order[index]? with
    | none =>
      simp only [Typeset.notesMarkup, hcall]
      exact .nil
    | some identifier =>
      cases hnote : (Definitions.ofNode tree).footnote? identifier with
      | none =>
        simp only [Typeset.notesMarkup, hcall, hnote]
        exact hrest calls
      | some children =>
        have hblocks := h.nodesMarkup (.ofNode tree) false children calls fun lower hlower ↦
          hfits lower (Definitions.allIn_subset_of_footnote? hnote hlower)
        simp only [Typeset.notesMarkup, hcall, hnote]
        exact Markup.All.append.2 ⟨h.noteMarkup identifier (index + 1) hblocks, hrest _⟩

theorem sectionMarkup (h : Admits fits good) (hfits : ∀ lower ∈ tree.all, fits lower)
    (calls : Calls) : Markup.All good (sectionMarkup (.ofNode tree) calls).1 := by
  have hnotes := h.notesMarkup hfits (Definitions.ofNode tree).footnotes.length 0 calls
  have hlist := h.all_content (by decide : "ol".toList ∈ contentTags) .empty
    (h.enclosedMarkup hnotes)
  unfold Typeset.sectionMarkup
  split_ifs
  · exact .nil
  · exact Markup.All.append.2 ⟨h.all_text ['\n'],
      h.all_content (by decide) sectionAttributes_hasKeys (h.enclosedMarkup hlist)⟩

/-- Every tree in a page is good if the parts that a page can have are. -/
theorem pageMarkup (h : Admits fits good) (hfits : ∀ lower ∈ tree.all, fits lower) :
    Markup.All good (pageMarkup tree) := by
  have htop : ∀ lower ∈ Node.allIn (topNodes tree), fits lower := by
    intro lower hlower
    cases tree with
    | atom value => exact hfits lower (by simpa [topNodes, Node.allIn] using hlower)
    | branch construct children =>
      exact hfits lower (by simpa [Node.all] using .inr hlower)
  have hblocks := h.nodesMarkup (.ofNode tree) false (topNodes tree) {} htop
  exact Markup.All.append.2 ⟨h.linesMarkup hblocks, h.sectionMarkup hfits _⟩

end Admits

end Galley.Typeset
