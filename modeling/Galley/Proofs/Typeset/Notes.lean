import Galley.Proofs.Html.Query
import Galley.Proofs.Typeset.Calls
import Galley.Proofs.Typeset.Shown

/-!
The notes of a page. The loop that sets them ends (`setNotes_sets`), although notes may call further
notes and even themselves, because no footnote is numbered twice: with `order` the footnotes that
are called in the end, a page is its text followed by one note for each of them (`exists_isOrder`).
What is read of such a page apart from its content is read of its links and notes alone, which are
listed by `marks` (`ReadsNotes.gather_pageMarkup`).
-/

set_option autoImplicit false
set_option relaxedAutoImplicit false

namespace Galley.Typeset

open Html Markdown

/-! ### Calls -/

/-- The footnote that a node without children calls. -/
def call? (ds : Definitions) : Atom → Option (List Char)
  | .footnoteReference reference =>
    if (ds.footnote? reference.identifier).isSome then some reference.identifier else none
  | _ => none

/-- The footnotes that nodes call, in order. -/
def callsIn (ds : Definitions) (nodes : List Node) : List (List Char) :=
  (shownAll nodes).filterMap (call? ds)

/-- The footnotes that a note calls. -/
def noteCalls (ds : Definitions) (identifier : List Char) : List (List Char) :=
  callsIn ds ((ds.footnote? identifier).getD [])

variable {ds : Definitions} {called : List (List Char)}

/-- All footnotes that are called are defined. -/
def AllDefined (ds : Definitions) (called : List (List Char)) : Prop :=
  ∀ identifier ∈ called, (ds.footnote? identifier).isSome = true

theorem allDefined_callsIn (ds : Definitions) (nodes : List Node) :
    AllDefined ds (callsIn ds nodes) := by
  intro identifier hmem
  obtain ⟨atom, -, hcall⟩ := List.mem_filterMap.1 hmem
  cases atom with
  | footnoteReference reference =>
    obtain ⟨hdefined, rfl⟩ : _ ∧ reference.identifier = identifier := by simpa [call?] using hcall
    exact hdefined
  | _ => simp [call?] at hcall

theorem AllDefined.append (h : AllDefined ds called) (nodes : List Node) :
    AllDefined ds (called ++ callsIn ds nodes) := fun identifier hmem ↦
  (List.mem_append.1 hmem).elim (h identifier) (allDefined_callsIn ds nodes identifier)

/-- No more footnotes are numbered than are defined. -/
theorem AllDefined.length_order_le (h : AllDefined ds called) :
    (Calls.of called).order.length ≤ ds.footnotes.length := by
  have hsubset : (Calls.of called).order ⊆ ds.footnotes.map Prod.fst := by
    intro identifier hmem
    obtain ⟨content, hcontent⟩ :=
      Option.isSome_iff_exists.1 (h identifier (Calls.mem_order_of.1 hmem))
    exact List.mem_map_of_mem (Definitions.mem_of_footnote? hcontent)
  simpa using ((Calls.nodup_order_of called).subperm hsubset).length_le

theorem filterMap_cons_eq_append {α β : Type} (f : α → Option β) (first : α) (rest : List α) :
    (first :: rest).filterMap f = (f first).toList ++ rest.filterMap f := by
  cases hfirst : f first <;> simp [hfirst]

theorem calls_atomsMarkup (ds : Definitions) (atoms : List Atom) (calls : Calls) :
    (atomsMarkup ds atoms calls).2 = (atoms.filterMap (call? ds)).foldl Calls.add calls := by
  induction atoms generalizing calls with
  | nil => rfl
  | cons atom rest ih =>
    have hatom : (calledMarkup ds atom calls).2 = (call? ds atom).toList.foldl Calls.add calls := by
      cases atom with
      | footnoteReference reference =>
        cases hnote : ds.footnote? reference.identifier <;> simp [calledMarkup, call?, hnote]
      | _ => rfl
    simp only [atomsMarkup, ih, hatom, filterMap_cons_eq_append, List.foldl_append]

theorem calls_nodesMarkup (ds : Definitions) (isTight : Bool) (nodes : List Node)
    (called : List (List Char)) :
    (nodesMarkup ds isTight nodes (.of called)).2 = .of (called ++ callsIn ds nodes) := by
  have hread : IsContent fun _ ↦ (none : Option Unit) :=
    ⟨fun _ ↦ rfl, fun _ ↦ rfl, fun _ _ _ _ _ ↦ rfl⟩
  rw [(hread.shows_nodes ds isTight nodes (.of called)).2, calls_atomsMarkup, Calls.foldl_add_of]
  rfl

/-! ### The loop -/

/-- The notes for the given footnotes, numbered from `number` on, after the given calls. -/
def notesOf (ds : Definitions) (number : Nat) (called : List (List Char)) :
    List (List Char) → List Markup
  | [] => []
  | identifier :: rest =>
    noteMarkup identifier number
        (nodesMarkup ds false ((ds.footnote? identifier).getD []) (.of called)).1 ::
      notesOf ds (number + 1) (called ++ noteCalls ds identifier) rest

/-- With as many rounds as footnotes are defined, the loop sets one note for each footnote that is
called from the given index on, those included that are called in these notes. -/
theorem exists_notesMarkup_eq (fuel index : Nat) (called : List (List Char))
    (hdefined : AllDefined ds called) (hindex : index ≤ (Calls.of called).order.length)
    (hfuel : ds.footnotes.length ≤ index + fuel) : ∃ rest,
      (Calls.of (called ++ rest.flatMap (noteCalls ds))).order =
          (Calls.of called).order.take index ++ rest ∧
        notesMarkup ds fuel index (.of called) = (notesOf ds (index + 1) called rest,
          .of (called ++ rest.flatMap (noteCalls ds))) := by
  have hbound := hdefined.length_order_le
  induction fuel generalizing index called with
  | zero =>
    refine ⟨[], ?_, by simp [notesMarkup, notesOf]⟩
    rw [List.take_of_length_le (by omega)]
    simp
  | succ fuel ih =>
    rw [notesMarkup]
    cases hcall : (Calls.of called).order[index]? with
    | none =>
      refine ⟨[], ?_, by simp [notesOf]⟩
      rw [List.take_of_length_le (List.getElem?_eq_none_iff.1 hcall)]
      simp
    | some identifier =>
      have hmem : identifier ∈ called := Calls.mem_order_of.1 (List.mem_of_getElem? hcall)
      obtain ⟨content, hcontent⟩ := Option.isSome_iff_exists.1 (hdefined identifier hmem)
      have hnote : noteCalls ds identifier = callsIn ds content := by simp [noteCalls, hcontent]
      have hmore := hdefined.append content
      obtain ⟨more, horder⟩ := Calls.order_of_prefix called (callsIn ds content)
      have hlt := (List.getElem?_eq_some_iff.1 hcall).1
      have hnext : index + 1 ≤ (Calls.of (called ++ callsIn ds content)).order.length := by
        rw [← horder, List.length_append]
        omega
      obtain ⟨rest, hrest, hrun⟩ := ih (index + 1) (called ++ callsIn ds content) hmore hnext
        (by omega) hmore.length_order_le
      have htake : (Calls.of (called ++ callsIn ds content)).order.take (index + 1) =
          (Calls.of called).order.take index ++ [identifier] := by
        rw [← horder, List.take_append_of_le_length hlt, List.take_add_one, hcall]
        rfl
      refine ⟨identifier :: rest, ?_, ?_⟩
      · rw [List.flatMap_cons, hnote, ← List.append_assoc, hrest, htake, List.append_assoc,
          List.singleton_append]
      · simp only [hcontent, calls_nodesMarkup, hrun, notesOf, List.flatMap_cons, hnote,
          Option.getD_some, List.append_assoc]

/-- The loop that sets notes, without a bound on its rounds: it goes on from the given index as long
as a footnote was called that has this index in the order. -/
inductive SetsNotes (ds : Definitions) : Nat → Draft → List NodeId → Draft → Prop
  | stop {index : Nat} {draft : Draft} (hcall : draft.calls.order[index]? = none) :
      SetsNotes ds index draft [] draft
  | skip {index : Nat} {draft final : Draft} {identifier : List Char} {ids : List NodeId}
      (hcall : draft.calls.order[index]? = some identifier)
      (hnote : ds.footnote? identifier = none) (hrest : SetsNotes ds (index + 1) draft ids final) :
      SetsNotes ds index draft ids final
  | note {index : Nat} {draft next final : Draft} {identifier : List Char} {content : List Node}
      {note ids : List NodeId} (hcall : draft.calls.order[index]? = some identifier)
      (hnote : ds.footnote? identifier = some content)
      (hset : (do
        let blocks ← setNodes ds false content
        setNote identifier (index + 1) blocks : Setting (List NodeId)).run draft = (note, next))
      (hrest : SetsNotes ds (index + 1) next ids final) :
      SetsNotes ds index draft (note ++ ids) final

/-- A note makes the calls of what it holds. -/
theorem run_setNote (ds : Definitions) (content : List Node) (identifier : List Char)
    (number : Nat) {draft : Draft} (hcalls : draft.calls = .of called) : ∃ note next,
      (do
        let blocks ← setNodes ds false content
        setNote identifier number blocks : Setting (List NodeId)).run draft = (note, next) ∧
          next.calls = .of (called ++ callsIn ds content) := by
  obtain ⟨note, doc, hrun, -⟩ := (setNodes_makes ds false content).bind
    (f := fun blocks ↦ [noteMarkup identifier number blocks]) (fun _ _ ↦ setNote_turns) draft
  refine ⟨note, _, hrun, ?_⟩
  rw [hcalls]
  exact calls_nodesMarkup ds false content called

/-- With as many rounds as footnotes are defined, the loop comes to its end. -/
theorem setNotes_sets (fuel index : Nat) (draft : Draft) (hcalls : draft.calls = .of called)
    (hdefined : AllDefined ds called) (hfuel : ds.footnotes.length ≤ index + fuel) :
    SetsNotes ds index draft ((setNotes ds fuel index).run draft).1
      ((setNotes ds fuel index).run draft).2 := by
  induction fuel generalizing index draft called with
  | zero =>
    refine .stop (List.getElem?_eq_none ?_)
    rw [hcalls]
    exact hdefined.length_order_le.trans hfuel
  | succ fuel ih =>
    cases hcall : draft.calls.order[index]? with
    | none =>
      have hrun : (setNotes ds (fuel + 1) index).run draft = ([], draft) := by
        simp [setNotes, hcall]
        rfl
      rw [hrun]
      exact .stop hcall
    | some identifier =>
      have hmem : identifier ∈ called := by
        rw [hcalls] at hcall
        exact Calls.mem_order_of.1 (List.mem_of_getElem? hcall)
      obtain ⟨content, hcontent⟩ := Option.isSome_iff_exists.1 (hdefined identifier hmem)
      obtain ⟨note, next, hset, hnext⟩ := run_setNote ds content identifier (index + 1) hcalls
      have hrest := ih (index + 1) next hnext (hdefined.append content) (by omega)
      have hrun : (setNotes ds (fuel + 1) index).run draft =
          (note ++ ((setNotes ds fuel (index + 1)).run next).1,
            ((setNotes ds fuel (index + 1)).run next).2) := by
        have hround : (setNotes ds (fuel + 1) index).run draft = (do
            let note ← (do
              let blocks ← setNodes ds false content
              setNote identifier (index + 1) blocks)
            return note ++ (← setNotes ds fuel (index + 1)) : Setting (List NodeId)).run draft := by
          simp [setNotes, hcall, hcontent]
        rw [hround, StateT.run_bind, hset]
        rfl
      rw [hrun]
      exact .note hcall hcontent hset hrest

/-- The footnotes that are called on a page whose notes are for the given ones: those in the text,
and then those in the notes. -/
def pageCalls (tree : Node) (order : List (List Char)) : List (List Char) :=
  let ds := Definitions.ofNode tree
  callsIn ds (topNodes tree) ++ order.flatMap (noteCalls ds)

theorem allDefined_pageCalls (tree : Node) (order : List (List Char)) :
    AllDefined (.ofNode tree) (pageCalls tree order) := by
  intro identifier hmem
  rcases List.mem_append.1 hmem with hbody | hnotes
  · exact allDefined_callsIn _ _ identifier hbody
  · obtain ⟨note, -, hcall⟩ := List.mem_flatMap.1 hnotes
    exact allDefined_callsIn _ _ identifier hcall

/-- The section with the given notes, and nothing if there are none. -/
def sectionOf (notes : List Markup) : List Markup :=
  if notes.isEmpty then []
  else [lineMarkup, .element "section".toList sectionAttributes
    (enclosedMarkup [plain "ol" (enclosedMarkup notes)])]

/-- The given footnotes are those that are called on a page, in the order of their first calls, and
the page has a note for each of them. -/
structure IsOrder (tree : Node) (order : List (List Char)) : Prop where
  order_eq : (Calls.of (pageCalls tree order)).order = order
  page_eq : let ds := Definitions.ofNode tree
    pageMarkup tree = linesMarkup (nodesMarkup ds false (topNodes tree) {}).1 ++
      sectionOf (notesOf ds 1 (callsIn ds (topNodes tree)) order)

theorem exists_isOrder (tree : Node) : ∃ order, IsOrder tree order := by
  have hbody := calls_nodesMarkup (.ofNode tree) false (topNodes tree) []
  rw [Calls.of_nil, List.nil_append] at hbody
  obtain ⟨order, horder, hrun⟩ := exists_notesMarkup_eq _ 0 _
    (allDefined_callsIn (.ofNode tree) (topNodes tree)) (Nat.zero_le _) (Nat.zero_add _).ge
  rw [List.take_zero, List.nil_append] at horder
  refine ⟨order, horder, ?_⟩
  simp only [pageMarkup, hbody, sectionMarkup, hrun]
  congr 1
  cases hempty : (Calls.of (callsIn (.ofNode tree) (topNodes tree))).order with
  | nil =>
    have hnotes : notesOf (.ofNode tree) 1 (callsIn (.ofNode tree) (topNodes tree)) order = [] := by
      refine (congrArg Prod.fst hrun).symm.trans ?_
      cases (Definitions.ofNode tree).footnotes.length <;> simp [notesMarkup, hempty]
    rw [hnotes]
    rfl
  | cons first others =>
    obtain ⟨rest, hrest⟩ := Calls.order_of_prefix (callsIn (.ofNode tree) (topNodes tree))
      (order.flatMap (noteCalls (.ofNode tree)))
    have hcons : order = first :: (others ++ rest) := by
      rw [← horder, ← hrest, hempty, List.cons_append]
    rw [hcons]
    rfl

/-! ### Links and notes -/

/-- The link from the last of the calls to its note. -/
def callLink (called : List (List Char)) (identifier : List Char) : Markup :=
  .element "a".toList (callAttributes (.of called) identifier)
    [.leaf (decimal ((Calls.of called).number identifier))]

/-- The links of calls that follow the given ones. -/
def callLinks (called : List (List Char)) : List (List Char) → List Markup
  | [] => []
  | identifier :: rest =>
    callLink (called ++ [identifier]) identifier :: callLinks (called ++ [identifier]) rest

/-- The link from a note to its first call. -/
def backLink (identifier : List Char) (number : Nat) : Markup :=
  .element "a".toList (backLinkAttributes (noteAnchor identifier number) number) [.leaf ['↩']]

/-- The notes for the given footnotes, numbered from `number` on, after the given calls, each with
the links in it. -/
def noteMarks (ds : Definitions) (number : Nat) (called : List (List Char)) :
    List (List Char) → List Markup
  | [] => []
  | identifier :: rest =>
    noteMarkup identifier number
        (nodesMarkup ds false ((ds.footnote? identifier).getD []) (.of called)).1 ::
      callLinks called (noteCalls ds identifier) ++ backLink identifier number ::
        noteMarks ds (number + 1) (called ++ noteCalls ds identifier) rest

/-- The links and notes of a page with notes for the given footnotes. -/
def marks (tree : Node) (order : List (List Char)) : List Markup :=
  let ds := Definitions.ofNode tree
  let body := callsIn ds (topNodes tree)
  callLinks [] body ++ noteMarks ds 1 body order

theorem callLinks_append (called first second : List (List Char)) :
    callLinks called (first ++ second) =
      callLinks called first ++ callLinks (called ++ first) second := by
  induction first generalizing called with
  | nil => simp [callLinks]
  | cons identifier rest ih => simp [callLinks, ih]

/-- Each link follows the calls before it. -/
theorem getElem?_callLinks (called more : List (List Char)) (index : Nat) :
    (callLinks called more)[index]? =
      more[index]?.map fun identifier ↦
        callLink (called ++ more.take (index + 1)) identifier := by
  induction more generalizing called index with
  | nil => rfl
  | cons identifier rest ih =>
    cases index with
    | zero => simp [callLinks]
    | succ index => simp [callLinks, ih]

theorem exists_of_mem_callLinks {called more : List (List Char)} {mark : Markup}
    (h : mark ∈ callLinks called more) :
    ∃ called identifier, mark = callLink called identifier := by
  obtain ⟨index, hindex⟩ := List.mem_iff_getElem?.1 h
  rw [getElem?_callLinks, Option.map_eq_some_iff] at hindex
  obtain ⟨identifier, -, rfl⟩ := hindex
  exact ⟨_, _, rfl⟩

/-- Each note follows the calls in the text and in the notes before it. -/
theorem getElem?_notesOf (ds : Definitions) (number : Nat) (called order : List (List Char))
    (index : Nat) : (notesOf ds number called order)[index]? =
      order[index]?.map fun identifier ↦ noteMarkup identifier (number + index)
        (nodesMarkup ds false ((ds.footnote? identifier).getD [])
          (.of (called ++ (order.take index).flatMap (noteCalls ds)))).1 := by
  induction order generalizing number called index with
  | nil => rfl
  | cons identifier rest ih =>
    cases index with
    | zero => simp [notesOf]
    | succ index => simp [notesOf, ih, add_assoc, add_comm 1]

theorem length_notesOf (ds : Definitions) (number : Nat) (called order : List (List Char)) :
    (notesOf ds number called order).length = order.length := by
  induction order generalizing number called with
  | nil => rfl
  | cons identifier rest ih => simp [notesOf, ih]

theorem exists_of_mem_notesOf {ds : Definitions} {number : Nat} {called order : List (List Char)}
    {note : Markup} (h : note ∈ notesOf ds number called order) :
    ∃ number identifier blocks, note = noteMarkup identifier number blocks := by
  obtain ⟨index, hindex⟩ := List.mem_iff_getElem?.1 h
  rw [getElem?_notesOf, Option.map_eq_some_iff] at hindex
  obtain ⟨identifier, -, rfl⟩ := hindex
  exact ⟨_, _, _, rfl⟩

/-- The links from the notes for given footnotes back to their first calls. -/
def backLinks (number : Nat) (order : List (List Char)) : List Markup :=
  order.mapIdx fun index identifier => backLink identifier (number + index)

theorem exists_of_mem_backLinks {number : Nat} {order : List (List Char)} {mark : Markup}
    (h : mark ∈ backLinks number order) :
    ∃ number identifier, mark = backLink identifier number := by
  obtain ⟨index, hindex, rfl⟩ := List.mem_mapIdx.1 h
  exact ⟨_, _, rfl⟩

theorem backLinks_cons (number : Nat) (identifier : List Char) (rest : List (List Char)) :
    backLinks number (identifier :: rest) =
      backLink identifier number :: backLinks (number + 1) rest := by
  simp [backLinks, List.mapIdx_cons, add_assoc, add_comm 1]

/-- A reading of links reads them in the order of the calls. -/
theorem filterMap_noteMarks_of_links {α : Type} {read : Markup → Option α}
    (hnote : ∀ identifier number blocks, read (noteMarkup identifier number blocks) = none)
    (hback : ∀ identifier number, read (backLink identifier number) = none)
    (ds : Definitions) (number : Nat) (called order : List (List Char)) :
    (noteMarks ds number called order).filterMap read =
      (callLinks called (order.flatMap (noteCalls ds))).filterMap read := by
  induction order generalizing number called with
  | nil => rfl
  | cons identifier rest ih =>
    rw [noteMarks, List.filterMap_append, List.filterMap_cons_none (hnote ..),
      List.filterMap_cons_none (hback ..), ih, List.flatMap_cons, callLinks_append,
      List.filterMap_append]

/-- A reading of links back reads them in the order of the notes. -/
theorem filterMap_noteMarks_of_backLinks {α : Type} {read : Markup → Option α}
    (hnote : ∀ identifier number blocks, read (noteMarkup identifier number blocks) = none)
    (hlink : ∀ called identifier, read (callLink called identifier) = none)
    (ds : Definitions) (number : Nat) (called order : List (List Char)) :
    (noteMarks ds number called order).filterMap read =
      (backLinks number order).filterMap read := by
  have hlinks (called more : List (List Char)) : (callLinks called more).filterMap read = [] :=
    List.filterMap_eq_nil_iff.2 fun mark hmark ↦ by
      obtain ⟨called, identifier, rfl⟩ := exists_of_mem_callLinks hmark
      exact hlink called identifier
  induction order generalizing number called with
  | nil => rfl
  | cons identifier rest ih =>
    rw [noteMarks, List.filterMap_append, List.filterMap_cons_none (hnote ..), hlinks,
      List.nil_append, filterMap_cons_eq_append, ih, backLinks_cons, ← filterMap_cons_eq_append]

/-- The marks in notes are the links in them, the notes and the links back. -/
theorem noteMarks_perm (ds : Definitions) (number : Nat) (called order : List (List Char)) :
    (noteMarks ds number called order).Perm (callLinks called (order.flatMap (noteCalls ds)) ++
      (notesOf ds number called order ++ backLinks number order)) := by
  induction order generalizing number called with
  | nil => exact .refl _
  | cons identifier rest ih =>
    have hrest := Multiset.coe_eq_coe.2 (ih (number + 1) (called ++ noteCalls ds identifier))
    rw [noteMarks, List.flatMap_cons, callLinks_append, notesOf, backLinks_cons,
      ← Multiset.coe_eq_coe]
    simp only [← Multiset.coe_add, ← Multiset.cons_coe, ← Multiset.singleton_add] at hrest ⊢
    rw [hrest]
    abel

/-- The keys that links and notes have and no other parts of a page. -/
def noteKeys : List AttributeKey :=
  [.id, .data .footnoteRef, .data .footnoteBackref, .data .footnotes]

/-- A reading gives nothing for what has none of the keys of links and notes. -/
def ReadsNotes {α : Type} (read : Markup → Option α) : Prop :=
  ∀ tree : Markup, (∀ key ∈ noteKeys, tree.attribute? key = none) → read tree = none

namespace ReadsNotes

variable {α : Type} {read : Markup → Option α}

theorem element (h : ReadsNotes read) {keys : List AttributeKey}
    (hkeys : ∀ key ∈ noteKeys, key ∉ keys) (tag : List Char) {attrs : Attributes}
    (hattrs : attrs.HasKeys keys) (inner : List Markup) :
    read (.element tag attrs inner) = none :=
  h _ fun key hkey ↦ hattrs.get?_eq_none (hkeys key hkey)

theorem isContent (h : ReadsNotes read) : IsContent read where
  text _ := h _ fun _ _ ↦ rfl
  box isChecked := h.element (by decide) _ (boxAttributes_hasKeys isChecked) []
  wrapper tag _ _ hattrs inner := h.element (by decide) tag hattrs inner

theorem gather_element (h : ReadsNotes read) {keys : List AttributeKey}
    (hkeys : ∀ key ∈ noteKeys, key ∉ keys) (tag : List Char) {attrs : Attributes}
    (hattrs : attrs.HasKeys keys) (inner : List Markup) :
    Markup.gather read [.element tag attrs inner] = Markup.gather read inner :=
  Markup.gather_singleton_of_none (h.element hkeys tag hattrs inner)

theorem gather_plain (h : ReadsNotes read) (tag : String) (inner : List Markup) :
    Markup.gather read [plain tag inner] = Markup.gather read inner := by
  have hkeys : ∀ key ∈ noteKeys, key ∉ ([] : List AttributeKey) := by simp
  exact h.gather_element hkeys tag.toList .empty inner

theorem gather_atomMarkup (h : ReadsNotes read) (ds : Definitions) (atom : Atom) :
    Markup.gather read (atomMarkup ds atom) = [] := by
  have htext (value : List Char) : Markup.gather read [.leaf value] = [] :=
    h.isContent.gather_text value
  cases atom with
  | text value => exact htext value
  | html value => exact Markup.gather_singleton_of_none (h _ fun _ _ ↦ rfl)
  | code language remark value place =>
    rw [atomMarkup, h.gather_plain,
      h.gather_element (by decide) _ (codeAttributes_hasKeys language)]
    unfold valueMarkup
    split_ifs
    · rfl
    · exact htext value
  | math remark value =>
    rw [atomMarkup, h.gather_plain, h.gather_element (by decide) _ (mathAttributes_hasKeys _),
      htext]
  | inlineCode value => rw [atomMarkup, h.gather_plain, htext]
  | inlineMath value =>
    rw [atomMarkup, h.gather_element (by decide) _ (mathAttributes_hasKeys _), htext]
  | hardBreak => rw [atomMarkup, Markup.gather_cons, h.gather_plain, htext]; rfl
  | thematicBreak => rw [atomMarkup, h.gather_plain]; rfl
  | image url title alt =>
    rw [atomMarkup, h.gather_element (by decide) _ (imageAttributes_hasKeys url alt title)]; rfl
  | imageReference style reference alt =>
    cases hlink : ds.link? reference.identifier with
    | none =>
      simp only [atomMarkup, hlink]
      exact htext _
    | some target =>
      simp only [atomMarkup, hlink]
      rw [h.gather_element (by decide) _ (imageAttributes_hasKeys target.url alt target.title)]; rfl
  | footnoteReference reference => exact htext _
  | _ => rfl

/-- From a node without children its link is gathered, if it calls a footnote. -/
theorem gather_calledMarkup (h : ReadsNotes read) (ds : Definitions) (atom : Atom)
    (called : List (List Char)) : Markup.gather read (calledMarkup ds atom (.of called)).1 =
      (callLinks called (call? ds atom).toList).filterMap read := by
  have hatom := h.gather_atomMarkup ds atom
  cases atom with
  | footnoteReference reference =>
    cases hnote : ds.footnote? reference.identifier with
    | none => simpa [calledMarkup, call?, hnote, callLinks] using hatom
    | some content =>
      simp only [calledMarkup, call?, hnote, Option.isSome_some, ↓reduceIte, Option.toList_some,
        callLinks, Calls.add_of, callMarkup]
      rw [h.gather_plain, Markup.gather_singleton, h.isContent.gather_text, List.append_nil]
      cases hread : read (callLink (called ++ [reference.identifier]) reference.identifier) <;>
        simp_all [callLink]
  | _ => simpa [calledMarkup, call?, callLinks] using hatom

/-- From nodes the links of their calls are gathered. -/
theorem gather_nodesMarkup (h : ReadsNotes read) (ds : Definitions) (isTight : Bool)
    (nodes : List Node) (called : List (List Char)) :
    Markup.gather read (nodesMarkup ds isTight nodes (.of called)).1 =
      (callLinks called (callsIn ds nodes)).filterMap read := by
  rw [(h.isContent.shows_nodes ds isTight nodes (.of called)).1, callsIn]
  induction shownAll nodes generalizing called with
  | nil => rfl
  | cons atom rest ih =>
    have hcalls := calls_atomsMarkup ds [atom] (.of called)
    rw [Calls.foldl_add_of, filterMap_cons_eq_append, List.filterMap_nil, List.append_nil] at hcalls
    simp only [atomsMarkup] at hcalls ⊢
    rw [Markup.gather_append, h.gather_calledMarkup, hcalls, ih, filterMap_cons_eq_append,
      callLinks_append, List.filterMap_append]

theorem gather_backLink (h : ReadsNotes read) (identifier : List Char) (number : Nat) :
    Markup.gather read [backLink identifier number] =
      (read (backLink identifier number)).toList := by
  rw [backLink, Markup.gather_singleton, h.isContent.gather_text, List.append_nil]

theorem gather_noteMarkup (h : ReadsNotes read) (identifier : List Char) (number : Nat)
    {blocks : List Markup} (hplain : ParagraphsArePlain blocks) :
    Markup.gather read [noteMarkup identifier number blocks] =
      (read (noteMarkup identifier number blocks)).toList ++ Markup.gather read blocks ++
        (read (backLink identifier number)).toList := by
  rw [noteMarkup, Markup.gather_singleton, h.isContent.gather_enclosedMarkup,
    h.isContent.ignoresWrapping.gather_backLinkedMarkup _ hplain, List.append_assoc,
    ← h.gather_backLink]
  rfl

/-- From notes they and their links are gathered. -/
theorem gather_notesOf (h : ReadsNotes read) (ds : Definitions) (number : Nat)
    (called order : List (List Char)) : Markup.gather read (notesOf ds number called order) =
      (noteMarks ds number called order).filterMap read := by
  induction order generalizing number called with
  | nil => rfl
  | cons identifier rest ih =>
    rw [notesOf, Markup.gather_cons, ih, h.gather_noteMarkup _ _ (.nodesMarkup _ _ _ _),
      h.gather_nodesMarkup, noteMarks, List.cons_append, filterMap_cons_eq_append,
      List.filterMap_append, filterMap_cons_eq_append, noteCalls]
    simp only [List.append_assoc]

/-- From a page its links and notes are gathered, by a reading that gives nothing for the section
around the notes. -/
theorem gather_pageMarkup (h : ReadsNotes read)
    (hsection : ∀ inner, read (.element "section".toList sectionAttributes inner) = none)
    {tree : Node} {order : List (List Char)} (horder : IsOrder tree order) :
    Markup.gather read (pageMarkup tree) = (marks tree order).filterMap read := by
  have hnotes (notes : List Markup) :
      Markup.gather read (sectionOf notes) = Markup.gather read notes := by
    unfold sectionOf
    split_ifs with hempty
    · rw [List.isEmpty_iff.1 hempty]
    · rw [Markup.gather_cons, h.isContent.gather_text, List.nil_append,
        Markup.gather_singleton_of_none (hsection _), h.isContent.gather_enclosedMarkup,
        h.gather_plain, h.isContent.gather_enclosedMarkup]
  rw [horder.page_eq]
  rw [Markup.gather_append, hnotes, h.isContent.gather_linesMarkup, ← Calls.of_nil,
    h.gather_nodesMarkup, h.gather_notesOf, marks, List.filterMap_append]

end ReadsNotes

end Galley.Typeset
