import Galley.Proofs.Footnotes
import Galley.Proofs.Slug

/-!
Addresses of footnotes. The address of a note and those of its calls are made of one name, and the
second and all later calls have their number behind it. So all addresses on a page differ if and
only if no two footnotes have the same name and none has the name of another with the number of one
of its calls (`IsApart`); slugs may well be the same. Where all differ, every link leads where it
should.
-/

set_option autoImplicit false
set_option relaxedAutoImplicit false

namespace Galley

open Html Markdown Typeset

/-! ### Addresses -/

namespace Typeset

theorem noteId_injective : Function.Injective noteId := fun _ _ h ↦ List.append_cancel_left h

theorem callId_injective : Function.Injective callId := fun _ _ h ↦ List.append_cancel_left h

theorem callId_append (anchor rest : List Char) :
    callId (anchor ++ rest) = callId anchor ++ rest :=
  (List.append_assoc _ _ _).symm

/-- A call is addressed as the first one of its name, or with its number. -/
theorem nthCallId_eq (anchor : List Char) (count : Nat) :
    nthCallId anchor count = callId (if count = 1 then anchor else numbered anchor count) := by
  by_cases hcount : count = 1
  · rw [nthCallId, if_pos hcount, if_pos hcount]
  · rw [nthCallId, if_neg hcount, if_neg hcount, numbered, callId_append]
    rfl

/-- No call has the address of a note: they differ before the name starts. -/
theorem nthCallId_ne_noteId (anchor anchor' : List Char) (count : Nat) :
    nthCallId anchor count ≠ noteId anchor' := by
  have hlengths : 16 ≤ "user-content-fnref-".toList.length ∧
      16 ≤ "user-content-fn-".toList.length := by decide
  have hcall (name : List Char) : (callId name).take 16 = "user-content-fnref-".toList.take 16 :=
    List.take_append_of_le_length hlengths.1
  have hnote : (noteId anchor').take 16 = "user-content-fn-".toList.take 16 :=
    List.take_append_of_le_length hlengths.2
  have hne : "user-content-fnref-".toList.take 16 ≠ "user-content-fn-".toList.take 16 := by decide
  intro heq
  rw [nthCallId_eq] at heq
  exact hne ((hcall _).symm.trans (heq ▸ hnote))

/-- The addresses of two calls are the same only if the calls are, or their names are, or one name
is the other with a number. -/
theorem nthCallId_eq_nthCallId {anchor anchor' : List Char} {m n : Nat}
    (h : nthCallId anchor m = nthCallId anchor' n) :
    (anchor = anchor' ∧ m = n) ∨ (m = 1 ∧ n ≠ 1 ∧ anchor = numbered anchor' n) ∨
      (m ≠ 1 ∧ n = 1 ∧ anchor' = numbered anchor m) := by
  rw [nthCallId_eq, nthCallId_eq] at h
  have hname := callId_injective h
  by_cases hm : m = 1
  · by_cases hn : n = 1
    · rw [if_pos hm, if_pos hn] at hname
      exact .inl ⟨hname, hm.trans hn.symm⟩
    · rw [if_pos hm, if_neg hn] at hname
      exact .inr (.inl ⟨hm, hn, hname⟩)
  · by_cases hn : n = 1
    · rw [if_neg hm, if_pos hn] at hname
      exact .inr (.inr ⟨hm, hn, hname.symm⟩)
    · rw [if_neg hm, if_neg hn] at hname
      exact .inl (numbered_eq_numbered hname)

end Typeset

/-! ### When all addresses differ -/

/-- No two footnotes have the same name, and none has the name of another with the number of one of
its calls. -/
def IsApart (order called : List (List Char)) : Prop :=
  ∀ first ∈ order, ∀ second ∈ order, first ≠ second →
    anchorIn order first ≠ anchorIn order second ∧
      ∀ n, 2 ≤ n → n ≤ called.count second →
        anchorIn order first ≠ numbered (anchorIn order second) n

theorem IsApart.nodup_callIds {order called : List (List Char)} (h : IsApart order called)
    (hcalled : ∀ identifier ∈ called, identifier ∈ order) : (callIds order called).Nodup := by
  rw [List.nodup_iff_getElem?_ne_getElem?]
  intro index other hlt hother heq
  rw [callIds, List.length_mapIdx] at hother
  obtain ⟨first, hfirst⟩ : ∃ first, called[index]? = some first :=
    ⟨_, List.getElem?_eq_getElem (hlt.trans hother)⟩
  obtain ⟨second, hsecond⟩ : ∃ second, called[other]? = some second :=
    ⟨_, List.getElem?_eq_getElem hother⟩
  rw [getElem?_callIds order hfirst, getElem?_callIds order hsecond, Option.some.injEq] at heq
  have hpos := countUpTo_pos hfirst
  have hpos' := countUpTo_pos hsecond
  by_cases hsame : first = second
  · subst hsame
    have hcount := countUpTo_lt hsecond hlt
    rcases nthCallId_eq_nthCallId heq with ⟨-, hcounts⟩ | ⟨-, -, hname⟩ | ⟨-, hone, -⟩
    · omega
    · exact numbered_ne_self _ _ hname.symm
    · omega
  · have hfirstOrder := hcalled first (List.mem_of_getElem? hfirst)
    have hsecondOrder := hcalled second (List.mem_of_getElem? hsecond)
    rcases nthCallId_eq_nthCallId heq with ⟨hname, -⟩ | ⟨-, hmany, hname⟩ | ⟨hmany, -, hname⟩
    · exact (h first hfirstOrder second hsecondOrder hsame).1 hname
    · exact (h first hfirstOrder second hsecondOrder hsame).2 _ (by omega)
        (countUpTo_le ..) hname
    · exact (h second hsecondOrder first hfirstOrder (Ne.symm hsame)).2 _ (by omega)
        (countUpTo_le ..) hname

namespace Typeset.IsOrder

variable {tree : Node} {order : List (List Char)}

/-- The addresses on a page all differ if and only if the names of the footnotes are apart. -/
theorem nodup_identifiers_iff (h : IsOrder tree order) :
    (page tree).identifiers.Nodup ↔ IsApart order (pageCalls tree order) := by
  have hperm : (page tree).identifiers.Perm (callIds order (pageCalls tree order) ++
      order.map fun identifier ↦ noteId (anchorIn order identifier)) := h.identifiers_perm
  rw [hperm.nodup_iff, List.nodup_append']
  constructor
  · rintro ⟨hcalls, hnotes, -⟩ first hfirst second hsecond hne
    refine ⟨fun hname ↦ hne ?_, fun n htwo hcount hname ↦ hne ?_⟩
    · exact List.inj_on_of_nodup_map hnotes hfirst hsecond (congrArg noteId hname)
    · obtain ⟨index, hcall, hone⟩ := exists_countUpTo_eq (n := 1) le_rfl
        (List.count_pos_iff.2 (h.mem_order_iff.1 hfirst))
      obtain ⟨other, hother, hn⟩ := exists_countUpTo_eq (by omega) hcount
      have heq : (callIds order (pageCalls tree order))[index]? =
          (callIds order (pageCalls tree order))[other]? := by
        rw [getElem?_callIds order hcall, getElem?_callIds order hother, hone, hn, nthCallId_eq,
          nthCallId_eq, if_pos rfl, if_neg (by omega), hname]
      have hlt : index < (callIds order (pageCalls tree order)).length :=
        (List.getElem?_eq_some_iff.1 (getElem?_callIds order hcall)).1
      obtain rfl : index = other := (List.getElem?_inj hlt hcalls).1 heq
      rw [hcall] at hother
      exact Option.some.inj hother
  · intro hapart
    refine ⟨hapart.nodup_callIds fun identifier hmem ↦ h.mem_order_iff.2 hmem, ?_, ?_⟩
    · refine h.nodup_order.map_on fun first hfirst second hsecond heq ↦ ?_
      by_contra hne
      exact (hapart first hfirst second hsecond hne).1 (noteId_injective heq)
    · intro address hcall hnote
      obtain ⟨identifier, -, rfl⟩ := List.mem_map.1 hnote
      obtain ⟨index, hindex, heq⟩ := List.mem_mapIdx.1 hcall
      exact nthCallId_ne_noteId _ _ _ heq

end Typeset.IsOrder

/-! ### Where links lead -/

/-- The links of a page lead where they should: each call to the note of its footnote only, and each
link back to the first call of its own footnote only. -/
structure LinksLead (tree : Node) (order called : List (List Char)) : Prop where
  toNote : ∀ (index : Nat) (identifier : List Char), called[index]? = some identifier →
    ∃ link item address,
    (page tree).noteLinks[index]? = some link ∧
      (page tree).notes[order.idxOf identifier]? = some item ∧
        (page tree).attribute? link .href = some ('#' :: address) ∧
          ∀ node, (page tree).Reachable node →
            ((page tree).attribute? node .id = some address ↔ node = item)
  toCall : ∀ (index : Nat) (identifier : List Char), order[index]? = some identifier →
    ∃ link call address,
    (page tree).backLinks[index]? = some link ∧
      (page tree).noteLinks[called.idxOf identifier]? = some call ∧
        (page tree).attribute? link .href = some ('#' :: address) ∧
          ∀ node, (page tree).Reachable node →
            ((page tree).attribute? node .id = some address ↔ node = call)

/-- Where the identifiers of a document all differ, each belongs to one node. -/
theorem Html.Document.eq_of_identifier {doc : Document} {trees : List Markup}
    {area : Multiset NodeId} (hspans : doc.Spans [Document.root] trees area) (hnodup : area.Nodup)
    (hids : doc.identifiers.Nodup) {node other : NodeId} (hnode : doc.Reachable node)
    (hother : doc.Reachable other) {address : List Char}
    (hid : doc.attribute? node .id = some address)
    (hid' : doc.attribute? other .id = some address) : node = other := by
  rw [← hspans.mem_nodes_iff hnodup] at hnode hother
  by_contra hne
  obtain ⟨front, back, hnodes⟩ := List.append_of_mem hnode
  rw [identifiers, hnodes, List.filterMap_append, filterMap_cons_eq_append, hid,
    Option.toList_some, List.singleton_append, List.nodup_middle, List.nodup_cons,
    ← List.filterMap_append] at hids
  rw [hnodes, List.mem_append, List.mem_cons] at hother
  have hmem : other ∈ front ++ back := by
    rw [List.mem_append]
    exact hother.imp_right fun h ↦ h.resolve_left (Ne.symm hne)
  exact hids.1 (List.mem_filterMap.2 ⟨other, hmem, hid'⟩)

theorem exists_of_map_eq {α β γ : Type} {first : List α} {second : List β} {f : α → γ} {g : β → γ}
    (h : first.map f = second.map g) {index : Nat} {value : β}
    (hvalue : second[index]? = some value) :
    ∃ found, first[index]? = some found ∧ f found = g value := by
  have hat := congrArg (·[index]?) h
  simp only [List.getElem?_map, hvalue, Option.map_some, Option.map_eq_some_iff] at hat
  exact hat

theorem Html.Document.reachable_of_mem_notes {doc : Document} {id : NodeId}
    (hid : id ∈ doc.notes) : doc.Reachable id := by
  refine reachable_of_mem_select (fun list hlist ↦ ?_) hid
  refine reachable_of_mem_select (fun section' hsection ↦ ?_) hlist
  refine reachable_of_mem_select (fun top htop ↦ ?_) hsection
  obtain rfl := List.mem_singleton.1 htop
  exact .refl

namespace Typeset.IsOrder

variable {tree : Node} {order : List (List Char)}

/-- The notes have the addresses that the calls lead to. -/
theorem id_notes (h : IsOrder tree order) {identifier : List Char} (hmem : identifier ∈ order) :
    ∃ item, (page tree).notes[order.idxOf identifier]? = some item ∧
      (page tree).attribute? item .id = some (noteId (anchorIn order identifier)) := by
  obtain ⟨item, content, below, hitem, -, hspans⟩ := h.spans_note (List.getElem?_idxOf hmem)
  refine ⟨item, hitem, ?_⟩
  rw [hspans.attribute?_eq]
  rfl

/-- The links to notes have the addresses of the calls. -/
theorem ids_noteLinks (h : IsOrder tree order) :
    (page tree).noteLinks.map ((page tree).attribute? · .id) =
      (callIds order (pageCalls tree order)).map some := by
  rw [h.map_noteLinks fun _ _ _ hspans _ ↦ hspans.attribute?_eq .id]
  exact h.map_id_callLinks

/-- Where all addresses on a page differ, its links lead where they should. -/
theorem linksLead (h : IsOrder tree order) (hids : (page tree).identifiers.Nodup) :
    LinksLead tree order (pageCalls tree order) := by
  obtain ⟨area, hspans, hnodup⟩ := page_spans tree
  constructor
  · intro index identifier hcall
    have hmem := h.mem_order_iff.2 (List.mem_of_getElem? hcall)
    obtain ⟨link, hlink, hhref⟩ := exists_of_map_eq h.hrefs_noteLinks hcall
    obtain ⟨item, hitem, hid⟩ := h.id_notes hmem
    have hreach := Document.reachable_of_mem_notes (List.mem_of_getElem? hitem)
    refine ⟨link, item, _, hlink, hitem, hhref, fun node hnode ↦ ⟨fun hsame ↦ ?_, ?_⟩⟩
    · exact Document.eq_of_identifier hspans hnodup hids hnode hreach hsame hid
    · rintro rfl
      exact hid
  · intro index identifier hnote
    have hmem := h.mem_order_iff.1 (List.mem_of_getElem? hnote)
    obtain ⟨link, hlink, hhref⟩ := exists_of_map_eq h.hrefs_backLinks hnote
    obtain ⟨call, hcall, hid⟩ := exists_of_map_eq h.ids_noteLinks
      (getElem?_callIds order (List.getElem?_idxOf hmem))
    rw [countUpTo_idxOf hmem, nthCallId, if_pos rfl] at hid
    have hreach : (page tree).Reachable call :=
      (hspans.mem_nodes_iff hnodup).1 (List.mem_of_mem_filter (List.mem_of_getElem? hcall))
    refine ⟨link, call, _, hlink, hcall, hhref, fun node hnode ↦ ⟨fun hsame ↦ ?_, ?_⟩⟩
    · exact Document.eq_of_identifier hspans hnodup hids hnode hreach hsame hid
    · rintro rfl
      exact hid

end Typeset.IsOrder

/-- The addresses on a page all differ if and only if no two footnotes have the same name and none
has the name of another with the number of one of its calls; then the links lead where they
should. -/
theorem identifiers_differ_iff (tree : Node) : ∃ order called, IsNumbered tree order called ∧
    ((page tree).identifiers.Nodup ↔ IsApart order called) ∧
      ((page tree).identifiers.Nodup → LinksLead tree order called) := by
  obtain ⟨order, h⟩ := exists_isOrder tree
  exact ⟨order, pageCalls tree order, h.isNumbered, h.nodup_identifiers_iff, h.linksLead⟩

/-- Two footnotes whose names are apart, of which one is called again in the note of the other. -/
theorem linksLead_of_two_footnotes :
    let first : Reference := ⟨"a".toList, none⟩
    let second : Reference := ⟨"b".toList, none⟩
    let tree : Node := .branch .root
      [.branch .paragraph [.atom (.footnoteReference first), .atom (.footnoteReference second)],
        .branch (.footnoteDefinition first) [.branch .paragraph [.text "x".toList]],
        .branch (.footnoteDefinition second)
          [.branch .paragraph [.atom (.footnoteReference first)]]]
    ∃ order called, IsNumbered tree order called ∧ (page tree).identifiers.Nodup ∧
      LinksLead tree order called := by
  intro first second tree
  have hnodup : (page tree).identifiers.Nodup := by decide +kernel
  obtain ⟨order, called, hnumbered, -, hlead⟩ := identifiers_differ_iff tree
  exact ⟨order, called, hnumbered, hnodup, hlead hnodup⟩

/-- Two footnotes whose identifiers have the same slug: both notes have one address, and so have
both calls. -/
theorem footnotes_of_one_slug_share_addresses :
    let first : Reference := ⟨"a".toList, none⟩
    let second : Reference := ⟨"a!".toList, none⟩
    let tree : Node := .branch .root
      [.branch .paragraph [.atom (.footnoteReference first), .atom (.footnoteReference second)],
        .branch (.footnoteDefinition first) [.branch .paragraph [.text "x".toList]],
        .branch (.footnoteDefinition second) [.branch .paragraph [.text "y".toList]]]
    (page tree).identifiers =
      ["user-content-fnref-a".toList, "user-content-fnref-a".toList, "user-content-fn-a".toList,
        "user-content-fn-a".toList] := by
  decide +kernel

end Galley
