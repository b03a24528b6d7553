import Galley.Proofs.Html.Span

/-!
What a change to a document touches. `Document.Change before after old new` says that nodes outside
of `old` stay as they are and that `new` is made of nodes of `old`, each at most as often as there,
and of nodes that were added. Changes compose (`Change.trans`), leave trees elsewhere alone
(`Change.spans`) and keep the areas of such trees apart (`Change.nodup_add`). `Document.Adds` is the
case in which nothing that was there is touched.

The operations on documents follow: what each of them leaves at every index, and under which
conditions the checked ones succeed.
-/

set_option autoImplicit false
set_option relaxedAutoImplicit false

namespace Galley.Html.Document

/-- A change that touches nodes of `old` only, after which `new` is made of these and of nodes that
were added. -/
structure Change (before after : Document) (old new : Multiset NodeId) : Prop where
  size_le : before.size ≤ after.size
  kept : ∀ id < before.size, id ∉ old → after.get? id = before.get? id
  new_le : new ≤ old + Multiset.Ico before.size after.size

namespace Change

variable {first second third : Document} {old new new' area : Multiset NodeId}

theorem refl (doc : Document) (area : Multiset NodeId) : Change doc doc area area where
  size_le := le_rfl
  kept _ _ _ := rfl
  new_le := by simp

/-- What was there and is not touched is not part of what a change leaves. -/
theorem notMem (h : Change first second old new) {id : NodeId} (hid : id < first.size)
    (hold : id ∉ old) : id ∉ new := by
  intro hmem
  rcases Multiset.mem_add.1 (Multiset.mem_of_le h.new_le hmem) with hmem | hmem
  · exact hold hmem
  · exact absurd hid (not_lt.2 (Multiset.mem_Ico.1 hmem).1)

theorem trans (h : Change first second old new) (h' : Change second third new new') :
    Change first third old new' where
  size_le := h.size_le.trans h'.size_le
  kept id hid hold := by
    rw [h'.kept id (hid.trans_le h.size_le) (h.notMem hid hold), h.kept id hid hold]
  new_le := calc
    new' ≤ new + Multiset.Ico second.size third.size := h'.new_le
    _ ≤ old + Multiset.Ico first.size second.size + Multiset.Ico second.size third.size := by
      gcongr
      exact h.new_le
    _ = old + Multiset.Ico first.size third.size := by
      rw [add_assoc, Multiset.Ico_add_Ico_eq_Ico h.size_le h'.size_le]

/-- A change may be said to touch more, and to leave what else it touches. -/
theorem add_left (h : Change first second old new) (area : Multiset NodeId) :
    Change first second (area + old) (area + new) where
  size_le := h.size_le
  kept id hid hnot := h.kept id hid fun hold ↦ hnot (Multiset.mem_add.2 (.inr hold))
  new_le := by
    rw [add_assoc]
    gcongr
    exact h.new_le

/-- A change may be said to leave less. -/
theorem mono (h : Change first second old new) (hle : new' ≤ new) :
    Change first second old new' where
  size_le := h.size_le
  kept := h.kept
  new_le := hle.trans h.new_le

/-- A change that touches nothing may be said to touch what it leaves out. -/
theorem of_untouched (h : Change first second 0 new) (area : Multiset NodeId) :
    Change first second area new :=
  (by simpa using h.add_left area : Change first second area (area + new)).mono
    (Multiset.le_add_left new area)

/-- Trees that a change does not touch stay. -/
theorem spans (h : Change first second old new) {ids : List NodeId} {trees : List Markup}
    (hspans : first.Spans ids trees area) (hdisjoint : Disjoint area old) :
    second.Spans ids trees area :=
  hspans.congr fun id hid ↦ h.kept id (hspans.lt_size hid) (Multiset.disjoint_left.1 hdisjoint hid)

/-- What a change leaves stands apart from what it does not touch. -/
theorem nodup_add (h : Change first second old new) (hnodup : (area + old).Nodup)
    (hlt : ∀ id ∈ area + old, id < first.size) : (area + new).Nodup := by
  refine Multiset.nodup_of_le (t := area + old + Multiset.Ico first.size second.size) ?_ ?_
  · rw [add_assoc]
    gcongr
    exact h.new_le
  · refine Multiset.nodup_add.2 ⟨hnodup, Multiset.nodup_Ico, Multiset.disjoint_left.2 ?_⟩
    intro id hid hmem
    exact absurd (hlt id hid) (not_lt.2 (Multiset.mem_Ico.1 hmem).1)

/-- What a change leaves is taken up once if what it touches is. -/
theorem nodup (h : Change first second old new) (hnodup : old.Nodup)
    (hlt : ∀ id ∈ old, id < first.size) : new.Nodup := by
  rw [← zero_add new]
  exact h.nodup_add (by rwa [zero_add]) (by rwa [zero_add])

end Change

/-- Nodes were added that stand for trees. -/
def Adds (before after : Document) (ids : List NodeId) (trees : List Markup) : Prop :=
  ∃ area, after.Spans ids trees area ∧ Change before after 0 area

namespace Adds

variable {first second third : Document} {ids ids' : List NodeId} {trees trees' : List Markup}

theorem append (h : Adds first second ids trees) (h' : Adds second third ids' trees') :
    Adds first third (ids ++ ids') (trees ++ trees') := by
  obtain ⟨area, hspans, hchange⟩ := h
  obtain ⟨area', hspans', hchange'⟩ := h'
  refine ⟨area + area', (hchange'.spans hspans (Multiset.zero_disjoint _).symm).append hspans', ?_⟩
  exact hchange.trans (by simpa using hchange'.add_left area)

theorem nodup {area : Multiset NodeId} (h : Change first second 0 area) : area.Nodup :=
  Multiset.nodup_of_le h.new_le (by simpa using Multiset.nodup_Ico)

end Adds

/-! ### Operations -/

variable {doc : Document} {id other : NodeId}

@[simp] theorem size_alloc (doc : Document) (kind : Kind) :
    (doc.alloc kind).1.size = doc.size + 1 := by
  simp [alloc, size]

@[simp] theorem alloc_snd (doc : Document) (kind : Kind) : (doc.alloc kind).2 = doc.size := rfl

theorem get?_alloc (doc : Document) (kind : Kind) (id : NodeId) :
    (doc.alloc kind).1.get? id = if id = doc.size then some { kind } else doc.get? id := by
  rw [get?, alloc, Array.getElem?_push]
  rfl

theorem children_alloc (doc : Document) (kind : Kind) (id : NodeId) :
    (doc.alloc kind).1.children id = doc.children id := by
  rw [children, children, get?_alloc]
  split_ifs with hid
  · rw [hid, get?_eq_none_iff.2 le_rfl]
  · rfl

@[simp] theorem size_modify (doc : Document) (id : NodeId) (f : Cell → Cell) :
    (doc.modify id f).size = doc.size := by
  simp [modify, size]

theorem get?_modify (doc : Document) (id other : NodeId) (f : Cell → Cell) :
    (doc.modify id f).get? other =
      if id = other then (doc.get? other).map f else doc.get? other := by
  simp [modify, get?, Array.getElem?_modify]

@[simp] theorem size_modifyChildren (doc : Document) (id : NodeId)
    (f : List NodeId → List NodeId) : (doc.modifyChildren id f).size = doc.size :=
  size_modify doc id _

theorem get?_modifyChildren_of_ne (hne : other ≠ id) (f : List NodeId → List NodeId) :
    (doc.modifyChildren id f).get? other = doc.get? other := by
  rw [modifyChildren, get?_modify, if_neg hne.symm]

theorem get?_modifyChildren_self {kind : Kind} {children : List NodeId}
    (hcell : doc.get? id = some ⟨kind, children⟩) (f : List NodeId → List NodeId) :
    (doc.modifyChildren id f).get? id = some ⟨kind, f children⟩ := by
  simp [modifyChildren, get?_modify, hcell]

@[simp] theorem size_setAttributes (doc : Document) (id : NodeId) (attrs : Attributes) :
    (doc.setAttributes id attrs).size = doc.size :=
  size_modify doc id _

theorem get?_setAttributes_of_ne (hne : other ≠ id) (attrs : Attributes) :
    (doc.setAttributes id attrs).get? other = doc.get? other := by
  rw [setAttributes, get?_modify, if_neg hne.symm]

theorem get?_setAttributes_self {tag : List Char} {attrs : Attributes} {children : List NodeId}
    (hcell : doc.get? id = some ⟨.element tag attrs, children⟩) (attrs' : Attributes) :
    (doc.setAttributes id attrs').get? id = some ⟨.element tag attrs', children⟩ := by
  simp [setAttributes, get?_modify, hcell]

/-- An added node is beside what was there. -/
theorem Change.alloc (doc : Document) (kind : Kind) (area : Multiset NodeId) :
    Change doc (doc.alloc kind).1 area ({doc.size} + area) where
  size_le := by simp
  kept id hid _ := by rw [get?_alloc, if_neg hid.ne]
  new_le := by
    have hone : Multiset.Ico doc.size (doc.size + 1) = {doc.size} :=
      congrArg Finset.val (Nat.Ico_succ_singleton doc.size)
    rw [size_alloc, hone, add_comm]

/-- What an added node stands for. -/
theorem Spans.alloc_self (doc : Document) (kind : Kind) :
    (doc.alloc kind).1.Spans [doc.size] [.node kind []] {doc.size} := by
  have hcell : (doc.alloc kind).1.get? doc.size = some ⟨kind, []⟩ := by simp [get?_alloc]
  simpa using Spans.singleton hcell .nil

theorem Change.modifyChildren (doc : Document) {area : Multiset NodeId} (hid : id ∈ area)
    (f : List NodeId → List NodeId) : Change doc (doc.modifyChildren id f) area area where
  size_le := by simp
  kept other _ hother := get?_modifyChildren_of_ne (ne_of_mem_of_not_mem hid hother).symm f
  new_le := by simp

theorem Change.setAttributes (doc : Document) {area : Multiset NodeId} (hid : id ∈ area)
    (attrs : Attributes) : Change doc (doc.setAttributes id attrs) area area where
  size_le := by simp
  kept other _ hother := get?_setAttributes_of_ne (ne_of_mem_of_not_mem hid hother).symm attrs
  new_le := by simp

theorem Spans.modifyChildren {ids : List NodeId} {trees : List Markup} {area : Multiset NodeId}
    (h : doc.Spans ids trees area) (hid : id ∉ area) (f : List NodeId → List NodeId) :
    (doc.modifyChildren id f).Spans ids trees area :=
  h.congr fun _ hother ↦ get?_modifyChildren_of_ne (ne_of_mem_of_not_mem hother hid) f

theorem Spans.setAttributes {ids : List NodeId} {trees : List Markup} {area : Multiset NodeId}
    (h : doc.Spans ids trees area) (hid : id ∉ area) (attrs : Attributes) :
    (doc.setAttributes id attrs).Spans ids trees area :=
  h.congr fun _ hother ↦ get?_setAttributes_of_ne (ne_of_mem_of_not_mem hother hid) attrs

theorem get_of_lt_size (hid : id < doc.size) : ∃ cell, doc.get id = .ok cell := by
  cases hcell : doc.get? id with
  | none => exact absurd hid (not_lt.2 (get?_eq_none_iff.1 hcell))
  | some cell => exact ⟨cell, by simp [get, hcell]⟩

theorem append_eq_ok {parent child : NodeId} (hparent : parent < doc.size)
    (hchild : child < doc.size) :
    doc.append parent child = .ok (doc.modifyChildren parent (· ++ [child])) := by
  obtain ⟨cell, hcell⟩ := get_of_lt_size hparent
  obtain ⟨cell', hcell'⟩ := get_of_lt_size hchild
  simp [append, hcell, hcell', bind, Except.bind, pure, Except.pure]

theorem setChildren_eq_ok {parent : NodeId} {children : List NodeId} (hparent : parent < doc.size)
    (hchildren : ∀ child ∈ children, child < doc.size) :
    doc.setChildren parent children = .ok (doc.modifyChildren parent fun _ => children) := by
  obtain ⟨cell, hcell⟩ := get_of_lt_size hparent
  have hfind : (children.find? fun id ↦ (doc.get? id).isNone) = none := by
    refine List.find?_eq_none.2 fun child hchild ↦ ?_
    rw [Option.isNone_iff_eq_none, get?_eq_none_iff, not_le]
    exact hchildren child hchild
  simp [setChildren, hfind, hcell, bind, Except.bind, pure, Except.pure]

theorem exists_error_of_setChildren {children : List NodeId}
    (h : ¬ ∀ child ∈ children, child < doc.size) (parent : NodeId) : ∃ missing ∈ children,
      doc.size ≤ missing ∧ doc.setChildren parent children = .error (.danglingNode missing) := by
  cases hfind : children.find? fun id ↦ (doc.get? id).isNone with
  | some missing =>
    have hnone := List.find?_some hfind
    rw [Option.isNone_iff_eq_none, get?_eq_none_iff] at hnone
    refine ⟨missing, List.mem_of_find?_eq_some hfind, hnone, ?_⟩
    rw [setChildren, hfind]
    rfl
  | none =>
    refine absurd (fun child hchild ↦ ?_) h
    have hsome := List.find?_eq_none.1 hfind child hchild
    rwa [Option.isNone_iff_eq_none, get?_eq_none_iff, not_le] at hsome

/-- A node can be put around the children of another one. -/
theorem exists_wrapped {kind : Kind} {children : List NodeId}
    (hcell : doc.get? id = some ⟨kind, children⟩)
    (hchildren : ∀ child ∈ children, child < doc.size + 1) (wrapper : Kind) : ∃ doc₁ doc₂,
      (doc.alloc wrapper).1.setChildren doc.size children = .ok doc₁ ∧
        doc₁.setChildren id [doc.size] = .ok doc₂ ∧ doc₂.size = doc.size + 1 ∧
          doc₂.get? id = some ⟨kind, [doc.size]⟩ ∧ doc₂.get? doc.size = some ⟨wrapper, children⟩ ∧
            ∀ other < doc.size, other ≠ id → doc₂.get? other = doc.get? other := by
  have hid : id < doc.size := lt_size_of_get? hcell
  have hnew : (doc.alloc wrapper).1.get? doc.size = some ⟨wrapper, []⟩ := by
    simp [get?_alloc]
  let doc₁ := (doc.alloc wrapper).1.modifyChildren doc.size fun _ ↦ children
  have hcell₁ : doc₁.get? id = some ⟨kind, children⟩ := by
    rw [get?_modifyChildren_of_ne hid.ne, get?_alloc, if_neg hid.ne, hcell]
  have hnew₁ : doc₁.get? doc.size = some ⟨wrapper, children⟩ :=
    get?_modifyChildren_self hnew _
  refine ⟨doc₁, doc₁.modifyChildren id fun _ ↦ [doc.size],
    setChildren_eq_ok (by simp) (by simpa using hchildren),
    setChildren_eq_ok (lt_size_of_get? hcell₁)
      (List.forall_mem_singleton.2 (lt_size_of_get? hnew₁)), by simp [doc₁],
    get?_modifyChildren_self hcell₁ _, ?_, fun other hother hne ↦ ?_⟩
  · rw [get?_modifyChildren_of_ne hid.ne', hnew₁]
  · rw [get?_modifyChildren_of_ne hne, get?_modifyChildren_of_ne hother.ne,
      get?_alloc, if_neg hother.ne]

theorem replaceChild_eq_ok {parent replacement : NodeId} {index : Nat} {kind : Kind}
    {children : List NodeId} (hcell : doc.get? parent = some ⟨kind, children⟩)
    (hindex : index < children.length) (hreplacement : replacement < doc.size) :
    doc.replaceChild parent index replacement =
      .ok (doc.modifyChildren parent (·.set index replacement)) := by
  obtain ⟨cell', hcell'⟩ := get_of_lt_size hreplacement
  have hget : doc.get parent = .ok ⟨kind, children⟩ := by simp [get, hcell]
  simp [replaceChild, hcell', hget, hindex, bind, Except.bind, pure, Except.pure]

theorem Adds.alloc (doc : Document) (kind : Kind) :
    Adds doc (doc.alloc kind).1 [doc.size] [.node kind []] :=
  ⟨{doc.size}, .alloc_self doc kind, by simpa using Change.alloc doc kind 0⟩

/-- An added node may take another one as its last child. -/
theorem Adds.append_child {first : Document} {parent child : NodeId} {kind : Kind}
    {inner : List Markup} {tree : Markup}
    (h : Adds first doc [child, parent] [tree, .node kind inner]) :
    ∃ doc', doc.append parent child = .ok doc' ∧
      Adds first doc' [parent] [.node kind (inner ++ [tree])] := by
  obtain ⟨area, hspans, hchange⟩ := h
  have hnodup := nodup hchange
  have hparent : parent < doc.size := hspans.lt_size (hspans.mem_area_of_mem (by simp))
  have hchild : child < doc.size := hspans.lt_size (hspans.mem_area_of_mem (by simp))
  refine ⟨_, append_eq_ok hparent hchild, ?_⟩
  cases hspans with
  | @cons _ _ _ kind' inner' _ below after hcell hbelow hafter =>
    obtain ⟨kind'', children, inner'', below', heq, rfl, hcell', hbelow'⟩ := hafter.of_singleton
    obtain ⟨rfl, rfl⟩ : kind = kind'' ∧ inner = inner'' := by simpa using heq
    have hfresh : parent ∉ below' + ({child} + below) := by
      have hapart : ({parent} + (below' + ({child} + below))).Nodup := by
        rwa [← add_assoc, add_comm]
      rw [Multiset.singleton_add, Multiset.nodup_cons] at hapart
      exact hapart.1
    have hinner := (hbelow'.append (.singleton hcell hbelow)).modifyChildren hfresh (· ++ [child])
    refine ⟨_, .singleton (get?_modifyChildren_self hcell' _) hinner, ?_⟩
    have hsum : ({parent} : Multiset NodeId) + (below' + ({child} + below)) =
        {child} + below + ({parent} + below') := by abel
    rw [hsum]
    exact hchange.trans (.modifyChildren doc (by simp) _)

end Galley.Html.Document
