import Galley.Html.Edit
import Galley.Proofs.Html.Change

/-!
Documents after changes in place. A change in place gives what the change that makes a new document
gives, and leaves the document alone where that one fails (`Document.settle`). So a call either
finds a fault in what it names, or has its effect (`Call.run_eq`). Effects keep a document sound
(`Document.IsSound`): children are nodes of the document, and the first node and no other one is the
root. Calls therefore leave a sound document, whatever they name (`runAll_keeps_sound`).
-/

set_option autoImplicit false
set_option relaxedAutoImplicit false

namespace Galley.Html

/-! ### Changes that make a new document -/

namespace Document

/-- The first of the nodes that does not exist, as an error. -/
def missing? (doc : Document) (ids : List NodeId) : Option DocumentError :=
  (ids.find? fun id => decide (doc.size ≤ id)).map .danglingNode

variable {doc : Document} {id : NodeId}

theorem get_of_size_le (h : doc.size ≤ id) : doc.get id = .error (.danglingNode id) := by
  simp [get, get?_eq_none_iff.2 h]

theorem missing?_cons_of_size_le (h : doc.size ≤ id) (ids : List NodeId) :
    doc.missing? (id :: ids) = some (.danglingNode id) := by
  simp [missing?, h]

theorem missing?_cons_of_lt_size (h : id < doc.size) (ids : List NodeId) :
    doc.missing? (id :: ids) = doc.missing? ids := by
  simp [missing?, not_le.2 h]

theorem missing?_append (ids others : List NodeId) :
    doc.missing? (ids ++ others) = (doc.missing? ids).or (doc.missing? others) := by
  simp only [missing?, List.find?_append]
  cases ids.find? fun id => decide (doc.size ≤ id) <;> rfl

theorem missing?_eq_none_iff {ids : List NodeId} :
    doc.missing? ids = none ↔ ∀ id ∈ ids, id < doc.size := by
  simp [missing?]

theorem append_eq (parent child : NodeId) : doc.append parent child =
    match doc.missing? [child, parent] with
    | some e => .error e
    | none => .ok (doc.modifyChildren parent (· ++ [child])) := by
  rcases le_or_gt doc.size child with hchild | hchild
  · rw [missing?_cons_of_size_le hchild, append, get_of_size_le hchild]
    rfl
  rw [missing?_cons_of_lt_size hchild]
  rcases le_or_gt doc.size parent with hparent | hparent
  · obtain ⟨cell, hcell⟩ := get_of_lt_size hchild
    rw [missing?_cons_of_size_le hparent, append, hcell, get_of_size_le hparent]
    rfl
  · rw [missing?_cons_of_lt_size hparent]
    exact append_eq_ok hparent hchild

theorem setChildren_eq (parent : NodeId) (children : List NodeId) :
    doc.setChildren parent children =
      match doc.missing? (children ++ [parent]) with
      | some e => .error e
      | none => .ok (doc.modifyChildren parent fun _ => children) := by
  have hfind : (children.find? fun id ↦ (doc.get? id).isNone) =
      children.find? fun id => decide (doc.size ≤ id) := by
    congr 1
    funext id
    rw [Bool.eq_iff_iff, Option.isNone_iff_eq_none, get?_eq_none_iff, decide_eq_true_iff]
  rw [missing?_append]
  cases hmissing : children.find? fun id => decide (doc.size ≤ id) with
  | some missing =>
    simp only [setChildren, hfind, missing?, hmissing]
    rfl
  | none =>
    have hnone : doc.missing? children = none := by rw [missing?, hmissing]; rfl
    rw [hnone, Option.none_or]
    rcases le_or_gt doc.size parent with hparent | hparent
    · rw [missing?_cons_of_size_le hparent, setChildren, hfind, hmissing]
      dsimp only
      rw [get_of_size_le hparent]
      rfl
    · rw [missing?_cons_of_lt_size hparent]
      exact setChildren_eq_ok hparent (missing?_eq_none_iff.1 hnone)

theorem replaceChild_eq (parent : NodeId) (index : Nat) (replacement : NodeId) :
    doc.replaceChild parent index replacement =
      match doc.missing? [replacement, parent] with
      | some e => .error e
      | none =>
        if (doc.children parent).length ≤ index then .error (.childOutOfRange parent index)
        else .ok (doc.modifyChildren parent (·.set index replacement)) := by
  rcases le_or_gt doc.size replacement with hreplacement | hreplacement
  · rw [missing?_cons_of_size_le hreplacement, replaceChild, get_of_size_le hreplacement]
    rfl
  rw [missing?_cons_of_lt_size hreplacement]
  obtain ⟨other, hother⟩ := get_of_lt_size hreplacement
  rcases le_or_gt doc.size parent with hparent | hparent
  · rw [missing?_cons_of_size_le hparent, replaceChild, hother, get_of_size_le hparent]
    rfl
  rw [missing?_cons_of_lt_size hparent]
  cases hcell : doc.get? parent with
  | none => exact absurd hparent (not_lt.2 (get?_eq_none_iff.1 hcell))
  | some cell =>
    have hget : doc.get parent = .ok cell := by simp [get, hcell]
    have hmissing : doc.missing? [] = none := rfl
    simp only [replaceChild, hother, hget, hmissing, children_of_get? hcell, bind, Except.bind,
      pure, Except.pure, ← not_lt, ite_not]
    rfl

end Document

/-! ### Changes in place -/

/-- What a change in place gives where another one gives a new document. -/
def Document.settle (doc : Document) :
    Except DocumentError Document → Except DocumentError Unit × Document
  | .ok after => (.ok (), after)
  | .error e => (.error e, doc)

namespace Edit

variable {α β : Type} {doc : Document}

theorem on_bind (edit : Edit α) (next : α → Edit β) :
    (edit >>= next).on doc = match edit.on doc with
      | (.ok a, after) => (next a).on after
      | (.error e, after) => (.error e, after) := by
  unfold on
  rw [ExceptT.run_bind, StateT.run_bind]
  generalize StateT.run (ExceptT.run edit) doc = outcome
  obtain ⟨answer | answer, after⟩ := outcome <;> rfl

/-- A node is looked up without a change to the document. -/
theorem on_lookup (id : NodeId) : (lookup id).on doc = (doc.get id, doc) := by
  have hread : (get : Edit Document).on doc = (.ok doc, doc) := rfl
  rw [lookup, on_bind, hread, Document.get]
  dsimp only
  cases doc.get? id <;> rfl

theorem on_lookup_bind (id : NodeId) (next : Cell → Edit β) :
    (lookup id >>= next).on doc = match doc.get id with
      | .ok cell => (next cell).on doc
      | .error e => (.error e, doc) := by
  rw [on_bind, on_lookup]
  cases doc.get id <;> rfl

theorem on_lookups_bind (ids : List NodeId) (next : PUnit → Edit β) :
    ((ids.forM fun id => do let _ ← lookup id) >>= next).on doc = match doc.missing? ids with
      | some e => (.error e, doc)
      | none => (next ⟨⟩).on doc := by
  induction ids with
  | nil => rfl
  | cons id rest ih =>
    rw [List.forM_eq_forM, List.forM_cons, bind_assoc, bind_assoc, on_lookup_bind]
    rcases le_or_gt doc.size id with hid | hid
    · rw [Document.missing?_cons_of_size_le hid, Document.get_of_size_le hid]
    · obtain ⟨cell, hcell⟩ := Document.get_of_lt_size hid
      rw [Document.missing?_cons_of_lt_size hid, hcell]
      simpa using ih

theorem on_append (parent child : NodeId) :
    (append parent child).on doc = doc.settle (doc.append parent child) := by
  rw [append, on_lookup_bind, Document.append]
  cases doc.get child with
  | error e => rfl
  | ok cell =>
    dsimp only
    rw [on_lookup_bind]
    cases doc.get parent <;> rfl

theorem on_setChildren (parent : NodeId) (children : List NodeId) :
    (setChildren parent children).on doc = doc.settle (doc.setChildren parent children) := by
  rw [setChildren, on_lookups_bind, Document.setChildren_eq, Document.missing?_append]
  cases hmissing : doc.missing? children with
  | some e => rfl
  | none =>
    dsimp only
    rw [on_lookup_bind, Option.none_or]
    rcases le_or_gt doc.size parent with hparent | hparent
    · rw [Document.missing?_cons_of_size_le hparent, Document.get_of_size_le hparent]
      rfl
    · obtain ⟨cell, hcell⟩ := Document.get_of_lt_size hparent
      rw [Document.missing?_cons_of_lt_size hparent, hcell]
      rfl

theorem on_replaceChild (parent : NodeId) (index : Nat) (replacement : NodeId) :
    (replaceChild parent index replacement).on doc =
      doc.settle (doc.replaceChild parent index replacement) := by
  rw [replaceChild, on_lookup_bind, Document.replaceChild]
  cases doc.get replacement with
  | error e => rfl
  | ok other =>
    dsimp only
    rw [on_lookup_bind]
    cases doc.get parent with
    | error e => rfl
    | ok cell =>
      simp only [bind, Except.bind]
      split_ifs <;> rfl

/-- The attributes of an element are changed; another node has none. -/
theorem on_changeAttributes (id : NodeId) (change : Attributes → Attributes) :
    (changeAttributes id change).on doc = (.ok (), match doc.element? id with
      | some (_, attrs) => doc.setAttributes id (change attrs)
      | none => doc) := by
  rw [changeAttributes, on_bind]
  change Edit.on (match doc.element? id with
    | some (_, attrs) => modify (·.setAttributes id (change attrs))
    | none => pure ()) doc = _
  cases doc.element? id <;> rfl

end Edit

/-! ### Calls -/

/-- What a node is, apart from the attributes of an element. -/
def Kind.payload : Kind → Kind
  | .element tag _ => .element tag .empty
  | kind => kind

namespace Call

/-- The nodes that a call names as children and then the one that it names as their parent: these
are looked up, in this order. -/
def named : Call → List NodeId
  | append parent child => [child, parent]
  | setChildren parent children => children ++ [parent]
  | replaceChild parent _ replacement => [replacement, parent]
  | _ => []

/-- The place behind the children of a node that a call names. -/
def overrun? (doc : Document) : Call → Option DocumentError
  | replaceChild parent index _ =>
    if (doc.children parent).length ≤ index then some (.childOutOfRange parent index) else none
  | _ => none

/-- What is wrong with a call: a node that does not exist, or else a place behind all children. -/
def fault? (doc : Document) (call : Call) : Option DocumentError :=
  (doc.missing? call.named).or (call.overrun? doc)

/-- What a call makes of the children of a node. -/
def childrenAfter (call : Call) (id : NodeId) (children : List NodeId) : List NodeId :=
  match call with
  | append parent child => if parent = id then children ++ [child] else children
  | setChildren parent new => if parent = id then new else children
  | replaceChild parent index replacement =>
    if parent = id then children.set index replacement else children
  | _ => children

/-- What a call makes of what a node is. -/
def kindAfter (call : Call) (id : NodeId) (kind : Kind) : Kind :=
  match call, kind with
  | changeAttributes other change, .element tag attrs =>
    .element tag (if other = id then change attrs else attrs)
  | _, kind => kind

/-- What a call makes of a node. -/
def cellAfter (call : Call) (id : NodeId) (cell : Cell) : Cell :=
  ⟨call.kindAfter id cell.kind, call.childrenAfter id cell.children⟩

/-- The effect of a call that finds no fault. -/
def effect (call : Call) (doc : Document) : Document :=
  match call with
  | append parent child => doc.modifyChildren parent (· ++ [child])
  | setChildren parent children => doc.modifyChildren parent fun _ => children
  | replaceChild parent index replacement => doc.modifyChildren parent (·.set index replacement)
  | changeAttributes id change =>
    match doc.element? id with
    | some (_, attrs) => doc.setAttributes id (change attrs)
    | none => doc
  | element tag attrs => (doc.alloc (.element tag attrs)).1
  | text value => (doc.alloc (.text value)).1
  | raw markup => (doc.alloc (.raw markup)).1

variable {doc : Document}

/-- A call leaves the document alone if there is a fault, and has its effect otherwise. -/
theorem run_eq (call : Call) (doc : Document) : call.run doc = match call.fault? doc with
    | some e => (.error e, doc)
    | none => (.ok (call.added?.map fun _ => doc.size), call.effect doc) := by
  cases call with
  | element tag attrs => rfl
  | text value => rfl
  | raw markup => rfl
  | append parent child =>
    have hfault : (append parent child).fault? doc = doc.missing? [child, parent] := Option.or_none
    rw [run, perform, Edit.on_bind, Edit.on_append, Document.append_eq, hfault]
    cases doc.missing? [child, parent] <;> rfl
  | setChildren parent children =>
    have hfault : (setChildren parent children).fault? doc =
      doc.missing? (children ++ [parent]) := Option.or_none
    rw [run, perform, Edit.on_bind, Edit.on_setChildren, Document.setChildren_eq, hfault]
    cases doc.missing? (children ++ [parent]) <;> rfl
  | replaceChild parent index replacement =>
    rw [run, perform, Edit.on_bind, Edit.on_replaceChild, Document.replaceChild_eq, fault?,
      overrun?, named]
    cases doc.missing? [replacement, parent] with
    | some e => rfl
    | none =>
      dsimp only
      split_ifs <;> rfl
  | changeAttributes id change =>
    rw [run, perform, Edit.on_bind, Edit.on_changeAttributes]
    rfl

/-! ### Effects -/

theorem size_effect (call : Call) (doc : Document) :
    (call.effect doc).size = doc.size + call.added?.toList.length := by
  cases call with
  | changeAttributes id change =>
    rw [effect]
    cases doc.element? id <;> simp [added?]
  | _ => simp [effect, added?]

/-- A node that is added has no children. -/
theorem get?_effect_size {call : Call} {kind : Kind} (h : call.added? = some kind)
    (doc : Document) : (call.effect doc).get? doc.size = some ⟨kind, []⟩ := by
  cases call <;> simp_all [effect, added?, Document.get?_alloc]

theorem cellAfter_of_added {call : Call} {kind : Kind} (h : call.added? = some kind)
    (id : NodeId) (cell : Cell) : call.cellAfter id cell = cell := by
  cases call <;> simp_all [cellAfter, kindAfter, childrenAfter, added?]

theorem get?_modifyChildren (doc : Document) (id other : NodeId)
    (f : List NodeId → List NodeId) : (doc.modifyChildren id f).get? other =
      (doc.get? other).map fun cell => ⟨cell.kind, if id = other then f cell.children else
        cell.children⟩ := by
  rw [Document.modifyChildren, Document.get?_modify]
  split_ifs <;> cases doc.get? other <;> rfl

/-- What a call makes of the nodes that were there. -/
theorem get?_effect {id : NodeId} (h : id < doc.size) (call : Call) :
    (call.effect doc).get? id = (doc.get? id).map (call.cellAfter id) := by
  have hadded : ∀ kind, call.added? = some kind → call.effect doc = (doc.alloc kind).1 →
      (call.effect doc).get? id = (doc.get? id).map (call.cellAfter id) := by
    intro kind hkind heffect
    have hcell : call.cellAfter id = fun cell ↦ cell :=
      funext fun cell ↦ cellAfter_of_added hkind id cell
    rw [heffect, Document.get?_alloc, if_neg h.ne, hcell, Option.map_id']
  cases call with
  | element tag attrs => exact hadded _ rfl rfl
  | text value => exact hadded _ rfl rfl
  | raw markup => exact hadded _ rfl rfl
  | append parent child => exact get?_modifyChildren doc parent id _
  | setChildren parent children => exact get?_modifyChildren doc parent id _
  | replaceChild parent index replacement => exact get?_modifyChildren doc parent id _
  | changeAttributes other change =>
    cases hcell : doc.get? id with
    | none => exact absurd h (not_lt.2 (Document.get?_eq_none_iff.1 hcell))
    | some cell =>
      obtain ⟨kind, children⟩ := cell
      by_cases heq : other = id
      · subst heq
        cases kind with
        | element tag attrs =>
          have helement : doc.element? other = some (tag, attrs) := by
            simp [Document.element?, hcell]
          simp [effect, helement, Document.get?_setAttributes_self hcell, cellAfter, kindAfter,
            childrenAfter]
        | _ => simp [effect, Document.element?, hcell, cellAfter, kindAfter, childrenAfter]
      · have hkind : (changeAttributes other change).kindAfter id kind = kind := by
          cases kind <;> simp [kindAfter, heq]
        have heffect : ((changeAttributes other change).effect doc).get? id = doc.get? id := by
          rw [effect]
          cases doc.element? other with
          | none => rfl
          | some element => exact Document.get?_setAttributes_of_ne (Ne.symm heq) _
        simp [heffect, hcell, cellAfter, hkind, childrenAfter]

theorem payload_kindAfter (call : Call) (id : NodeId) (kind : Kind) :
    (call.kindAfter id kind).payload = kind.payload := by
  cases call <;> cases kind <;> rfl

theorem kindAfter_eq_root_iff {call : Call} {id : NodeId} {kind : Kind} :
    call.kindAfter id kind = .root ↔ kind = .root := by
  cases call <;> cases kind <;> simp [kindAfter]

/-- The children of a node after a call were its children before or are named by the call. -/
theorem mem_childrenAfter {call : Call} {id child : NodeId} {children : List NodeId}
    (h : child ∈ call.childrenAfter id children) : child ∈ children ∨ child ∈ call.named := by
  cases call with
  | append parent new =>
    simp only [childrenAfter] at h
    split_ifs at h
    · rcases List.mem_append.1 h with h | h
      · exact .inl h
      · exact .inr (by simp_all [named])
    · exact .inl h
  | setChildren parent new =>
    simp only [childrenAfter] at h
    split_ifs at h
    · exact .inr (by simp [named, h])
    · exact .inl h
  | replaceChild parent index replacement =>
    simp only [childrenAfter] at h
    split_ifs at h
    · rcases List.mem_or_eq_of_mem_set h with h | h
      · exact .inl h
      · exact .inr (by simp [named, h])
    · exact .inl h
  | _ => exact .inl h

end Call

/-! ### Sound documents -/

/-- Children are nodes of a document, and the first node and no other one is the root. -/
structure Document.IsSound (doc : Document) : Prop where
  size_pos : 0 < doc.size
  children_lt : ∀ id cell, doc.get? id = some cell → ∀ child ∈ cell.children, child < doc.size
  root_iff : ∀ id cell, doc.get? id = some cell → (cell.kind = .root ↔ id = Document.root)

theorem Document.IsSound.empty : Document.empty.IsSound where
  size_pos := by decide
  children_lt id cell hcell child hchild := by
    have hid := Document.lt_size_of_get? hcell
    obtain rfl : id = 0 := by simpa [Document.empty, Document.size] using hid
    obtain rfl : cell = ⟨.root, []⟩ := by simpa [Document.empty, Document.get?, eq_comm] using hcell
    simp at hchild
  root_iff id cell hcell := by
    have hid := Document.lt_size_of_get? hcell
    obtain rfl : id = 0 := by simpa [Document.empty, Document.size] using hid
    obtain rfl : cell = ⟨.root, []⟩ := by simpa [Document.empty, Document.get?, eq_comm] using hcell
    simp [Document.root]

namespace Call

variable {doc : Document} {call : Call}

/-- A node after a call was there before or is the one that the call adds. -/
theorem exists_of_get?_effect {id : NodeId} {cell : Cell}
    (h : (call.effect doc).get? id = some cell) :
    (∃ old, doc.get? id = some old ∧ cell = call.cellAfter id old) ∨
      ∃ kind, call.added? = some kind ∧ id = doc.size ∧ cell = ⟨kind, []⟩ := by
  have hid := Document.lt_size_of_get? h
  rw [size_effect] at hid
  rcases lt_or_ge id doc.size with hold | hnew
  · rw [get?_effect hold, Option.map_eq_some_iff] at h
    obtain ⟨old, hget, rfl⟩ := h
    exact .inl ⟨old, hget, rfl⟩
  · cases hadded : call.added? with
    | none =>
      rw [hadded] at hid
      exact absurd hid (not_lt.2 hnew)
    | some kind =>
      obtain rfl : id = doc.size := by
        rw [hadded] at hid
        exact le_antisymm (Nat.lt_succ_iff.1 hid) hnew
      rw [get?_effect_size hadded] at h
      exact .inr ⟨kind, rfl, rfl, (Option.some.inj h).symm⟩

/-- A call that finds no fault keeps a document sound. -/
theorem isSound_effect (h : doc.IsSound) (hfault : call.fault? doc = none) :
    (call.effect doc).IsSound := by
  have hnamed : ∀ id ∈ call.named, id < doc.size :=
    Document.missing?_eq_none_iff.1 (Option.or_eq_none_iff.1 hfault).1
  have hsize : doc.size ≤ (call.effect doc).size := by simp [size_effect]
  refine ⟨h.size_pos.trans_le hsize, fun id cell hcell child hchild ↦ ?_, fun id cell hcell ↦ ?_⟩
  · rcases exists_of_get?_effect hcell with ⟨old, hold, rfl⟩ | ⟨kind, -, -, rfl⟩
    · refine lt_of_lt_of_le ?_ hsize
      rcases mem_childrenAfter hchild with hchild | hchild
      · exact h.children_lt id old hold child hchild
      · exact hnamed child hchild
    · simp at hchild
  · rcases exists_of_get?_effect hcell with ⟨old, hold, rfl⟩ | ⟨kind, hadded, rfl, rfl⟩
    · exact kindAfter_eq_root_iff.trans (h.root_iff id old hold)
    · have hkind : kind ≠ .root := by
        rintro rfl
        cases call <;> simp [added?] at hadded
      exact iff_of_false hkind h.size_pos.ne'

theorem isSound_run (h : doc.IsSound) (call : Call) : (call.run doc).2.IsSound := by
  rw [run_eq]
  cases hfault : call.fault? doc with
  | some e => exact h
  | none => exact isSound_effect h hfault

/-- What a call does: `before` and `after` are the documents before and after it. -/
structure Answers (call : Call) (before : Document) (answer : Answer) (after : Document) :
    Prop where
  /-- A call that goes wrong changes nothing. -/
  unchanged : ∀ e, answer = .error e → after = before
  /-- The first child that does not exist is reported, and else the parent if it does not. -/
  dangling_iff : ∀ id, answer = .error (.danglingNode id) ↔
    call.named.find? (fun id => decide (before.size ≤ id)) = some id
  outOfRange_iff : ∀ parent index, answer = .error (.childOutOfRange parent index) ↔
    ∃ replacement, call = .replaceChild parent index replacement ∧ replacement < before.size ∧
      parent < before.size ∧ (before.children parent).length ≤ index
  /-- A node that is added takes the next index, and has no children. -/
  added : ∀ kind, call.added? = some kind → answer = .ok (some before.size) ∧
    after.size = before.size + 1 ∧ after.get? before.size = some ⟨kind, []⟩
  /-- Another call adds no node. -/
  not_added : call.added? = none → after.size = before.size ∧ ∀ id, answer ≠ .ok (some id)
  /-- What is there keeps its tag or its text. -/
  payload_eq : ∀ id < before.size,
    (after.get? id).map (·.kind.payload) = (before.get? id).map (·.kind.payload)
  /-- A call that goes well changes the node that it names, and no other one. -/
  get?_eq : (∃ id?, answer = .ok id?) →
    ∀ id < before.size, after.get? id = (before.get? id).map (call.cellAfter id)

theorem overrun?_eq_some_iff {e : DocumentError} : call.overrun? doc = some e ↔
    ∃ parent index replacement, call = .replaceChild parent index replacement ∧
      (doc.children parent).length ≤ index ∧ e = .childOutOfRange parent index := by
  cases call with
  | replaceChild parent index replacement =>
    rw [overrun?]
    split_ifs with hindex
    · simp [hindex, eq_comm]
    · simp [hindex]
  | _ => simp [overrun?]

theorem fault?_eq_dangling_iff {id : NodeId} : call.fault? doc = some (.danglingNode id) ↔
    call.named.find? (fun id => decide (doc.size ≤ id)) = some id := by
  have hoverrun : call.overrun? doc ≠ some (.danglingNode id) := by
    rw [Ne, overrun?_eq_some_iff]
    rintro ⟨parent, index, replacement, -, -, heq⟩
    cases heq
  rw [fault?, Document.missing?]
  cases call.named.find? fun id => decide (doc.size ≤ id) with
  | some missing => simp
  | none => simpa using hoverrun

theorem fault?_eq_outOfRange_iff {parent : NodeId} {index : Nat} :
    call.fault? doc = some (.childOutOfRange parent index) ↔
      ∃ replacement, call = .replaceChild parent index replacement ∧ replacement < doc.size ∧
        parent < doc.size ∧ (doc.children parent).length ≤ index := by
  have hmissing : doc.missing? call.named ≠ some (.childOutOfRange parent index) := by
    rw [Document.missing?]
    cases call.named.find? fun id => decide (doc.size ≤ id) <;> simp
  rw [fault?, Option.or_eq_some_iff, overrun?_eq_some_iff]
  constructor
  · rintro (hfound | ⟨hnone, parent', index', replacement, rfl, hindex, heq⟩)
    · exact absurd hfound hmissing
    · obtain ⟨rfl, rfl⟩ : parent = parent' ∧ index = index' := by simpa using heq
      have hnamed := Document.missing?_eq_none_iff.1 hnone
      exact ⟨replacement, rfl, hnamed _ (by simp [named]), hnamed _ (by simp [named]), hindex⟩
  · rintro ⟨replacement, rfl, hreplacement, hparent, hindex⟩
    have hnone : doc.missing? [replacement, parent] = none :=
      Document.missing?_eq_none_iff.2 (by simp [hreplacement, hparent])
    exact .inr ⟨hnone, parent, index, replacement, rfl, hindex, rfl⟩

theorem fault?_of_added {kind : Kind} (h : call.added? = some kind) : call.fault? doc = none := by
  cases call <;> simp_all [added?, fault?, named, overrun?, Document.missing?]

/-- What every call does. -/
theorem answers (call : Call) (doc : Document) :
    call.Answers doc (call.run doc).1 (call.run doc).2 := by
  have hdangling := @fault?_eq_dangling_iff doc call
  have houtOfRange := @fault?_eq_outOfRange_iff doc call
  have hadded (kind : Kind) (hkind : call.added? = some kind) : call.fault? doc = none :=
    fault?_of_added hkind
  rw [run_eq]
  cases hfault : call.fault? doc with
  | some e =>
    rw [hfault] at hdangling houtOfRange hadded
    refine ⟨fun _ _ ↦ rfl, fun id ↦ ?_, fun parent index ↦ ?_, fun kind hkind ↦ ?_, fun _ ↦ ?_,
      fun _ _ ↦ rfl, ?_⟩
    · rw [← hdangling]
      simp
    · rw [← houtOfRange]
      simp
    · exact absurd (hadded kind hkind) (by simp)
    · simp
    · rintro ⟨id?, heq⟩
      cases heq
  | none =>
    rw [hfault] at hdangling houtOfRange
    refine ⟨fun e heq ↦ ?_, fun id ↦ ?_, fun parent index ↦ ?_, fun kind hkind ↦ ?_,
      fun hnone ↦ ?_, fun id hid ↦ ?_, fun _ id hid ↦ get?_effect hid call⟩
    · cases heq
    · rw [← hdangling]
      simp
    · rw [← houtOfRange]
      simp
    · rw [hkind, get?_effect_size hkind, size_effect, hkind]
      exact ⟨rfl, rfl, rfl⟩
    · rw [hnone, size_effect, hnone]
      exact ⟨rfl, by simp⟩
    · rw [get?_effect hid]
      cases doc.get? id <;> simp [cellAfter, payload_kindAfter]

/-! ### Runs of calls -/

theorem runAll_append (calls others : List Call) (doc : Document) :
    runAll (calls ++ others) doc =
      let (answers, after) := runAll calls doc
      let (more, last) := runAll others after
      (answers ++ more, last) := by
  induction calls generalizing doc with
  | nil => rfl
  | cons call rest ih => simp [runAll, ih]

/-- The indices of the nodes that calls add. -/
def newNodes (answers : List Answer) : List NodeId := answers.filterMap fun answer =>
  answer.toOption.join

/-- The node that a call adds takes the next index. -/
theorem newNodes_run (call : Call) (doc : Document) : ∃ count,
    newNodes [(call.run doc).1] = List.range' doc.size count ∧
      (call.run doc).2.size = doc.size + count := by
  rw [run_eq]
  cases hfault : call.fault? doc with
  | some e => exact ⟨0, rfl, rfl⟩
  | none =>
    refine ⟨call.added?.toList.length, ?_, size_effect call doc⟩
    cases call.added? <;> rfl

/-- The nodes that calls add take the indices one after the other. -/
theorem newNodes_runAll (calls : List Call) (doc : Document) : ∃ count,
    newNodes (runAll calls doc).1 = List.range' doc.size count ∧
      (runAll calls doc).2.size = doc.size + count := by
  induction calls generalizing doc with
  | nil => exact ⟨0, rfl, rfl⟩
  | cons call rest ih =>
    obtain ⟨first, hfirst, hsize⟩ := newNodes_run call doc
    obtain ⟨others, hothers, hsize'⟩ := ih (call.run doc).2
    refine ⟨first + others, ?_, by rw [runAll, hsize', hsize, add_assoc]⟩
    have happend : newNodes ((call.run doc).1 :: (runAll rest (call.run doc).2).1) =
        newNodes [(call.run doc).1] ++ newNodes (runAll rest (call.run doc).2).1 := by
      simp only [newNodes, ← List.filterMap_append, List.singleton_append]
    rw [runAll, happend, hfirst, hothers, hsize, List.range'_append_1]

theorem isSound_runAll {doc : Document} (h : doc.IsSound) (calls : List Call) :
    (runAll calls doc).2.IsSound := by
  induction calls generalizing doc with
  | nil => exact h
  | cons call rest ih => exact ih (isSound_run h call)

/-- Calls on a fresh document leave a sound document and add nodes one after the other, whatever
they name; each of them either goes wrong for a stated reason and changes nothing, or has its
effect. -/
theorem runAll_keeps_sound (calls : List Call) :
    let (answers, doc) := runAll calls .empty
    doc.IsSound ∧ newNodes answers = List.range' 1 (doc.size - 1) ∧
      ∀ call : Call, ∃ answer after,
        runAll (calls ++ [call]) .empty = (answers ++ [answer], after) ∧
          call.Answers doc answer after := by
  obtain ⟨count, hnew, hsize⟩ := newNodes_runAll calls .empty
  refine ⟨isSound_runAll .empty calls, ?_,
    fun call ↦ ⟨_, _, runAll_append calls [call] .empty, call.answers _⟩⟩
  rw [hnew, hsize, show Document.empty.size = 1 from rfl, Nat.add_sub_cancel_left]

example : (runAll [.text [], .append 0 1, .append 9 8, .replaceChild 0 1 1] .empty).1 =
    [.ok (some 1), .ok none, .error (.danglingNode 8), .error (.childOutOfRange 0 1)] := rfl

end Call

end Galley.Html
