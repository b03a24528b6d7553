import Galley.Proofs.Html.Change
import Galley.Proofs.Typeset.Markup

/-!
What steps on a draft do to trees. `Document.Holds` says that lists of nodes stand for lists of
trees, each in an area of its own. `Turns step parts trees` says that a step, taken where such parts
stand, gives nodes that stand for `trees`, touching only what the parts take up; it is proved by
rules that go along the step, and at each of its operations replace the parts that the operation
uses by what it makes of them. `Makes step marked` is the same for steps that start from nothing but
the calls of footnotes so far.
-/

set_option autoImplicit false
set_option relaxedAutoImplicit false

namespace Galley

open Html

/-- Parts of a document stand for trees, in areas that make up the given one. -/
inductive Html.Document.Holds (doc : Document) :
    List (List NodeId × List Markup) → Multiset NodeId → Prop
  | nil : Holds doc [] 0
  | cons {ids : List NodeId} {trees : List Markup} {parts : List (List NodeId × List Markup)}
      {first rest : Multiset NodeId} (hfirst : doc.Spans ids trees first)
      (hrest : Holds doc parts rest) : Holds doc ((ids, trees) :: parts) (first + rest)

namespace Html.Document.Holds

variable {doc other : Document} {parts parts' : List (List NodeId × List Markup)}
  {area : Multiset NodeId}

theorem lt_size (h : doc.Holds parts area) {id : NodeId} (hid : id ∈ area) : id < doc.size := by
  induction h with
  | nil => simp at hid
  | cons hfirst _ ih =>
    rcases Multiset.mem_add.1 hid with hid | hid
    · exact hfirst.lt_size hid
    · exact ih hid

theorem congr (h : doc.Holds parts area) (hagree : ∀ id ∈ area, other.get? id = doc.get? id) :
    other.Holds parts area := by
  induction h with
  | nil => exact .nil
  | cons hfirst _ ih =>
    refine .cons (hfirst.congr fun id hid ↦ hagree id ?_) (ih fun id hid ↦ hagree id ?_)
    · exact Multiset.mem_add.2 (.inl hid)
    · exact Multiset.mem_add.2 (.inr hid)

theorem of_append {parts : List (List NodeId × List Markup)}
    (h : doc.Holds (parts ++ parts') area) :
    ∃ first second, area = first + second ∧ doc.Holds parts first ∧ doc.Holds parts' second := by
  induction parts generalizing area with
  | nil => exact ⟨0, area, by simp, .nil, h⟩
  | cons part parts ih =>
    cases h with
    | @cons _ _ _ first _ hfirst hrest =>
      obtain ⟨inner, second, rfl, hinner, hsecond⟩ := ih hrest
      exact ⟨first + inner, second, by rw [add_assoc], .cons hfirst hinner, hsecond⟩

theorem perm (h : doc.Holds parts area) (hperm : parts.Perm parts') : doc.Holds parts' area := by
  induction hperm generalizing area with
  | nil => exact h
  | cons _ _ ih =>
    cases h with
    | cons hfirst hrest => exact .cons hfirst (ih hrest)
  | swap =>
    cases h with
    | @cons _ _ _ first _ hfirst hrest =>
      cases hrest with
      | @cons _ _ _ second rest hsecond hrest =>
        rw [add_left_comm]
        exact .cons hsecond (.cons hfirst hrest)
  | trans _ _ ih ih' => exact ih' (ih h)

end Html.Document.Holds

namespace Typeset

/-- A step that makes of parts of a draft what stands for trees, and calls no footnote. -/
def Turns (step : Setting (List NodeId)) (parts : List (List NodeId × List Markup))
    (trees : List Markup) : Prop :=
  ∀ draft area, draft.doc.Holds parts area → area.Nodup → ∃ ids doc new,
    step.run draft = (ids, { draft with doc }) ∧ doc.Spans ids trees new ∧
      Document.Change draft.doc doc area new

/-- A step that adds nodes which stand for what the calls so far determine. -/
def Makes (step : Setting (List NodeId)) (marked : Calls → Marked) : Prop :=
  ∀ draft, ∃ ids doc, step.run draft = (ids, ⟨doc, (marked draft.calls).2⟩) ∧
    draft.doc.Adds doc ids (marked draft.calls).1

namespace Turns

variable {step : Setting (List NodeId)} {next : List NodeId → Setting (List NodeId)}
  {onNode : NodeId → Setting (List NodeId)} {parts parts' frame : List (List NodeId × List Markup)}
  {ids ids' : List NodeId} {trees trees' out : List Markup}

/-! ### Structural rules -/

/-- An operation that makes of some parts others is followed by a step for these. -/
theorem after {α : Type} {op : Setting α} {next : α → Setting (List NodeId)}
    {later : α → List (List NodeId × List Markup)}
    (hop : ∀ draft area, draft.doc.Holds parts area → area.Nodup → ∃ value doc new,
      op.run draft = (value, { draft with doc }) ∧ doc.Holds (later value) new ∧
        Document.Change draft.doc doc area new)
    (hnext : ∀ value, Turns (next value) (later value) out) : Turns (op >>= next) parts out := by
  intro draft area hholds hnodup
  obtain ⟨value, doc, new, hrun, hlater, hchange⟩ := hop draft area hholds hnodup
  have hnodup' : new.Nodup := hchange.nodup hnodup fun id hid ↦ hholds.lt_size hid
  obtain ⟨ids, doc', new', hrun', hspans, hchange'⟩ :=
    hnext value { draft with doc } new hlater hnodup'
  refine ⟨ids, doc', new', ?_, hspans, hchange.trans hchange'⟩
  rw [StateT.run_bind, hrun]
  exact hrun'

/-- What a step makes of some parts is there for the steps after it, beside the other parts. -/
theorem bind (hstep : Turns step parts trees)
    (hnext : ∀ ids, Turns (next ids) ((ids, trees) :: frame) out) :
    Turns (step >>= next) (parts ++ frame) out := by
  refine after (fun draft area hholds hnodup ↦ ?_) hnext
  obtain ⟨first, rest, rfl, hparts, hframe⟩ := hholds.of_append
  have hapart := Multiset.nodup_add.1 hnodup
  obtain ⟨ids, doc, new, hrun, hspans, hchange⟩ := hstep draft first hparts hapart.1
  have hframe' : doc.Holds frame rest := hframe.congr fun id hid ↦
    hchange.kept id (hframe.lt_size hid) (Multiset.disjoint_right.1 hapart.2.2 hid)
  refine ⟨ids, doc, new + rest, hrun, .cons hspans hframe', ?_⟩
  simpa [add_comm] using hchange.add_left rest

/-- What a step makes of one part is there for the steps after it. -/
theorem bind_one (hstep : Turns step [(ids, trees)] trees')
    (hnext : ∀ ids, Turns (next ids) ((ids, trees') :: frame) out) :
    Turns (step >>= next) ((ids, trees) :: frame) out :=
  bind hstep hnext

/-- What a step makes of two parts is there for the steps after it. -/
theorem bind_two {inner : List Markup} (hstep : Turns step [(ids, trees), (ids', trees')] inner)
    (hnext : ∀ ids, Turns (next ids) ((ids, inner) :: frame) out) :
    Turns (step >>= next) ((ids, trees) :: (ids', trees') :: frame) out :=
  bind hstep hnext

theorem perm (h : Turns step parts trees) (hperm : parts'.Perm parts) :
    Turns step parts' trees :=
  fun draft area hholds hnodup ↦ h draft area (hholds.perm hperm) hnodup

/-- The order of parts does not matter. -/
theorem swap (h : Turns step ((ids', trees') :: (ids, trees) :: parts) out) :
    Turns step ((ids, trees) :: (ids', trees') :: parts) out :=
  h.perm (.swap _ _ _)

/-- The order of parts does not matter. -/
theorem rotate {part : List NodeId × List Markup}
    (h : Turns step (part :: (ids, trees) :: (ids', trees') :: parts) out) :
    Turns step ((ids, trees) :: (ids', trees') :: part :: parts) out :=
  h.perm ((List.Perm.swap _ _ _).cons _ |>.trans (.swap _ _ _))

/-- Nodes and the trees they stand for are as many. -/
theorem of_length (h : ids.length = trees.length → Turns step ((ids, trees) :: parts) out) :
    Turns step ((ids, trees) :: parts) out := by
  intro draft area hholds hnodup
  cases hholds with
  | cons hfirst hrest => exact h hfirst.length_eq draft _ (.cons hfirst hrest) hnodup

/-- Two parts are one. -/
theorem join (h : Turns step ((ids ++ ids', trees ++ trees') :: parts) out) :
    Turns step ((ids, trees) :: (ids', trees') :: parts) out := by
  intro draft area hholds hnodup
  cases hholds with
  | @cons _ _ _ first _ hfirst hrest =>
    cases hrest with
    | cons hsecond hrest =>
      rw [← add_assoc] at hnodup ⊢
      exact h draft _ (.cons (hfirst.append hsecond) hrest) hnodup

/-- The nodes of a part may be taken apart. -/
theorem split {id : NodeId} {tree : Markup}
    (h : Turns step (([id], [tree]) :: (ids, trees) :: parts) out) :
    Turns step ((id :: ids, tree :: trees) :: parts) out := by
  intro draft area hholds hnodup
  cases hholds with
  | cons hfirst hrest =>
    cases hfirst with
    | cons hcell hbelow hafter =>
      rw [add_assoc] at hnodup ⊢
      exact h draft _ (.cons (.singleton hcell hbelow) (.cons hafter hrest)) hnodup

/-- A step that gives the nodes of a part and leaves the draft alone. -/
theorem pure : Turns (pure ids) [(ids, trees)] trees := by
  intro draft area hholds _
  cases hholds with
  | cons hfirst hrest =>
    cases hrest
    refine ⟨ids, draft.doc, _, rfl, by simpa using hfirst, .refl _ _⟩

/-- A step that gives no nodes. -/
theorem nil : Turns (Pure.pure []) [] [] := fun draft area hholds _ ↦ by
  cases hholds
  exact ⟨[], draft.doc, 0, rfl, .nil, .refl _ _⟩

/-! ### Operations -/

theorem newNode {kind : Kind}
    (hnext : ∀ id, Turns (onNode id) (([id], [.node kind []]) :: parts) out) :
    Turns (newNode kind >>= onNode) parts out := by
  refine after (fun draft area hholds _ ↦ ?_) hnext
  have hparts : (draft.doc.alloc kind).1.Holds parts area := hholds.congr fun id hid ↦ by
    rw [Document.get?_alloc, if_neg (hholds.lt_size hid).ne]
  exact ⟨draft.doc.size, (draft.doc.alloc kind).1, _, rfl,
    .cons (.alloc_self draft.doc kind) hparts, .alloc draft.doc kind area⟩

/-- The children of a node give way to what is made of them and of another part. -/
theorem changeChildren {next : Unit → Setting (List NodeId)} {id : NodeId} {kind : Kind}
    {f : List NodeId → List NodeId} {g : List Markup → List Markup} {inner : List Markup}
    (hchange : ∀ (doc : Document) (children : List NodeId) (below rest : Multiset NodeId),
      doc.Spans children inner below → doc.Spans ids trees rest →
        doc.Spans (f children) (g inner) (below + rest))
    (hnext : Turns (next ()) (([id], [.node kind (g inner)]) :: parts) out) :
    Turns (changeChildren id f >>= next) (([id], [.node kind inner]) :: (ids, trees) :: parts)
      out := by
  refine after (fun draft area hholds hnodup ↦ ?_) fun _ ↦ hnext
  cases hholds with
  | @cons _ _ _ first _ hfirst hrest =>
    cases hrest with
    | @cons _ _ _ second rest hsecond hrest =>
      obtain ⟨kind', children, inner', below, heq, rfl, hcell, hbelow⟩ := hfirst.of_singleton
      obtain ⟨rfl, rfl⟩ : kind = kind' ∧ inner = inner' := by simpa using heq
      have hfresh : id ∉ below ∧ id ∉ second ∧ id ∉ rest := by
        rw [add_assoc, Multiset.singleton_add, Multiset.nodup_cons] at hnodup
        simpa using hnodup.1
      have hinner := hchange _ _ _ _ (hbelow.modifyChildren hfresh.1 f)
        (hsecond.modifyChildren hfresh.2.1 f)
      have hafter : (draft.doc.modifyChildren id f).Holds parts rest :=
        hrest.congr fun other hother ↦
          Document.get?_modifyChildren_of_ne (ne_of_mem_of_not_mem hother hfresh.2.2) f
      refine ⟨(), draft.doc.modifyChildren id f, _, rfl,
        .cons (.singleton (Document.get?_modifyChildren_self hcell f) hinner) hafter, ?_⟩
      rw [add_assoc, add_assoc, add_assoc]
      exact .modifyChildren draft.doc (by simp) f

/-- An element takes a part as its children. -/
theorem newElement {tag : List Char} {attrs : Attributes}
    (hnext : ∀ id, Turns (onNode id) (([id], [.element tag attrs trees]) :: parts) out) :
    Turns (newElement tag attrs ids >>= onNode) ((ids, trees) :: parts) out := by
  show Turns (Typeset.newNode (.element tag attrs) >>= fun id ↦
    Typeset.changeChildren id (fun _ ↦ ids) >>= fun _ ↦ onNode id) _ _
  refine newNode fun id ↦ changeChildren (g := fun _ ↦ trees) ?_ (hnext id)
  intro doc children below rest hbelow hrest
  cases hbelow
  simpa using hrest

/-- Whether a node is a paragraph is seen from its tree. -/
theorem isParagraph {next : Bool → Setting (List NodeId)} {id : NodeId} {tree : Markup}
    (hnext : Turns (next (isParagraphMarkup tree)) (([id], [tree]) :: parts) out) :
    Turns (isParagraph id >>= next) (([id], [tree]) :: parts) out := by
  intro draft area hholds hnodup
  obtain ⟨ids, doc, new, hrun, hspans, hchange⟩ := hnext draft area hholds hnodup
  refine ⟨ids, doc, new, ?_, hspans, hchange⟩
  cases hholds with
  | cons hfirst _ =>
    obtain ⟨kind, children, inner, below, heq, -, hcell, -⟩ := hfirst.of_singleton
    obtain rfl : tree = .node kind inner := by simpa using heq
    have hread : (Typeset.isParagraph id).run draft =
        (isParagraphMarkup (.node kind inner), draft) := by
      cases kind <;> simp [Typeset.isParagraph, isParagraphMarkup, Document.element?, hcell,
        Markup.kind] <;> rfl
    rw [StateT.run_bind, hread]
    exact hrun

/-- The children of a node stand for what is below the tree that the node stands for. -/
theorem childrenOf {next : List NodeId → Setting (List NodeId)} {id : NodeId} {tree : Markup}
    (hnext : ∀ ids, Turns (next ids) ((ids, tree.children) :: parts) out) :
    Turns (childrenOf id >>= next) (([id], [tree]) :: parts) out := by
  refine after (fun draft area hholds _ ↦ ?_) hnext
  cases hholds with
  | cons hfirst hrest =>
    obtain ⟨kind, children, inner, below, heq, rfl, hcell, hbelow⟩ := hfirst.of_singleton
    obtain rfl : tree = .node kind inner := by simpa using heq
    have hchildren : draft.doc.children id = children := Document.children_of_get? hcell
    refine ⟨draft.doc.children id, draft.doc, _, rfl, .cons (hchildren ▸ hbelow) hrest,
      (Document.Change.refl _ _).mono ?_⟩
    gcongr
    exact Multiset.le_add_left _ _

/-! ### Steps -/

theorem newText {value : List Char}
    (hnext : ∀ id, Turns (onNode id) (([id], [.leaf value]) :: parts) out) :
    Turns (newText value >>= onNode) parts out :=
  newNode hnext

theorem newPlain {tag : String}
    (hnext : ∀ id, Turns (onNode id) (([id], [plain tag trees]) :: parts) out) :
    Turns (newPlain tag ids >>= onNode) ((ids, trees) :: parts) out :=
  newElement hnext

theorem newLine (hnext : ∀ id, Turns (onNode id) (([id], [lineMarkup]) :: parts) out) :
    Turns (newLine >>= onNode) parts out :=
  newNode hnext

/-- A part without nodes is there when it is needed. -/
theorem empty (h : Turns step (([], []) :: parts) out) : Turns step parts out := by
  intro draft area hholds hnodup
  exact h draft area (by simpa using hholds.cons .nil) hnodup

/-- The part of a list of nodes is as the list. -/
theorem of_cons {id : NodeId}
    (h : ∀ tree rest, trees = tree :: rest →
      Turns step (([id], [tree]) :: (ids, rest) :: parts) out) :
    Turns step ((id :: ids, trees) :: parts) out := by
  refine of_length fun hlength ↦ ?_
  obtain ⟨tree, rest, heq⟩ : ∃ tree rest, trees = tree :: rest :=
    List.exists_cons_of_length_eq_add_one hlength.symm
  subst heq
  exact split (h tree rest rfl)

theorem of_nil (h : trees = [] → Turns step parts out) : Turns step (([], trees) :: parts) out := by
  intro draft area hholds hnodup
  cases hholds with
  | cons hfirst hrest =>
    cases hfirst
    simpa using h rfl draft _ hrest (by simpa using hnodup)

theorem followingLines : Turns (followingLines ids) [(ids, trees)] (followingMarkup trees) := by
  induction ids generalizing trees with
  | nil =>
    refine of_nil fun heq ↦ ?_
    subst heq
    exact nil
  | cons id ids ih =>
    refine of_cons fun tree rest heq ↦ ?_
    subst heq
    refine newLine fun line ↦ rotate (bind_one ih fun others ↦ ?_)
    exact rotate (rotate (join (join pure)))

theorem onLines : Turns (onLines ids) [(ids, trees)] (linesMarkup trees) := by
  cases ids with
  | nil =>
    refine of_nil fun heq ↦ ?_
    subst heq
    exact nil
  | cons id ids =>
    refine of_cons fun tree rest heq ↦ ?_
    subst heq
    exact swap (bind_one followingLines fun others ↦ swap (join pure))

theorem enclose : Turns (enclose ids) [(ids, trees)] (enclosedMarkup trees) := by
  cases ids with
  | nil =>
    refine of_nil fun heq ↦ ?_
    subst heq
    exact newLine fun line ↦ pure
  | cons id ids =>
    refine of_cons fun tree rest heq ↦ ?_
    subst heq
    refine newLine fun first ↦ rotate (bind_one followingLines fun others ↦ ?_)
    refine rotate (rotate (join (join (newLine fun last ↦ ?_))))
    exact swap (join pure)

theorem newEdge {isNeeded : Bool} : Turns (newEdge isNeeded) [] (edgeMarkup isNeeded) := by
  cases isNeeded with
  | false => exact nil
  | true => exact newLine fun line ↦ pure

theorem newBox {checked : Option Bool} : Turns (newBox checked) [] (boxMarkup checked) := by
  cases checked with
  | none => exact nil
  | some isChecked =>
    exact empty (newElement fun input ↦ newText fun space ↦ swap (join pure))

theorem fillBlock {isText isLoose : Bool} {id : NodeId} {tree : Markup} :
    Turns (fillBlock isText isLoose ids id) [(ids, trees), ([id], [tree])]
      (filledMarkup isText isLoose trees tree) := by
  obtain ⟨kind, inner⟩ := tree
  cases isText with
  | false => exact join pure
  | true =>
    refine swap (changeChildren (g := fun inner ↦ trees ++ inner) ?_ ?_)
    · intro doc children below rest hbelow hrest
      rw [add_comm]
      exact hrest.append hbelow
    · cases isLoose with
      | false => exact childrenOf fun content ↦ pure
      | true => exact pure

/-- A step without parts goes before the steps for the parts that are there. -/
theorem bind_none (hstep : Turns step [] trees)
    (hnext : ∀ ids, Turns (next ids) ((ids, trees) :: frame) out) :
    Turns (step >>= next) frame out :=
  bind hstep hnext

theorem placeBlock {isLoose isFirst isLast : Bool} {id : NodeId} {tree : Markup} :
    Turns (placeBlock isLoose isFirst isLast ids id) [(ids, trees), ([id], [tree])]
      (blockMarkup isLoose isFirst isLast trees tree) := by
  refine swap (isParagraph (bind_none newEdge fun front ↦ swap (rotate ?_)))
  refine bind_two fillBlock fun content ↦ swap (join (bind_none newEdge fun back ↦ ?_))
  exact swap (join pure)

theorem placeBlocks {isLoose isFirst : Bool} {box : List NodeId} {boxTrees : List Markup} :
    Turns (placeBlocks isLoose isFirst box ids) [(box, boxTrees), (ids, trees)]
      (blocksMarkup isLoose isFirst boxTrees trees) := by
  induction ids generalizing isFirst box boxTrees trees with
  | nil =>
    refine swap (of_nil fun heq ↦ ?_)
    subst heq
    exact pure
  | cons id ids ih =>
    refine swap (of_cons fun tree rest heq ↦ swap (of_length fun hlength ↦ ?_))
    subst heq
    have hlast : rest.isEmpty = ids.isEmpty := by
      rw [Bool.eq_iff_iff, List.isEmpty_iff_length_eq_zero, List.isEmpty_iff_length_eq_zero,
        hlength]
    rw [blocksMarkup, hlast]
    refine swap (rotate (bind_two placeBlock fun first ↦ swap (empty ?_)))
    exact bind_two ih fun others ↦ swap (join pure)

/-- The last node of a part may be taken apart. -/
theorem of_concat {id : NodeId}
    (h : ∀ front tree, trees = front ++ [tree] →
      Turns step ((ids, front) :: ([id], [tree]) :: parts) out) :
    Turns step ((ids ++ [id], trees) :: parts) out := by
  intro draft area hholds hnodup
  cases hholds with
  | cons hfirst hrest =>
    obtain ⟨front, others, first, second, rfl, rfl, hfront, hlast⟩ := hfirst.of_append
    obtain ⟨kind, _, inner, _, rfl, _, _, _⟩ := hlast.of_singleton
    rw [add_assoc] at hnodup ⊢
    exact h front (.node kind inner) rfl draft _ (.cons hfront (.cons hlast hrest)) hnodup

theorem placeBackLink {link : NodeId} {tree : Markup} :
    Turns (placeBackLink link ids) [([link], [tree]), (ids, trees)]
      (backLinkedMarkup tree trees) := by
  rcases List.eq_nil_or_concat ids with rfl | ⟨front, last, rfl⟩
  · refine swap (of_nil fun heq ↦ ?_)
    subst heq
    exact pure
  · rw [List.concat_eq_append]
    refine swap (of_concat fun frontTrees lastTree heq ↦ ?_)
    subst heq
    simp only [Typeset.placeBackLink, backLinkedMarkup, List.getLast?_concat, List.dropLast_concat]
    refine swap (isParagraph ?_)
    split
    · obtain ⟨kind, inner⟩ := lastTree
      refine rotate (newText fun space ↦ join (swap ?_))
      refine changeChildren (g := fun inner ↦ inner ++ [.leaf [' '], tree]) ?_ (swap (join pure))
      intro doc children below rest hbelow hrest
      exact hbelow.append hrest
    · exact swap (join (join pure))

end Turns

/-! ### Steps that start from nothing -/

namespace Makes

variable {step step' : Setting (List NodeId)} {next : List NodeId → Setting (List NodeId)}
  {marked marked' : Calls → Marked}

/-- A step that calls no footnote makes the same wherever it is taken. -/
theorem of_turns {trees : List Markup} (h : Turns step [] trees) :
    Makes step fun calls => (trees, calls) := by
  intro draft
  obtain ⟨ids, doc, new, hrun, hspans, hchange⟩ := h draft 0 .nil Multiset.nodup_zero
  exact ⟨ids, doc, hrun, new, hspans, hchange⟩

/-- A step may be another one at each draft. -/
theorem of_run (h : ∀ draft : Draft, ∃ other otherMarked, step.run draft = other.run draft ∧
      marked draft.calls = otherMarked draft.calls ∧ Makes other otherMarked) :
    Makes step marked := by
  intro draft
  obtain ⟨other, otherMarked, hrun, hmarked, hmakes⟩ := h draft
  rw [hrun, hmarked]
  exact hmakes draft

/-- Two steps that start from nothing go before a step for what they make. -/
theorem bind_two {both : List NodeId → List NodeId → Setting (List NodeId)}
    {f : List Markup → List Markup → List Markup}
    (hstep : Makes step marked) (hstep' : Makes step' marked')
    (hboth : ∀ ids trees ids' trees',
      Turns (both ids ids') [(ids, trees), (ids', trees')] (f trees trees')) :
    Makes (step >>= fun ids => step' >>= both ids) fun calls =>
      let (trees, calls) := marked calls
      let (trees', calls) := marked' calls
      (f trees trees', calls) := by
  intro draft
  obtain ⟨ids, doc, hrun, area, hspans, hchange⟩ := hstep draft
  obtain ⟨ids', doc', hrun', area', hspans', hchange'⟩ := hstep' ⟨doc, (marked draft.calls).2⟩
  have hsum : Document.Change draft.doc doc' 0 (area + area') :=
    hchange.trans (by simpa using hchange'.add_left area)
  have hfirst : doc'.Spans ids (marked draft.calls).1 area :=
    hchange'.spans hspans (Multiset.zero_disjoint _).symm
  obtain ⟨ids'', doc'', new, hrun'', hspans'', hchange''⟩ :=
    hboth ids _ ids' _ ⟨doc', (marked' (marked draft.calls).2).2⟩ _
      (.cons hfirst (.cons hspans' .nil)) (by simpa using Document.Adds.nodup hsum)
  refine ⟨ids'', doc'', ?_, new, hspans'', hsum.trans (by simpa using hchange'')⟩
  rw [StateT.run_bind, hrun]
  show StateT.run (step' >>= both ids) ⟨doc, (marked draft.calls).2⟩ = _
  rw [StateT.run_bind, hrun']
  exact hrun''

/-- A step that starts from nothing goes before a step for what it makes. -/
theorem bind {f : List Markup → List Markup} (hstep : Makes step marked)
    (hnext : ∀ ids trees, Turns (next ids) [(ids, trees)] (f trees)) :
    Makes (step >>= next) fun calls =>
      let (trees, calls) := marked calls
      (f trees, calls) := by
  intro draft
  obtain ⟨ids, doc, hrun, area, hspans, hchange⟩ := hstep draft
  obtain ⟨ids', doc', new, hrun', hspans', hchange'⟩ :=
    hnext ids _ ⟨doc, (marked draft.calls).2⟩ _ (.cons hspans .nil)
      (by simpa using Document.Adds.nodup hchange)
  refine ⟨ids', doc', ?_, new, hspans', hchange.trans (by simpa using hchange')⟩
  rw [StateT.run_bind, hrun]
  exact hrun'

theorem append (hstep : Makes step marked) (hstep' : Makes step' marked') :
    Makes (do let ids ← step; return ids ++ (← step')) fun calls =>
      let (trees, calls) := marked calls
      let (trees', calls) := marked' calls
      (trees ++ trees', calls) :=
  bind_two hstep hstep' fun _ _ _ _ ↦ .join .pure

end Makes

end Typeset

end Galley
