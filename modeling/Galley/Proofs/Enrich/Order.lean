import Galley.Proofs.Enrich.Headings

/-!
Passes in another order. Two rewrites commute on trees if each makes the same of them, and ends in
the same state, whether it comes first or second (`CommuteOn`); it is enough that they do so at each
node at which one of them acts (`CommuteAt.trees`). Of the four passes all but those for identifiers
and for self-links commute with each other, on trees that have no diagram in a heading, and neither
a heading nor an image in a block of code (`IsOrderly`). So in every order in which identifiers come
before self-links the passes make the same of such trees (`BuiltIn.rewriteAll_eq`).
-/

set_option autoImplicit false
set_option relaxedAutoImplicit false

namespace Galley.Enrich

open Html

namespace Rewrite

variable {σ τ : Type} {rewrite : Rewrite σ} {first : Rewrite σ} {second : Rewrite τ}
  {good : Markup → Prop}

/-! ### Trees that are left alone -/

mutual

/-- A tree is left alone if every tree in it is, where a rewrite looks at it. -/
theorem tree_eq_self (h : ∀ state tree result, Markup.All good [tree] →
      rewrite state tree = some result → result = (state, tree)) :
    ∀ (top : Markup) (state : σ), Markup.All good [top] → rewrite.tree state top = (state, top)
  | .node kind inner, state, hgood => by
    rw [Rewrite.tree]
    cases hrewrite : rewrite state (.node kind inner) with
    | some result => exact h state _ result hgood hrewrite
    | none =>
      dsimp only
      rw [trees_eq_self h inner state (Markup.All.singleton.1 hgood).2]

theorem trees_eq_self (h : ∀ state tree result, Markup.All good [tree] →
      rewrite state tree = some result → result = (state, tree)) :
    ∀ (tops : List Markup) (state : σ), Markup.All good tops →
      rewrite.trees state tops = (state, tops)
  | [], _, _ => rfl
  | top :: rest, state, hgood => by
    rw [Markup.All.cons, ← Markup.All.singleton] at hgood
    rw [Rewrite.trees, tree_eq_self h top state hgood.1]
    dsimp only
    rw [trees_eq_self h rest state hgood.2]

end

/-! ### Rewrites that act at some kinds of nodes -/

/-- The top of a tree says whether a rewrite acts at it. -/
def ActsAt (rewrite : Rewrite σ) (acts : Kind → Bool) : Prop :=
  ∀ state kind inner, rewrite state (.node kind inner) = none ↔ acts kind = false

namespace ActsAt

variable {acts : Kind → Bool} {kind : Kind} {inner : List Markup}

theorem tree_eq (h : rewrite.ActsAt acts) (hkind : acts kind = false) (state : σ) :
    rewrite.tree state (.node kind inner) =
      ((rewrite.trees state inner).1, .node kind (rewrite.trees state inner).2) := by
  rw [Rewrite.tree, (h state kind inner).2 hkind]

/-- Trees without a node at which a rewrite acts are left alone. -/
theorem tree_eq_self (h : rewrite.ActsAt acts) {top : Markup} (state : σ)
    (hnone : Markup.All (fun tree ↦ acts tree.kind = false) [top]) :
    rewrite.tree state top = (state, top) := by
  refine Rewrite.tree_eq_self (fun state tree result hgood hrewrite ↦ ?_) top state hnone
  obtain ⟨kind, inner⟩ := tree
  rw [(h state kind inner).2 (Markup.All.singleton.1 hgood).1] at hrewrite
  cases hrewrite

end ActsAt

/-! ### Rewrites that commute -/

/-- Two rewrites make the same of a tree in either order, and each ends in the same state. -/
def CommuteAt (first : Rewrite σ) (second : Rewrite τ) (tree : Markup) : Prop :=
  ∀ s t, ∃ final, first.tree s (second.tree t tree).2 = ((first.tree s tree).1, final) ∧
    second.tree t (first.tree s tree).2 = ((second.tree t tree).1, final)

/-- Two rewrites make the same of trees in either order, and each ends in the same state. -/
def CommuteOn (first : Rewrite σ) (second : Rewrite τ) (trees : List Markup) : Prop :=
  ∀ s t, ∃ final, first.trees s (second.trees t trees).2 = ((first.trees s trees).1, final) ∧
    second.trees t (first.trees s trees).2 = ((second.trees t trees).1, final)

namespace CommuteAt

variable {top : Markup}

theorem symm (h : first.CommuteAt second top) : second.CommuteAt first top := fun t s ↦
  let ⟨final, hfirst, hsecond⟩ := h s t
  ⟨final, hsecond, hfirst⟩

/-- A rewrite commutes with one that leaves a tree alone, and what is made of it. -/
theorem of_eq_self (htop : ∀ t, second.tree t top = (t, top))
    (hresult : ∀ s t, second.tree t (first.tree s top).2 = (t, (first.tree s top).2)) :
    first.CommuteAt second top := fun s t ↦
  ⟨(first.tree s top).2, by rw [htop], by rw [hresult, htop]⟩

/-- A rewrite that puts what is below a node into another one commutes with one that acts at neither
and changes nothing that the former looks at. -/
theorem of_wrap {acts : Kind → Bool} {kind : Kind} {inner : List Markup}
    (hacts : second.ActsAt acts) (hkind : acts kind = false)
    (hwrap : ∀ s t, ∃ s', ∃ wrap : List Markup → Markup,
      first s (.node kind inner) = some (s', wrap inner) ∧
        first s (.node kind (second.trees t inner).2) = some (s', wrap (second.trees t inner).2) ∧
          second.tree t (wrap inner) =
            ((second.trees t inner).1, wrap (second.trees t inner).2)) :
    first.CommuteAt second (.node kind inner) := by
  intro s t
  obtain ⟨s', wrap, hfirst, hafter, hsecond⟩ := hwrap s t
  refine ⟨wrap (second.trees t inner).2, ?_, ?_⟩
  · rw [hacts.tree_eq hkind, Rewrite.tree, hafter, Rewrite.tree, hfirst]
  · rw [Rewrite.tree, hfirst, hsecond, hacts.tree_eq hkind]

section Everywhere

variable {acts acts' : Kind → Bool}

mutual

/-- Rewrites commute on good trees if they do wherever one of them acts. -/
theorem tree (hfirst : first.ActsAt acts) (hsecond : second.ActsAt acts')
    (h : ∀ kind inner, Markup.All good [.node kind inner] → acts kind = true ∨ acts' kind = true →
      first.CommuteAt second (.node kind inner)) :
    ∀ top : Markup, Markup.All good [top] → first.CommuteAt second top
  | .node kind inner, hgood => by
    by_cases hacts : acts kind = true ∨ acts' kind = true
    · exact h kind inner hgood hacts
    · rw [not_or, Bool.not_eq_true, Bool.not_eq_true] at hacts
      intro s t
      obtain ⟨final, hleft, hright⟩ :=
        trees hfirst hsecond h inner (Markup.All.singleton.1 hgood).2 s t
      refine ⟨.node kind final, ?_, ?_⟩
      · simp only [hfirst.tree_eq hacts.1, hsecond.tree_eq hacts.2, hleft]
      · simp only [hfirst.tree_eq hacts.1, hsecond.tree_eq hacts.2, hright]

theorem trees (hfirst : first.ActsAt acts) (hsecond : second.ActsAt acts')
    (h : ∀ kind inner, Markup.All good [.node kind inner] → acts kind = true ∨ acts' kind = true →
      first.CommuteAt second (.node kind inner)) :
    ∀ tops : List Markup, Markup.All good tops → first.CommuteOn second tops
  | [], _ => fun _ _ ↦ ⟨[], rfl, rfl⟩
  | top :: rest, hgood => by
    rw [Markup.All.cons, ← Markup.All.singleton] at hgood
    intro s t
    obtain ⟨final, hleft, hright⟩ := tree hfirst hsecond h top hgood.1 s t
    obtain ⟨others, hleft', hright'⟩ := trees hfirst hsecond h rest hgood.2
      (first.tree s top).1 (second.tree t top).1
    refine ⟨final :: others, ?_, ?_⟩
    · simp only [Rewrite.trees, hleft, hleft']
    · simp only [Rewrite.trees, hright, hright']

end

end Everywhere

end CommuteAt

/-! ### Rewrites that report nothing -/

variable {silent : Rewrite (σ × Diagnostics)}

/-- A rewrite neither looks at reports nor adds to them. -/
def IsSilent (silent : Rewrite (σ × Diagnostics)) : Prop :=
  ∀ state d d' tree, silent (state, d') tree =
    (silent (state, d) tree).map fun result ↦ ((result.1.1, d'), result.2)

mutual

theorem IsSilent.tree (h : silent.IsSilent) (d d' : Diagnostics) :
    ∀ (top : Markup) (state : σ), silent.tree (state, d') top =
      (((silent.tree (state, d) top).1.1, d'), (silent.tree (state, d) top).2)
  | .node kind inner, state => by
    rw [Rewrite.tree, Rewrite.tree, h state d d']
    cases silent (state, d) (.node kind inner) with
    | some result => rfl
    | none =>
      simp only [Option.map_none]
      rw [h.trees d d' inner state]

theorem IsSilent.trees (h : silent.IsSilent) (d d' : Diagnostics) :
    ∀ (tops : List Markup) (state : σ), silent.trees (state, d') tops =
      (((silent.trees (state, d) tops).1.1, d'), (silent.trees (state, d) tops).2)
  | [], _ => rfl
  | top :: rest, state => by
    have hkept : silent.tree (state, d) top = _ := h.tree d d top state
    rw [Rewrite.trees, Rewrite.trees, h.tree d d' top state]
    dsimp only
    rw [h.trees d d' rest, hkept]

end

/-! ### Readings that a rewrite keeps -/

section Readings

variable {α : Type} {read : List Markup → α}

mutual

theorem read_tree (hnode : ∀ kind inner inner', read inner = read inner' →
      read [.node kind inner] = read [.node kind inner'])
    (hcons : ∀ top top' rest rest', read [top] = read [top'] → read rest = read rest' →
      read (top :: rest) = read (top' :: rest'))
    (h : ∀ state tree result, rewrite state tree = some result → read [result.2] = read [tree]) :
    ∀ (top : Markup) (state : σ), read [(rewrite.tree state top).2] = read [top]
  | .node kind inner, state => by
    rw [Rewrite.tree]
    cases hrewrite : rewrite state (.node kind inner) with
    | some result => exact h state _ result hrewrite
    | none => exact hnode kind _ inner (read_trees hnode hcons h inner state)

/-- What is read of trees stays, if it is what is read of each and stays where another tree takes
the place of one. -/
theorem read_trees (hnode : ∀ kind inner inner', read inner = read inner' →
      read [.node kind inner] = read [.node kind inner'])
    (hcons : ∀ top top' rest rest', read [top] = read [top'] → read rest = read rest' →
      read (top :: rest) = read (top' :: rest'))
    (h : ∀ state tree result, rewrite state tree = some result → read [result.2] = read [tree]) :
    ∀ (tops : List Markup) (state : σ), read (rewrite.trees state tops).2 = read tops
  | [], _ => rfl
  | top :: rest, state =>
    hcons _ _ _ _ (read_tree hnode hcons h top state) (read_trees hnode hcons h rest _)

end

end Readings

end Rewrite

/-! ### Kinds of nodes -/

/-- Whether a node is a block that is set as it is written. -/
def isBlockKind : Kind → Bool
  | .element tag _ => tag == "pre".toList
  | _ => false

/-- Whether a node is the code of a diagram. -/
def isDiagramKind : Kind → Bool
  | .element tag attrs => tag == "code".toList && isDiagram attrs
  | _ => false

/-- No diagram is in a heading, and neither a heading nor an image in a block. -/
structure IsOrderly (tree : Markup) : Prop where
  heading : isHeadingKind tree.kind = true →
    Markup.All (fun lower ↦ isDiagramKind lower.kind = false) tree.children
  block : isBlockKind tree.kind = true →
    Markup.All (fun lower ↦ (isHeadingKind lower.kind || isImageKind lower.kind) = false)
      tree.children

theorem isHeadingKind_eq_true {kind : Kind} (h : isHeadingKind kind = true) :
    ∃ tag attrs, kind = .element tag attrs ∧ tag ∈ headingTags := by
  cases kind with
  | element tag attrs => exact ⟨tag, attrs, rfl, mem_headingTags h⟩
  | _ => cases h

theorem isImageKind_eq_true {kind : Kind} (h : isImageKind kind = true) :
    ∃ attrs, kind = .element "img".toList attrs := by
  cases kind with
  | element tag attrs => exact ⟨attrs, by rw [beq_iff_eq.1 h]⟩
  | _ => cases h

theorem isBlockKind_eq_true {kind : Kind} (h : isBlockKind kind = true) :
    ∃ attrs, kind = .element "pre".toList attrs := by
  cases kind with
  | element tag attrs => exact ⟨attrs, by rw [beq_iff_eq.1 h]⟩
  | _ => cases h

/-- A heading is none of the other kinds. -/
theorem kinds_of_isHeadingKind {kind : Kind} (h : isHeadingKind kind = true) :
    isImageKind kind = false ∧ isBlockKind kind = false ∧ isDiagramKind kind = false := by
  obtain ⟨tag, attrs, rfl, htag⟩ := isHeadingKind_eq_true h
  have hall : ∀ tag ∈ headingTags, (tag == "img".toList) = false ∧ (tag == "pre".toList) = false ∧
      (tag == "code".toList) = false := by
    decide
  exact ⟨(hall tag htag).1, (hall tag htag).2.1, by
    rw [isDiagramKind, (hall tag htag).2.2, Bool.false_and]⟩

/-! ### Where the passes act -/

theorem headingMarkup?_eq_none_iff {kind : Kind} {inner : List Markup} :
    headingMarkup? (.node kind inner) = none ↔ isHeadingKind kind = false := by
  cases kind with
  | element tag attrs => simp [headingMarkup?, isHeadingKind]
  | _ => exact iff_of_true rfl rfl

theorem assignIdMarkup_actsAt : assignIdMarkup.ActsAt isHeadingKind := fun _ _ _ ↦
  Option.map_eq_none_iff.trans headingMarkup?_eq_none_iff

theorem wrapHeadingMarkup_actsAt (className : List Char) :
    (wrapHeadingMarkup className).ActsAt isHeadingKind := fun _ _ _ ↦
  Option.map_eq_none_iff.trans headingMarkup?_eq_none_iff

theorem adjustImageMarkup_actsAt (size : ImageSize) :
    (adjustImageMarkup size).ActsAt isImageKind := by
  intro state kind inner
  cases kind with
  | element tag attrs =>
    by_cases htag : tag = "img".toList
    · simp only [adjustImageMarkup, isImageKind, htag, ↓reduceIte, beq_self_eq_true]
      cases imageAddress? attrs <;> simp
    · simp only [adjustImageMarkup, isImageKind, if_neg htag, beq_eq_false_iff_ne]
      exact iff_of_true trivial htag
  | _ => exact iff_of_true rfl rfl

theorem replaceDiagramMarkup_actsAt : replaceDiagramMarkup.ActsAt isBlockKind := by
  intro state kind inner
  cases kind with
  | element tag attrs =>
    by_cases htag : tag = "pre".toList
    · simp only [replaceDiagramMarkup, isBlockKind, htag, ↓reduceIte, beq_self_eq_true]
      cases diagramSourceMarkup? inner <;> simp
    · simp only [replaceDiagramMarkup, isBlockKind, if_neg htag, beq_eq_false_iff_ne]
      exact iff_of_true trivial htag
  | _ => exact iff_of_true rfl rfl

/-- Trees without code of a diagram are left alone by the pass for diagrams. -/
theorem replaceDiagramMarkup_eq_self {top : Markup} (state : Unit × Diagnostics)
    (h : Markup.All (fun tree ↦ isDiagramKind tree.kind = false) [top]) :
    replaceDiagramMarkup.tree state top = (state, top) := by
  refine Rewrite.tree_eq_self (fun state tree result hgood hresult ↦ ?_) top state h
  obtain ⟨attrs, inner, rfl, rfl | ⟨source, hsource, -⟩⟩ := replaceDiagramMarkup_eq_some hresult
  · rfl
  · have hinner := (Markup.All.singleton.1 hgood).2
    unfold diagramSourceMarkup? at hsource
    split at hsource
    · next tag attrs content rest =>
      have hcode : (tag == "code".toList && isDiagram attrs) = false :=
        (Markup.All.cons.1 hinner).1.1
      rw [hcode] at hsource
      cases hsource
    · cases hsource

/-! ### What the passes for headings look at -/

/-- Whether a link is in trees. -/
def hasLink (trees : List Markup) : Bool :=
  (Markup.subtreesAll trees).any fun tree ↦ isLinkKind tree.kind

/-- What a pass does with a heading depends on the text of the heading and on whether a link is in
it. The heading gets other attributes, or what is in it is put into an element besides. -/
structure IsForHeadings {σ : Type} (rewrite : Rewrite σ) : Prop where
  acts : rewrite.ActsAt isHeadingKind
  result : ∀ state kind inner inner', isHeadingKind kind = true →
    Markup.textAll inner = Markup.textAll inner' → hasLink inner = hasLink inner' →
      ∃ state' kind', isHeadingKind kind' = true ∧
        ((rewrite state (.node kind inner) = some (state', .node kind' inner) ∧
            rewrite state (.node kind inner') = some (state', .node kind' inner')) ∨
          ∃ attrs, rewrite state (.node kind inner) =
              some (state', .node kind' [.element ['a'] attrs inner]) ∧
            rewrite state (.node kind inner') =
              some (state', .node kind' [.element ['a'] attrs inner']))

theorem assignIdMarkup_isForHeadings : IsForHeadings assignIdMarkup where
  acts := assignIdMarkup_actsAt
  result state kind inner inner' hkind htext _ := by
    obtain ⟨tag, attrs, rfl, -⟩ := isHeadingKind_eq_true hkind
    have hread (inner : List Markup) :
        headingMarkup? (.element tag attrs inner) = some attrs := if_pos hkind
    have htext' : (Markup.element tag attrs inner').text = (Markup.element tag attrs inner).text :=
      htext.symm
    simp only [assignIdMarkup, hread, Option.map_some, htext']
    rcases attrs.get? .id with _ | _ | ⟨c, rest⟩
    · exact ⟨_, .element tag (attrs.set .id _), hkind, .inl ⟨rfl, rfl⟩⟩
    · exact ⟨_, .element tag (attrs.set .id _), hkind, .inl ⟨rfl, rfl⟩⟩
    · exact ⟨_, .element tag attrs, hkind, .inl ⟨rfl, rfl⟩⟩

theorem wrapHeadingMarkup_isForHeadings (className : List Char) :
    IsForHeadings (wrapHeadingMarkup className) where
  acts := wrapHeadingMarkup_actsAt className
  result state kind inner inner' hkind _ hlink := by
    obtain ⟨tag, attrs, rfl, -⟩ := isHeadingKind_eq_true hkind
    have hread (inner : List Markup) :
        headingMarkup? (.element tag attrs inner) = some attrs := if_pos hkind
    have hlink' : (Markup.element tag attrs inner').hasBelow isLinkKind =
        (Markup.element tag attrs inner).hasBelow isLinkKind := hlink.symm
    simp only [wrapHeadingMarkup, hread, Option.map_some, hlink']
    cases attrs.get? .id with
    | none => exact ⟨_, _, hkind, .inl ⟨rfl, rfl⟩⟩
    | some id =>
      cases (Markup.element tag attrs inner).hasBelow isLinkKind with
      | true => exact ⟨_, _, hkind, .inl ⟨rfl, rfl⟩⟩
      | false => exact ⟨_, _, hkind, .inr ⟨_, rfl, rfl⟩⟩

/-- What is in an image has no part in what becomes of it. -/
theorem adjustImageMarkup_image (size : ImageSize) (state : Unit × Diagnostics)
    (attrs : Attributes) : ∃ state' attrs', ∀ inner,
      adjustImageMarkup size state (.element "img".toList attrs inner) =
        some (state', .element "img".toList attrs' inner) := by
  simp only [adjustImageMarkup, ↓reduceIte]
  cases imageAddress? attrs with
  | none => exact ⟨_, _, fun _ ↦ rfl⟩
  | some src => exact ⟨_, _, fun _ ↦ rfl⟩

/-- Images are adjusted without changing the text of trees. -/
theorem adjustImageMarkup_textAll (size : ImageSize) (state : Unit × Diagnostics)
    (trees : List Markup) :
    Markup.textAll ((adjustImageMarkup size).trees state trees).2 = Markup.textAll trees := by
  refine Rewrite.read_trees (fun kind inner inner' h ↦ ?_) (fun top top' rest rest' h h' ↦ ?_)
    (fun state tree result hresult ↦ ?_) trees state
  · cases kind <;> simp [Markup.textAll, Markup.text, h]
  · simpa [Markup.textAll, h'] using h
  · obtain ⟨attrs, inner, rfl, ⟨-, rfl⟩ | ⟨src, -, rfl⟩⟩ := adjustImageMarkup_eq_some hresult
    · rfl
    · rfl

/-- Images are adjusted without changing whether a link is in trees. -/
theorem adjustImageMarkup_hasLink (size : ImageSize) (state : Unit × Diagnostics)
    (trees : List Markup) :
    hasLink ((adjustImageMarkup size).trees state trees).2 = hasLink trees := by
  refine Rewrite.read_trees (fun kind inner inner' h ↦ ?_) (fun top top' rest rest' h h' ↦ ?_)
    (fun state tree result hresult ↦ ?_) trees state
  · simpa [hasLink, Markup.subtreesAll, Markup.subtrees, Markup.kind] using congrArg _ h
  · simp only [hasLink, Markup.subtreesAll, List.any_append, List.append_nil] at h h' ⊢
    rw [h, h']
  · obtain ⟨attrs, inner, rfl, ⟨-, rfl⟩ | ⟨src, -, rfl⟩⟩ := adjustImageMarkup_eq_some hresult
    · rfl
    · rfl

/-! ### Passes that commute -/

section Commuting

variable {σ : Type} {rewrite : Rewrite σ} {acts : Kind → Bool}

/-- Images may be adjusted before or after any pass that does not act at them. -/
theorem adjustImageMarkup_commuteAt (size : ImageSize) (hacts : rewrite.ActsAt acts)
    (himage : ∀ kind, isImageKind kind = true → acts kind = false) {kind : Kind}
    (hkind : isImageKind kind = true) (inner : List Markup) :
    (adjustImageMarkup size).CommuteAt rewrite (.node kind inner) := by
  obtain ⟨attrs, rfl⟩ := isImageKind_eq_true hkind
  refine .of_wrap hacts (himage _ hkind) fun state state' ↦ ?_
  obtain ⟨state'', attrs', hresult⟩ := adjustImageMarkup_image size state attrs
  exact ⟨state'', _, hresult _, hresult _, hacts.tree_eq (himage _ rfl) state'⟩

/-- Diagrams may be replaced before or after any pass that acts at headings or images only. -/
theorem replaceDiagramMarkup_commuteAt (hacts : rewrite.ActsAt acts)
    (honly : ∀ kind, (isHeadingKind kind || isImageKind kind) = false → acts kind = false)
    {kind : Kind} (hkind : isBlockKind kind = true) {inner : List Markup}
    (horderly : IsOrderly (.node kind inner)) :
    replaceDiagramMarkup.CommuteAt rewrite (.node kind inner) := by
  obtain ⟨attrs, rfl⟩ := isBlockKind_eq_true hkind
  have hblock : Markup.All (fun tree ↦ acts tree.kind = false)
      [.element "pre".toList attrs inner] :=
    Markup.All.singleton.2
      ⟨honly _ rfl, (horderly.block hkind).imp fun tree htree ↦ honly tree.kind htree⟩
  refine .of_eq_self (fun state ↦ hacts.tree_eq_self state hblock) fun state state' ↦ ?_
  rw [Rewrite.tree]
  cases hresult : replaceDiagramMarkup state (.element "pre".toList attrs inner) with
  | none =>
    rw [(replaceDiagramMarkup_actsAt _ _ _).1 hresult] at hkind
    cases hkind
  | some result =>
    obtain ⟨_, _, _, rfl | ⟨source, -, rfl⟩⟩ := replaceDiagramMarkup_eq_some hresult
    · exact hacts.tree_eq_self state' hblock
    · refine hacts.tree_eq_self state' ?_
      simp only [placeholderMarkup, Markup.All.cons, Markup.children, Markup.kind,
        Markup.All.nil, and_true]
      exact ⟨honly _ rfl, honly _ rfl, honly _ rfl⟩

/-- A pass for headings and the one for images may change places. -/
theorem IsForHeadings.commuteOn_images (h : IsForHeadings rewrite) (size : ImageSize)
    {trees : List Markup} (horderly : Markup.All IsOrderly trees) :
    rewrite.CommuteOn (adjustImageMarkup size) trees := by
  refine Rewrite.CommuteAt.trees h.acts (adjustImageMarkup_actsAt size)
    (fun kind inner _ hacts ↦ ?_) trees horderly
  rcases hacts with hkind | hkind
  · refine .of_wrap (adjustImageMarkup_actsAt size) (kinds_of_isHeadingKind hkind).1
      fun state state' ↦ ?_
    have htext := adjustImageMarkup_textAll size state' inner
    have hlink := adjustImageMarkup_hasLink size state' inner
    obtain ⟨state'', kind', hkind', ⟨hbefore, hafter⟩ | ⟨attrs, hbefore, hafter⟩⟩ :=
      h.result state kind inner _ hkind htext.symm hlink.symm
    · exact ⟨state'', _, hbefore, hafter,
        (adjustImageMarkup_actsAt size).tree_eq (kinds_of_isHeadingKind hkind').1 state'⟩
    · refine ⟨state'', fun inner ↦ .node kind' [.element ['a'] attrs inner], hbefore, hafter, ?_⟩
      rw [(adjustImageMarkup_actsAt size).tree_eq (kinds_of_isHeadingKind hkind').1, Rewrite.trees,
        (adjustImageMarkup_actsAt size).tree_eq rfl]
      rfl
  · refine (adjustImageMarkup_commuteAt size h.acts (fun kind himage ↦ ?_) hkind inner).symm
    obtain ⟨attrs, rfl⟩ := isImageKind_eq_true himage
    rfl

/-- A pass for headings and the one for diagrams may change places. -/
theorem IsForHeadings.commuteOn_diagrams (h : IsForHeadings rewrite) {trees : List Markup}
    (horderly : Markup.All IsOrderly trees) : rewrite.CommuteOn replaceDiagramMarkup trees := by
  refine Rewrite.CommuteAt.trees h.acts replaceDiagramMarkup_actsAt
    (fun kind inner hgood hacts ↦ ?_) trees horderly
  have htop := (Markup.All.singleton.1 hgood).1
  rcases hacts with hkind | hkind
  · have hnone (kind : Kind) (hkind : isHeadingKind kind = true) (inner : List Markup)
        (hinner : Markup.All (fun lower ↦ isDiagramKind lower.kind = false) inner) :
        Markup.All (fun tree ↦ isDiagramKind tree.kind = false) [.node kind inner] :=
      Markup.All.singleton.2 ⟨(kinds_of_isHeadingKind hkind).2.2, hinner⟩
    have hinner := htop.heading hkind
    refine .of_eq_self (fun state ↦ replaceDiagramMarkup_eq_self state (hnone kind hkind _ hinner))
      fun state state' ↦ ?_
    obtain ⟨state'', kind', hkind', ⟨hresult, -⟩ | ⟨attrs, hresult, -⟩⟩ :=
      h.result state kind inner inner hkind rfl rfl
    · rw [Rewrite.tree, hresult]
      exact replaceDiagramMarkup_eq_self state' (hnone kind' hkind' _ hinner)
    · rw [Rewrite.tree, hresult]
      refine replaceDiagramMarkup_eq_self state' (hnone kind' hkind' _ ?_)
      exact Markup.All.singleton.2 ⟨rfl, hinner⟩
  · refine (replaceDiagramMarkup_commuteAt h.acts (fun kind hnot ↦ ?_) hkind htop).symm
    exact (Bool.or_eq_false_iff.1 hnot).1

/-- The passes for diagrams and images may change places. -/
theorem replaceDiagramMarkup_commuteOn_images (size : ImageSize) {trees : List Markup}
    (horderly : Markup.All IsOrderly trees) :
    replaceDiagramMarkup.CommuteOn (adjustImageMarkup size) trees := by
  refine Rewrite.CommuteAt.trees replaceDiagramMarkup_actsAt (adjustImageMarkup_actsAt size)
    (fun kind inner hgood hacts ↦ ?_) trees horderly
  rcases hacts with hkind | hkind
  · exact replaceDiagramMarkup_commuteAt (adjustImageMarkup_actsAt size)
      (fun kind hnot ↦ (Bool.or_eq_false_iff.1 hnot).2) hkind (Markup.All.singleton.1 hgood).1
  · refine (adjustImageMarkup_commuteAt size replaceDiagramMarkup_actsAt
      (fun kind himage ↦ ?_) hkind inner).symm
    obtain ⟨attrs, rfl⟩ := isImageKind_eq_true himage
    rfl

end Commuting

theorem assignIdMarkup_isSilent : assignIdMarkup.IsSilent := by
  intro slugger d d' tree
  simp only [assignIdMarkup, Option.map_map]
  refine Option.map_congr fun attrs _ ↦ ?_
  simp only [Function.comp_apply]
  rcases attrs.get? .id with _ | _ | ⟨c, rest⟩ <;> rfl

theorem wrapHeadingMarkup_isSilent (className : List Char) :
    (wrapHeadingMarkup className).IsSilent := by
  intro state d d' tree
  simp only [wrapHeadingMarkup, Option.map_map]
  refine Option.map_congr fun attrs _ ↦ ?_
  simp only [Function.comp_apply]
  cases attrs.get? .id with
  | none => rfl
  | some id => cases tree.hasBelow isLinkKind <;> rfl

theorem replaceDiagramMarkup_isSilent : replaceDiagramMarkup.IsSilent := by
  intro state d d' tree
  obtain ⟨kind, inner⟩ := tree
  cases kind with
  | element tag attrs =>
    simp only [replaceDiagramMarkup]
    split_ifs
    · cases diagramSourceMarkup? inner <;> rfl
    · rfl
  | _ => rfl

/-! ### Orderly trees stay orderly -/

/-- Where only trees below one are rewritten, it stays orderly if a rewrite puts no diagram, heading
or image where there was none. -/
theorem IsOrderly.descend {σ : Type} {rewrite : Rewrite σ}
    (hdiagram : rewrite.Keeps fun tree ↦ isDiagramKind tree.kind = false)
    (hblock : rewrite.Keeps fun tree ↦ (isHeadingKind tree.kind || isImageKind tree.kind) = false)
    {state : σ} {kind : Kind} {inner : List Markup} (h : IsOrderly (.node kind inner)) :
    IsOrderly (.node kind (rewrite.trees state inner).2) where
  heading hkind := hdiagram.trees state inner (h.heading hkind)
  block hkind := hblock.trees state inner (h.block hkind)

/-- An element that is neither a heading nor a block is orderly. -/
theorem isOrderly_element {tag : List Char}
    (htag : (headingLevel? tag).isSome = false ∧ (tag == "pre".toList) = false)
    (attrs : Attributes) (inner : List Markup) : IsOrderly (.element tag attrs inner) where
  heading hkind := by
    rw [Markup.kind, isHeadingKind, htag.1] at hkind
    cases hkind
  block hkind := by
    rw [Markup.kind, isBlockKind, htag.2] at hkind
    cases hkind

/-- A heading without diagrams is orderly. -/
theorem isOrderly_heading {tag : List Char} (htag : (headingLevel? tag).isSome = true)
    (attrs : Attributes) {inner : List Markup}
    (h : Markup.All (fun lower ↦ isDiagramKind lower.kind = false) inner) :
    IsOrderly (.element tag attrs inner) where
  heading _ := h
  block hblock := by
    have hkind : isHeadingKind (.element tag attrs) = true := htag
    rw [Markup.kind, (kinds_of_isHeadingKind hkind).2.1] at hblock
    cases hblock

theorem all_isOrderly_placeholderMarkup (source : List Char) :
    Markup.All IsOrderly [placeholderMarkup source] := by
  have hleaf : IsOrderly (.leaf loadingText) := ⟨nofun, nofun⟩
  have hpre : IsOrderly (.element "pre".toList loadingAttributes [.leaf loadingText]) :=
    ⟨nofun, fun _ ↦ Markup.All.singleton.2 ⟨rfl, .nil⟩⟩
  exact Markup.All.singleton.2 ⟨isOrderly_element ⟨rfl, rfl⟩ _ _,
    Markup.All.singleton.2 ⟨hpre, Markup.All.singleton.2 ⟨hleaf, .nil⟩⟩⟩

namespace BuiltIn

/-- No pass puts a node of a kind where there was none, if the kind can be told without the
attributes of headings and images, and if nothing that the passes add is of it. -/
theorem keeps_kind (builtIn : BuiltIn) {test : Kind → Bool}
    (hsame : ∀ tag ∈ "img".toList :: headingTags, ∀ attrs attrs',
      test (.element tag attrs) = test (.element tag attrs'))
    (hadded : ∀ tag ∈ [['a'], "div".toList, "pre".toList], ∀ attrs,
      test (.element tag attrs) = false)
    (htext : ∀ value, test (.text value) = false) :
    builtIn.Keeps fun tree ↦ test tree.kind = false := by
  have hattrs {tag : List Char} (htag : tag ∈ "img".toList :: headingTags)
      {attrs attrs' : Attributes} {inner : List Markup}
      (h : Markup.All (fun tree ↦ test tree.kind = false) [.element tag attrs inner]) :
      Markup.All (fun tree ↦ test tree.kind = false) [.element tag attrs' inner] := by
    rw [Markup.All.singleton] at h ⊢
    exact ⟨(hsame tag htag attrs' attrs).trans h.1, h.2⟩
  cases builtIn with
  | headingIds =>
    refine ⟨fun state tree result hresult h ↦ ?_, fun _ _ _ _ h _ ↦ h⟩
    obtain ⟨tag, attrs, inner, rfl, htag, ⟨c, rest, -, rfl⟩ | ⟨-, rfl⟩⟩ :=
      assignIdMarkup_eq_some hresult
    · exact h
    · exact hattrs (List.mem_cons_of_mem _ (mem_headingTags htag)) h
  | headingAnchors className =>
    refine ⟨fun state tree result hresult h ↦ ?_, fun _ _ _ _ h _ ↦ h⟩
    obtain ⟨tag, attrs, inner, rfl, -, rfl | ⟨id, -, rfl⟩⟩ := wrapHeadingMarkup_eq_some hresult
    · exact h
    · rw [Markup.All.singleton] at h ⊢
      exact ⟨h.1, Markup.All.singleton.2 ⟨hadded _ (by simp) _, h.2⟩⟩
  | images size =>
    refine ⟨fun state tree result hresult h ↦ ?_, fun _ _ _ _ h _ ↦ h⟩
    obtain ⟨attrs, inner, rfl, ⟨-, rfl⟩ | ⟨src, -, rfl⟩⟩ := adjustImageMarkup_eq_some hresult
    · exact hattrs (by simp) h
    · exact hattrs (by simp) h
  | diagrams =>
    refine ⟨fun state tree result hresult h ↦ ?_, fun _ _ _ _ h _ ↦ h⟩
    obtain ⟨attrs, inner, rfl, rfl | ⟨source, -, rfl⟩⟩ := replaceDiagramMarkup_eq_some hresult
    · exact h
    · exact Markup.All.singleton.2 ⟨hadded _ (by simp) _, Markup.All.singleton.2
        ⟨hadded _ (by simp) _, Markup.All.singleton.2 ⟨htext _, .nil⟩⟩⟩

theorem keeps_isDiagramKind (builtIn : BuiltIn) :
    builtIn.Keeps fun tree ↦ isDiagramKind tree.kind = false := by
  have hnot : ∀ tag ∈ "img".toList :: headingTags, (tag == "code".toList) = false := by decide
  have hsame (tag : List Char) (htag : tag ∈ "img".toList :: headingTags) (attrs : Attributes) :
      isDiagramKind (.element tag attrs) = false := by
    rw [isDiagramKind, hnot tag htag, Bool.false_and]
  refine builtIn.keeps_kind (fun tag htag attrs attrs' ↦ ?_) (fun tag htag attrs ↦ ?_) fun _ ↦ rfl
  · rw [hsame tag htag, hsame tag htag]
  · fin_cases htag <;> rfl

theorem keeps_isHeadingKind_or_isImageKind (builtIn : BuiltIn) :
    builtIn.Keeps fun tree ↦ (isHeadingKind tree.kind || isImageKind tree.kind) = false := by
  refine @keeps_kind builtIn (fun kind ↦ isHeadingKind kind || isImageKind kind)
    (fun _ _ _ _ ↦ rfl) (fun tag htag attrs ↦ ?_) fun _ ↦ rfl
  fin_cases htag <;> rfl

theorem keeps_isOrderly (builtIn : BuiltIn) : builtIn.Keeps IsOrderly := by
  have hdiagram := builtIn.keeps_isDiagramKind
  have hblock := builtIn.keeps_isHeadingKind_or_isImageKind
  cases builtIn with
  | headingIds =>
    refine ⟨fun state tree result hresult h ↦ ?_, fun _ _ _ _ h _ ↦ h.descend hdiagram hblock⟩
    obtain ⟨tag, attrs, inner, rfl, htag, ⟨c, rest, -, rfl⟩ | ⟨-, rfl⟩⟩ :=
      assignIdMarkup_eq_some hresult
    · exact h
    · rw [Markup.All.singleton] at h ⊢
      exact ⟨isOrderly_heading htag _ (h.1.heading htag), h.2⟩
  | headingAnchors className =>
    refine ⟨fun state tree result hresult h ↦ ?_, fun _ _ _ _ h _ ↦ h.descend hdiagram hblock⟩
    obtain ⟨tag, attrs, inner, rfl, htag, rfl | ⟨id, -, rfl⟩⟩ := wrapHeadingMarkup_eq_some hresult
    · exact h
    · rw [Markup.All.singleton] at h ⊢
      exact ⟨isOrderly_heading htag _ (Markup.All.singleton.2 ⟨rfl, h.1.heading htag⟩),
        Markup.All.singleton.2 ⟨isOrderly_element ⟨rfl, rfl⟩ _ _, h.2⟩⟩
  | images size =>
    refine ⟨fun state tree result hresult h ↦ ?_, fun _ _ _ _ h _ ↦ h.descend hdiagram hblock⟩
    obtain ⟨attrs, inner, rfl, ⟨-, rfl⟩ | ⟨src, -, rfl⟩⟩ := adjustImageMarkup_eq_some hresult
    · exact Markup.All.singleton.2
        ⟨isOrderly_element ⟨rfl, rfl⟩ _ _, (Markup.All.singleton.1 h).2⟩
    · exact Markup.All.singleton.2
        ⟨isOrderly_element ⟨rfl, rfl⟩ _ _, (Markup.All.singleton.1 h).2⟩
  | diagrams =>
    refine ⟨fun state tree result hresult h ↦ ?_, fun _ _ _ _ h _ ↦ h.descend hdiagram hblock⟩
    obtain ⟨attrs, inner, rfl, rfl | ⟨source, -, rfl⟩⟩ := replaceDiagramMarkup_eq_some hresult
    · exact h
    · exact all_isOrderly_placeholderMarkup source

/-! ### Orders of the passes -/

variable {b c : BuiltIn} {trees : List Markup}

/-- Two passes make the same of orderly trees in either order. -/
def Commutes (b c : BuiltIn) : Prop :=
  ∀ d trees, Markup.All IsOrderly trees → rewriteAll [b, c] d trees = rewriteAll [c, b] d trees

theorem Commutes.symm (h : Commutes b c) : Commutes c b := fun d trees horderly ↦
  (h d trees horderly).symm

/-- Passes commute if what they do to trees does, and one of them reports nothing. -/
theorem commutes_of {σ τ : Type} {first : Rewrite (σ × Diagnostics)}
    {second : Rewrite (τ × Diagnostics)} {s : σ} {t : τ}
    (hb : ∀ d trees, b.rewrite d trees = (first.trees (s, d) trees).map Prod.snd id)
    (hc : ∀ d trees, c.rewrite d trees = (second.trees (t, d) trees).map Prod.snd id)
    (hsilent : first.IsSilent)
    (hcommute : ∀ trees, Markup.All IsOrderly trees → first.CommuteOn second trees) :
    Commutes b c := by
  intro d trees horderly
  obtain ⟨final, hleft, hright⟩ := hcommute trees horderly (s, d) (t, d)
  have hkept : (first.trees (s, d) trees).1.2 = d := by rw [hsilent.trees d d trees s]
  simp only [rewriteAll, List.foldl_cons, List.foldl_nil, hb, hc, Prod.map_fst, Prod.map_snd,
    id_eq, hkept, hright]
  rw [hsilent.trees d, hleft]
  rfl

theorem headingIds_commutes_images (size : ImageSize) : Commutes .headingIds (.images size) :=
  commutes_of (fun _ _ ↦ rfl) (fun _ _ ↦ rfl) assignIdMarkup_isSilent fun _ horderly ↦
    assignIdMarkup_isForHeadings.commuteOn_images size horderly

theorem headingIds_commutes_diagrams : Commutes .headingIds .diagrams :=
  commutes_of (fun _ _ ↦ rfl) (fun _ _ ↦ rfl) assignIdMarkup_isSilent fun _ horderly ↦
    assignIdMarkup_isForHeadings.commuteOn_diagrams horderly

theorem headingAnchors_commutes_images (className : List Char) (size : ImageSize) :
    Commutes (.headingAnchors className) (.images size) :=
  commutes_of (fun _ _ ↦ rfl) (fun _ _ ↦ rfl) (wrapHeadingMarkup_isSilent className)
    fun _ horderly ↦ (wrapHeadingMarkup_isForHeadings className).commuteOn_images size horderly

theorem headingAnchors_commutes_diagrams (className : List Char) :
    Commutes (.headingAnchors className) .diagrams :=
  commutes_of (fun _ _ ↦ rfl) (fun _ _ ↦ rfl) (wrapHeadingMarkup_isSilent className)
    fun _ horderly ↦ (wrapHeadingMarkup_isForHeadings className).commuteOn_diagrams horderly

theorem diagrams_commutes_images (size : ImageSize) : Commutes .diagrams (.images size) :=
  commutes_of (fun _ _ ↦ rfl) (fun _ _ ↦ rfl) replaceDiagramMarkup_isSilent fun _ horderly ↦
    replaceDiagramMarkup_commuteOn_images size horderly

theorem rewriteAll_append (builtIns others : List BuiltIn) (d : Diagnostics)
    (trees : List Markup) : rewriteAll (builtIns ++ others) d trees =
      rewriteAll others (rewriteAll builtIns d trees).1 (rewriteAll builtIns d trees).2 :=
  List.foldl_append

theorem all_isOrderly_rewriteAll (builtIns : List BuiltIn) (d : Diagnostics)
    (h : Markup.All IsOrderly trees) : Markup.All IsOrderly (rewriteAll builtIns d trees).2 := by
  induction builtIns generalizing d trees with
  | nil => exact h
  | cons b rest ih => exact ih _ (b.keeps_isOrderly.rewrite d h)

/-- A pass may be moved behind passes that it commutes with. -/
theorem rewriteAll_cons_eq {back : List BuiltIn} (hback : ∀ c ∈ back, Commutes b c)
    (d : Diagnostics) (h : Markup.All IsOrderly trees) :
    rewriteAll (b :: back) d trees = rewriteAll (back ++ [b]) d trees := by
  induction back generalizing d trees with
  | nil => rfl
  | cons c rest ih =>
    have hstep := hback c List.mem_cons_self d trees h
    have hrest : ∀ c ∈ rest, Commutes b c := fun c hc ↦ hback c (List.mem_cons_of_mem _ hc)
    calc rewriteAll (b :: c :: rest) d trees
        = rewriteAll rest (rewriteAll [b, c] d trees).1 (rewriteAll [b, c] d trees).2 :=
          rewriteAll_append [b, c] rest d trees
      _ = rewriteAll (b :: rest) (c.rewrite d trees).1 (c.rewrite d trees).2 := by
          rw [hstep]
          rfl
      _ = rewriteAll (rest ++ [b]) (c.rewrite d trees).1 (c.rewrite d trees).2 :=
          ih hrest _ (c.keeps_isOrderly.rewrite d h)

/-- A pass may be moved to the end of an order if it commutes with the others. -/
theorem rewriteAll_erase {order : List BuiltIn} (hmem : b ∈ order)
    (horder : ∀ c ∈ order.erase b, Commutes b c) (d : Diagnostics)
    (h : Markup.All IsOrderly trees) :
    rewriteAll order d trees = rewriteAll (order.erase b ++ [b]) d trees := by
  obtain ⟨front, back, -, hsplit, herase⟩ := List.exists_erase_eq hmem
  rw [herase] at horder ⊢
  rw [hsplit, List.append_assoc, rewriteAll_append, rewriteAll_append front]
  exact rewriteAll_cons_eq (fun c hc ↦ horder c (List.mem_append_right _ hc)) _
    (all_isOrderly_rewriteAll front d h)

/-- An order of the four passes in which identifiers come before self-links. -/
structure IsOrder (className : List Char) (size : ImageSize) (order : List BuiltIn) : Prop where
  perm : order.Perm [.headingIds, .headingAnchors className, .images size, .diagrams]
  sublist : [.headingIds, .headingAnchors className].Sublist order

/-- Passes make the same of orderly trees in every order in which identifiers come before
self-links. -/
theorem rewriteAll_eq {className : List Char} {size : ImageSize} {order : List BuiltIn}
    (horder : IsOrder className size order) (d : Diagnostics) (h : Markup.All IsOrderly trees) :
    rewriteAll order d trees =
      rewriteAll [.headingIds, .headingAnchors className, .images size, .diagrams] d trees := by
  have hothers : (order.erase .diagrams).Perm
      [.headingIds, .headingAnchors className, .images size] := horder.perm.erase _
  have hheadings : ((order.erase .diagrams).erase (.images size)).Perm
      [.headingIds, .headingAnchors className] := by
    simpa [List.erase_cons] using hothers.erase (.images size)
  have heq : [.headingIds, .headingAnchors className] =
      (order.erase .diagrams).erase (.images size) := by
    have hsublist := (horder.sublist.erase .diagrams).erase (.images size)
    exact List.Sublist.eq_of_length (by simpa [List.erase_cons] using hsublist)
      hheadings.length_eq.symm
  have hdiagrams : rewriteAll order d trees =
      rewriteAll (order.erase .diagrams ++ [.diagrams]) d trees := by
    refine rewriteAll_erase (horder.perm.mem_iff.2 (by simp)) (fun c hc ↦ ?_) d h
    rcases hothers.mem_iff.1 hc with _ | ⟨_, _ | ⟨_, _ | ⟨_, ⟨⟩⟩⟩⟩
    · exact headingIds_commutes_diagrams.symm
    · exact (headingAnchors_commutes_diagrams className).symm
    · exact diagrams_commutes_images size
  have himages : rewriteAll (order.erase .diagrams) d trees =
      rewriteAll ([.headingIds, .headingAnchors className] ++ [.images size]) d trees := by
    rw [heq]
    refine rewriteAll_erase (hothers.mem_iff.2 (by simp)) (fun c hc ↦ ?_) d h
    rcases hheadings.mem_iff.1 hc with _ | ⟨_, _ | ⟨_, ⟨⟩⟩⟩
    · exact (headingIds_commutes_images size).symm
    · exact (headingAnchors_commutes_images className size).symm
  rw [hdiagrams, rewriteAll_append, himages]
  rfl

end BuiltIn

end Galley.Enrich
