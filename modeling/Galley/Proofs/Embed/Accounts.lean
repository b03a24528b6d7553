import Galley.Proofs.Embed.Replacement

/-!
What becomes of the blocks and shortcodes of a tree, and of all else. Each of them that is replaced
is one more piece of raw markup, and each other one is reported, if it has a name, or is a block
without one (`Accounts`). `Becomes` lists what may happen to a node: a block or a text gives way to
its replacement, a paragraph of markers to these, and every other node stays in its place below its
parent.
-/

set_option autoImplicit false
set_option relaxedAutoImplicit false

namespace Galley.Embed

open Markdown

/-! ### Nodes that stay -/

/-- What nodes become. A leaf stays if it is no block that gives way to markup, and no text but an
empty one; such a block becomes its markup, and a text its parts. A node with children stays and
keeps its place, and what its children become are its children, unless it is a paragraph in which
only markers and blanks are left, which gives way to the markers. -/
inductive Becomes : List Node → List Node → Prop
  | nil : Becomes [] []
  | leaf {value : Atom} (hblock : leafMarkup? value = none)
      (htext : ∀ text, value = .text text → text = []) {rest rest' : List Node}
      (hrest : Becomes rest rest') : Becomes (.atom value :: rest) (.atom value :: rest')
  | block {value : Atom} {markup : List Char} (hblock : leafMarkup? value = some markup)
      {rest rest' : List Node} (hrest : Becomes rest rest') :
      Becomes (.atom value :: rest) (html markup :: rest')
  | text {value : List Char} (hvalue : value ≠ []) {parts : List Node}
      (hparts : Cut (pieces value) parts) {rest rest' : List Node} (hrest : Becomes rest rest') :
      Becomes (.text value :: rest) (parts ++ rest')
  | branch {construct : Construct} {children children' : List Node}
      (hchildren : Becomes children children')
      (hstays : construct = .paragraph → ¬ IsLone children') {rest rest' : List Node}
      (hrest : Becomes rest rest') :
      Becomes (.branch construct children :: rest) (.branch construct children' :: rest')
  | lift {children children' : List Node} (hchildren : Becomes children children')
      (hlone : IsLone children') {rest rest' : List Node} (hrest : Becomes rest rest') :
      Becomes (.branch .paragraph children :: rest) (children'.filter isMarker ++ rest')

mutual

theorem becomes_expanded {rest rest' : List Node} (hrest : Becomes rest rest') :
    ∀ node : Node, Becomes (node :: rest) (expanded node ++ rest')
  | .atom value => by
    have hplaced (other : Atom) (htext : ∀ text, other = .text text → text = []) :
        Becomes (.atom other :: rest) ([placed other] ++ rest') := by
      rw [placed]
      cases hblock : leafMarkup? other with
      | none => exact .leaf hblock htext hrest
      | some markup => exact .block hblock hrest
    cases value with
    | text text =>
      by_cases htext : text = []
      · subst htext
        exact .leaf rfl (by simp) hrest
      · exact .text htext (cut_cutText htext) hrest
    | _ => exact hplaced _ fun _ ↦ Atom.noConfusion
  | .branch construct children => by
    have hchildren := becomes_expandedAll children
    rw [expanded]
    by_cases hlone : construct = .paragraph ∧ IsLone (expandedAll children)
    · obtain ⟨rfl, hlone⟩ := hlone
      rw [liftMarkers_of_isLone hlone]
      exact .lift hchildren hlone hrest
    · rw [liftMarkers_of_not (not_and.1 hlone)]
      exact .branch hchildren (not_and.1 hlone) hrest

theorem becomes_expandedAll : ∀ nodes : List Node, Becomes nodes (expandedAll nodes)
  | [] => .nil
  | node :: rest => becomes_expanded (becomes_expandedAll rest) node

end

/-- What a tree becomes: its top stays, and what is below it becomes what `Becomes` says. -/
def TopBecomes : Node → Node → Prop
  | .atom value, tree => tree = .atom value
  | .branch construct children, tree =>
    ∃ children', tree = .branch construct children' ∧ Becomes children children'

/-! ### Raw markup -/

/-- The raw markup of a leaf. -/
def rawOf : Atom → List (List Char)
  | .html markup => [markup]
  | _ => []

theorem countP_isRaw (nodes : List Node) :
    nodes.countP Node.isRaw = ((nodes.filterMap Node.atom?).flatMap rawOf).length := by
  induction nodes with
  | nil => rfl
  | cons node rest ih =>
    cases node with
    | branch construct children =>
      rw [List.countP_cons_of_neg (by simp [Node.isRaw, Node.atom?]), ih,
        List.filterMap_cons_none rfl]
    | atom value =>
      have hvalue : (if Node.isRaw (.atom value) = true then 1 else 0) = (rawOf value).length := by
        cases value <;> rfl
      have hatom : Node.atom? (.atom value) = some value := rfl
      rw [List.countP_cons, ih, hvalue, List.filterMap_cons_some hatom, List.flatMap_cons,
        List.length_append, Nat.add_comm]

/-- Whether markup stands in place of a block with the given text: it has no name, or a good one. -/
def givesWay (body : List Char) : Bool :=
  (Recording.ofBlock body).castId.isEmpty || (Recording.ofBlock body).isValid

/-- Whether a marker stands in place of a shortcode: it has a good name. -/
def namesRecording (params : List Char) : Bool :=
  !(Recording.ofShortcode params).castId.isEmpty && (Recording.ofShortcode params).isValid

theorem isSome_blockMarkup? (body : List Char) : (blockMarkup? body).isSome = givesWay body := by
  simp only [blockMarkup?, givesWay]
  by_cases hname : (Recording.ofBlock body).castId.isEmpty = true
  · simp [hname]
  · by_cases hvalid : (Recording.ofBlock body).isValid = true
    · simp [hname, hvalid]
    · simp [hname, hvalid]

theorem isSome_shortcodeMarkup? (params : List Char) :
    (shortcodeMarkup? params).isSome = namesRecording params := by
  rw [shortcodeMarkup?, ← namesRecording]
  cases namesRecording params <;> rfl

/-- The raw markup that is left of a leaf. -/
def rawLeft : Atom → List (List Char)
  | .text value => (shortcodes value).filterMap shortcodeMarkup?
  | value => (leafMarkup? value).elim (rawOf value) ([·])

theorem flatMap_rawOf_replacement (value : Atom) :
    (Node.atomsIn (replacement value)).flatMap rawOf = rawLeft value := by
  cases value with
  | text value =>
    have hhtml (piece : Piece) (markup : List Char) (hmarkup : piece.markup? = some markup) :
        rawOf (.html markup) = piece.markup?.toList := by
      rw [hmarkup]
      rfl
    have htext (ps : List Piece) (_ : IsCut ps) (hnone : ∀ piece ∈ ps, piece.markup? = none) :
        rawOf (.text (sources ps)) = ps.flatMap (·.markup?.toList) := by
      refine (List.flatMap_eq_nil_iff.2 fun piece hpiece ↦ ?_).symm
      rw [hnone piece hpiece]
      rfl
    rw [replacement, flatMap_atomsIn_cutText hhtml htext, rawLeft, shortcodes,
      List.filterMap_filterMap, List.filterMap_eq_flatMap_toList]
    rfl
  | _ => exact flatMap_atomsIn_placed rawOf _

theorem length_rawLeft (value : Atom) : (rawLeft value).length = (rawOf value).length +
    ((block? value).toList.countP fun block ↦ givesWay block.1) +
      (atomShortcodes value).countP namesRecording := by
  cases value with
  | text value =>
    have hlength : ((shortcodes value).filterMap shortcodeMarkup?).length =
        (shortcodes value).countP namesRecording := by
      rw [List.length_filterMap_eq_countP]
      exact List.countP_congr fun params _ ↦ by rw [isSome_shortcodeMarkup?]
    simpa [rawLeft, rawOf, block?, atomShortcodes] using hlength
  | code language remark body place =>
    -- Of the blocks only those in the language of recordings can give way.
    by_cases hlanguage : language = some recordingLanguage
    · subst hlanguage
      have hblock : block? (.code (some recordingLanguage) remark body place) =
          some (body, place) := by rw [block?, beq_self_eq_true, if_pos rfl]
      have hleft : rawLeft (.code (some recordingLanguage) remark body place) =
          (blockMarkup? body).toList := by
        change (leafMarkup? _).elim [] ([·]) = _
        rw [leafMarkup?, hblock, Option.bind_some]
        cases blockMarkup? body <;> rfl
      have hgives := isSome_blockMarkup? body
      rw [hleft, hblock, Option.toList_some, List.countP_singleton, ← hgives]
      cases blockMarkup? body <;> rfl
    · have hblock : block? (.code language remark body place) = none := by
        rw [block?, if_neg (by simpa using hlanguage)]
      change ((leafMarkup? _).elim [] ([·])).length = _
      rw [leafMarkup?, hblock]
      rfl
  | _ => rfl

/-- The raw markup of expanded nodes is what is left of their leaves, in order. -/
theorem flatMap_rawOf_expandedAll (nodes : List Node) :
    (Node.atomsIn (expandedAll nodes)).flatMap rawOf = (Node.atomsIn nodes).flatMap rawLeft :=
  flatMap_atomsIn_expandedAll flatMap_rawOf_replacement (fun _ _ ↦ rfl) nodes

/-- Expansion adds a piece of raw markup for each block that gives way and each shortcode that names
a recording, and no other. -/
theorem countP_isRaw_expandedAll (nodes : List Node) :
    (Node.allIn (expandedAll nodes)).countP Node.isRaw = (Node.allIn nodes).countP Node.isRaw +
      ((blocksIn nodes).countP fun block ↦ givesWay block.1) +
        (shortcodesIn nodes).countP namesRecording := by
  rw [countP_isRaw, countP_isRaw, ← Node.atomsIn, ← Node.atomsIn, flatMap_rawOf_expandedAll,
    blocksIn, shortcodesIn, List.filterMap_eq_flatMap_toList]
  generalize Node.atomsIn nodes = values
  induction values with
  | nil => rfl
  | cons value values ih =>
    simp only [List.flatMap_cons, List.length_append, List.countP_append, ih, length_rawLeft]
    omega

/-! ### The account -/

/-- What expansion makes of a tree and of the reports: as much raw markup more as there are blocks
that have no name or a good one and shortcodes that have a good name, an error for each block and
then for each shortcode that has a bad name, a warning for each block that has none, and all else
where it was. -/
structure Accounts (tree tree' : Node) (d d' : Diagnostics) : Prop where
  raw_eq : tree'.all.countP Node.isRaw = tree.all.countP Node.isRaw +
    ((blocksIn tree.children).countP fun block ↦ givesWay block.1) +
      (shortcodesIn tree.children).countP namesRecording
  errors_eq : d'.errors = d.errors ++
    ((blocksIn tree.children).filterMap fun block ↦ (Recording.ofBlock block.1).problem?) ++
      (shortcodesIn tree.children).filterMap fun params ↦ (Recording.ofShortcode params).problem?
  warnings_eq : d'.warnings = d.warnings ++
    (blocksIn tree.children).filterMap fun block ↦ blockWarning? block.1 block.2
  becomes : TopBecomes tree tree'

theorem expand_accounts (tree : Node) (d : Diagnostics) :
    Accounts tree (expand tree d).1 d (expand tree d).2 := by
  cases tree with
  | atom value =>
    have hblocks : blocksIn (Node.atom value).children = [] := rfl
    have hcodes : shortcodesIn (Node.atom value).children = [] := rfl
    refine ⟨?_, ?_, ?_, rfl⟩
    · simp [expand, hblocks, hcodes]
    · simp [expand, hblocks, hcodes]
    · simp [expand, hblocks]
  | branch construct children =>
    have hraw (nodes : List Node) : (Node.branch construct nodes).all.countP Node.isRaw =
        (Node.allIn nodes).countP Node.isRaw :=
      List.countP_cons_of_neg (by simp [Node.isRaw, Node.atom?])
    rw [expand_branch]
    refine ⟨?_, ?_, ?_, ⟨_, rfl, becomes_expandedAll children⟩⟩
    · rw [hraw, hraw]
      exact countP_isRaw_expandedAll children
    · simp [Diagnostics.extend, reports, blockReports, shortcodeReports, Node.children]
    · simp [Diagnostics.extend, reports, blockReports, shortcodeReports, Node.children]

end Galley.Embed
