import Mathlib
import Galley.Embed.Expansion

/-!
What the expansion of markers reports. It adds errors of its own stage only, so that reports in
which all errors are of that stage stay so.
-/

set_option autoImplicit false
set_option relaxedAutoImplicit false

namespace Galley.Embed

open Markdown

/-- All errors are of the stage that expands markers. -/
def OnlyEmbeds (d : Diagnostics) : Prop := ∀ problem ∈ d.errors, problem.stage = stage

variable {d : Diagnostics}

theorem OnlyEmbeds.warn (h : OnlyEmbeds d) (w : Warning) : OnlyEmbeds (d.warn w) := h

theorem OnlyEmbeds.fail (h : OnlyEmbeds d) (message : List Char) :
    OnlyEmbeds (d.fail stage message) := by
  intro problem hmem
  rcases List.mem_append.1 hmem with hmem | hmem
  · exact h problem hmem
  · obtain rfl := List.mem_singleton.1 hmem
    rfl

theorem onlyEmbeds_replaceBlock (h : OnlyEmbeds d) (block : Node) (body : List Char)
    (place : Option Point) : OnlyEmbeds (replaceBlock block body place d).2 := by
  simp only [replaceBlock]
  split_ifs
  · exact h.warn _
  · exact h
  · exact h.fail _

mutual

theorem onlyEmbeds_expandBlocks {d : Diagnostics} (h : OnlyEmbeds d) :
    ∀ node, OnlyEmbeds (expandBlocks d node).2
  | .atom value => by
    cases value with
    | code language remark value place =>
      rw [expandBlocks]
      split_ifs
      · exact onlyEmbeds_replaceBlock h _ value place
      · exact h
    | _ => exact h
  | .branch construct children => onlyEmbeds_expandAllBlocks h children

theorem onlyEmbeds_expandAllBlocks {d : Diagnostics} (h : OnlyEmbeds d) :
    ∀ nodes, OnlyEmbeds (expandAllBlocks d nodes).2
  | [] => h
  | node :: rest => onlyEmbeds_expandAllBlocks (onlyEmbeds_expandBlocks h node) rest

end

theorem onlyEmbeds_splitFrom {keeps : Bool} {gap : List Char} (h : OnlyEmbeds d) (skip : Nat)
    (value : List Char) : OnlyEmbeds (splitFrom keeps gap d skip value).2 := by
  induction value generalizing keeps gap d skip with
  | nil => simpa [splitFrom] using h
  | cons c rest ih =>
    cases skip with
    | succ skip => exact ih h skip
    | zero =>
      rw [splitFrom]
      split
      · exact ih h 0
      · dsimp only
        split_ifs
        · exact ih h _
        · exact ih h _
        · exact ih (h.fail _) _

mutual

theorem onlyEmbeds_expandShortcodes {d : Diagnostics} (h : OnlyEmbeds d) :
    ∀ node, OnlyEmbeds (expandShortcodes d node).2
  | .atom value => by
    cases value with
    | text value =>
      rw [expandShortcodes]
      split_ifs
      · exact onlyEmbeds_splitFrom h 0 value
      · exact h
    | _ => exact h
  | .branch construct children => onlyEmbeds_expandAllShortcodes h children

theorem onlyEmbeds_expandAllShortcodes {d : Diagnostics} (h : OnlyEmbeds d) :
    ∀ nodes, OnlyEmbeds (expandAllShortcodes d nodes).2
  | [] => h
  | node :: rest => onlyEmbeds_expandAllShortcodes (onlyEmbeds_expandShortcodes h node) rest

end

/-- The expansion of a tree adds errors of its own stage only. -/
theorem onlyEmbeds_expand (h : OnlyEmbeds d) (root : Node) : OnlyEmbeds (expand root d).2 := by
  cases root with
  | atom value => exact h
  | branch construct children =>
    exact onlyEmbeds_expandAllShortcodes (onlyEmbeds_expandAllBlocks h children) _

end Galley.Embed
