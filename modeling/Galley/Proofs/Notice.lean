import Galley.Pipeline
import Galley.Proofs.Html.Outline

/-!
The notice that shows a text as it is, where the text cannot be rendered. It is the written form of
a tree in which the text is a single leaf (`errorBlock_eq_writeAll`), so that what is known of
written trees holds of it: nothing in the text is taken for a tag or a heading, and the text reads
back.
-/

set_option autoImplicit false
set_option relaxedAutoImplicit false

namespace Galley

open Html

/-- What stands before the text in a notice. -/
def noticeFront : List Char :=
  ("<div class=\"render-error\"><p><strong>Error:</strong> " ++
    "This content could not be rendered.</p><pre>").toList

/-- What stands behind the text in a notice. -/
def noticeBack : List Char := "</pre></div>".toList

/-- What a notice says of the text. -/
def noticeMessage : Markup :=
  .element "p".toList .empty
    [.element "strong".toList .empty [.leaf "Error:".toList],
      .leaf " This content could not be rendered.".toList]

/-- A notice as a tree. -/
def notice (text : List Char) : Markup :=
  .element "div".toList ⟨[(.className, "render-error".toList)]⟩
    [noticeMessage, .element "pre".toList .empty [.leaf text]]

theorem errorBlock_eq (text : List Char) :
    errorBlock text = noticeFront ++ Text.escapeText text ++ noticeBack := rfl

theorem errorBlock_eq_writeAll (text : List Char) :
    errorBlock text = Markup.writeAll [notice text] := by
  have hfront : noticeFront =
      startTag "div".toList ⟨[(.className, "render-error".toList)]⟩ ++
        (noticeMessage.write ++ startTag "pre".toList .empty) := by
    decide +kernel
  have hback : noticeBack = endTag "pre".toList ++ endTag "div".toList := by decide +kernel
  have hdiv : isVoid "div".toList = false := by decide
  have hpre : isVoid "pre".toList = false := by decide
  rw [errorBlock_eq, hfront, hback]
  simp only [notice, Markup.writeAll, Markup.write, hdiv, hpre, Bool.false_eq_true, ↓reduceIte,
    List.append_nil, List.append_assoc]

/-- Neither a heading nor raw markup, and without content where there cannot be any. -/
def IsInert (tree : Markup) : Prop := tree.kind.IsQuiet ∧ tree.IsBare

theorem all_isInert_leaf (value : List Char) : Markup.All IsInert [.leaf value] :=
  Markup.All.singleton.2 ⟨⟨trivial, fun _ ↦ rfl⟩, Markup.All.nil⟩

theorem all_isInert_element {tag : List Char} {attrs : Attributes} {children : List Markup}
    (htag : isTagName tag = true ∧ mayList tag = false ∧ isVoid tag = false)
    (hattrs : attrs.IsClean) (hchildren : Markup.All IsInert children) :
    Markup.All IsInert [.element tag attrs children] := by
  refine Markup.All.singleton.2 ⟨⟨⟨htag.1, htag.2.1, hattrs⟩, fun hvoid ↦ ?_⟩, hchildren⟩
  cases htag.2.2.symm.trans hvoid

/-- No part of a notice is a heading, and none is raw markup, whatever the text is. -/
theorem all_isInert_notice (text : List Char) : Markup.All IsInert [notice text] := by
  have hstrong : Markup.All IsInert [.element "strong".toList .empty [.leaf "Error:".toList]] :=
    all_isInert_element (by decide) .empty (all_isInert_leaf _)
  have hmessage : Markup.All IsInert [noticeMessage] :=
    all_isInert_element (by decide) .empty (Markup.All.append.2 ⟨hstrong, all_isInert_leaf _⟩)
  have hpre : Markup.All IsInert [.element "pre".toList .empty [.leaf text]] :=
    all_isInert_element (by decide) .empty (all_isInert_leaf text)
  exact all_isInert_element (by decide) (List.forall_mem_singleton.2 (by decide))
    (Markup.All.append.2 ⟨hmessage, hpre⟩)

theorem outline_errorBlock (text : List Char) : outline (errorBlock text) = [] := by
  have hinert := all_isInert_notice text
  have hlistings : Markup.listings [notice text] = [] :=
    List.filterMap_eq_nil_iff.2 fun tree htree ↦ Markup.listing?_of_isQuiet (hinert tree htree).1
  rw [errorBlock_eq_writeAll, outline_writeAll (hinert.imp fun _ h ↦ .quiet h.1 h.2), hlistings]
  rfl

/-- Without its tags, a notice reads as its message with the text behind it. -/
theorem unescape_stripTags_errorBlock (text : List Char) :
    Text.unescape (stripTags (errorBlock text)) =
      "Error: This content could not be rendered.".toList ++ text := by
  have hmessage : noticeMessage.text = "Error: This content could not be rendered.".toList := by
    decide +kernel
  have htext : Markup.textAll [notice text] = noticeMessage.text ++ text := by
    simp [notice, Markup.textAll, Markup.text]
  rw [errorBlock_eq_writeAll, stripTags_writeAll ((all_isInert_notice text).imp fun _ h ↦
    ⟨h.1.isClean.isBracketFree, h.2⟩), Text.unescape_escapeText, htext, hmessage]

/-- Where a text is rendered as a notice, this is what is shown. -/
theorem Pipeline.render_of_errorBlock {p : Pipeline} {text : List Char}
    (h : (p.render text).mode = .errorBlock) :
    (p.render text).html = errorBlock text ∧
      (p.render text).headings = outline (errorBlock text) := by
  suffices hhtml : (p.markup text).1 = errorBlock text from
    ⟨hhtml, congrArg outline hhtml⟩
  have hmode : (p.markup text).2.1 = .errorBlock := h
  unfold Pipeline.markup Pipeline.fallback at hmode ⊢
  split at hmode
  · cases hmode
  · split at hmode
    · cases hmode
    · rfl

/-- A notice keeps the text and nothing but the text: what stands between its fixed parts has no
brackets in it and reads back as the text, no heading is found in the notice, and what a reader sees
of it is the message with the text behind it. It is what is shown wherever a text is rendered as a
notice. -/
theorem errorBlock_shows_text (text : List Char) :
    (∃ shown, errorBlock text = noticeFront ++ shown ++ noticeBack ∧ '<' ∉ shown ∧ '>' ∉ shown ∧
        Text.unescape shown = text) ∧
      outline (errorBlock text) = [] ∧
      Text.unescape (stripTags (errorBlock text)) =
        "Error: This content could not be rendered.".toList ++ text ∧
      ∀ p : Pipeline, (p.render text).mode = .errorBlock →
        (p.render text).html = errorBlock text ∧ (p.render text).headings = [] := by
  have hbrackets : ∀ c ∈ Text.escapeText text, c ≠ '<' ∧ c ≠ '>' :=
    Text.forall_mem_escapeText (by simp [Text.referenceChars]) fun _ _ hlt hgt ↦ ⟨hlt, hgt⟩
  refine ⟨⟨Text.escapeText text, errorBlock_eq text, fun hmem ↦ (hbrackets _ hmem).1 rfl,
    fun hmem ↦ (hbrackets _ hmem).2 rfl, Text.unescape_escapeText text⟩,
    outline_errorBlock text, unescape_stripTags_errorBlock text, fun p hmode ↦ ?_⟩
  obtain ⟨hhtml, hheadings⟩ := Pipeline.render_of_errorBlock hmode
  exact ⟨hhtml, hheadings.trans (outline_errorBlock text)⟩

/-- An expression that does not end is shown in a notice, and a heading and a reference in it are
text. -/
theorem errorBlock_shows_text_of_expression :
    let text := "\x7b<h2 id=\"a\">A</h2> &lt;".toList
    let p : Pipeline := { settings := { dialect := { mdx := true } } }
    (p.render text).mode = .errorBlock ∧ (p.render text).html = errorBlock text ∧
      (p.render text).headings = [] := by
  have hmode : (Pipeline.render { settings := { dialect := { mdx := true } } }
      "\x7b<h2 id=\"a\">A</h2> &lt;".toList).mode = .errorBlock := by
    decide +kernel
  exact ⟨hmode, (errorBlock_shows_text _).2.2.2 _ hmode⟩

end Galley
