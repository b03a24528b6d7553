import Galley.Proofs.Text.Escape
import Galley.Proofs.Text.Lines

/-!
References that stand for blanks. A text of blanks and such references (`SpellsBlanks`) is all blank
once references are replaced, and no other text is (`isBlankText_unescape_iff`); it stays one when
it is trimmed (`spellsBlanks_trim`).
-/

set_option autoImplicit false
set_option relaxedAutoImplicit false

namespace Galley.Text

/-- A text of blanks, and of references that stand for blanks. -/
inductive SpellsBlanks : List Char → Prop
  | nil : SpellsBlanks []
  | blank {c : Char} {rest : List Char} (hc : isBlank c = true) (hrest : SpellsBlanks rest) :
    SpellsBlanks (c :: rest)
  | reference {name rest : List Char} {c : Char}
    (hname : name.all fun d ↦ d != ';' && d != '&') (hc : referenceChar? name = some c)
    (hblank : isBlank c = true) (hrest : SpellsBlanks rest) :
    SpellsBlanks ('&' :: name ++ ';' :: rest)

/-- A reference goes up to the next semicolon. -/
theorem exists_of_reference? {s : List Char} {c : Char} {width : Nat}
    (h : reference? s = some (c, width)) : ∃ name rest, s = name ++ ';' :: rest ∧
      (name.all fun d ↦ d != ';' && d != '&') ∧ referenceChar? name = some c := by
  have hsplit := List.takeWhile_append_dropWhile (p := fun d ↦ d != ';' && d != '&') (l := s)
  have hname := List.all_takeWhile (p := fun d ↦ d != ';' && d != '&') (l := s)
  rw [reference?] at h
  generalize s.takeWhile (fun d ↦ d != ';' && d != '&') = name at h hsplit hname
  rw [← hsplit, List.drop_left] at h
  split at h
  · next rest hrest =>
    obtain ⟨d, hd, heq⟩ := Option.map_eq_some_iff.1 h
    obtain rfl : d = c := congrArg Prod.fst heq
    exact ⟨name, rest, by rw [← hsplit, hrest], hname, hd⟩
  · cases h

theorem isBlankText_cons {c : Char} {s : List Char} :
    isBlankText (c :: s) = true ↔ isBlank c = true ∧ isBlankText s = true := by
  simp [isBlankText]

/-- What is left of a text when references are replaced is blank if and only if the text spells
blanks. -/
theorem isBlankText_unescape_iff {s : List Char} :
    isBlankText (unescape s) = true ↔ SpellsBlanks s := by
  constructor
  · intro h
    -- by the length of the text, since a reference takes several characters at once
    induction hlength : s.length using Nat.strong_induction_on generalizing s with
    | _ n ih =>
      cases s with
      | nil => exact .nil
      | cons c rest =>
        by_cases hamp : c = '&'
        · subst hamp
          cases hreference : reference? rest with
          | none =>
            rw [unescape, unescapeFrom, if_pos rfl, hreference] at h
            exact absurd (isBlankText_cons.1 h).1 (by decide)
          | some found =>
            obtain ⟨d, width⟩ := found
            obtain ⟨name, behind, rfl, hname, hd⟩ := exists_of_reference? hreference
            rw [← List.cons_append, unescape, unescapeFrom_reference name hname hd] at h
            obtain ⟨hblank, hbehind⟩ := isBlankText_cons.1 h
            refine .reference hname hd hblank (ih behind.length ?_ hbehind rfl)
            rw [← hlength]
            simp only [List.length_cons, List.length_append]
            omega
        · rw [unescape, unescapeFrom_cons hamp] at h
          obtain ⟨hblank, hrest⟩ := isBlankText_cons.1 h
          exact .blank hblank (ih rest.length (hlength ▸ Nat.lt_succ_self _) hrest rfl)
  · intro h
    induction h with
    | nil => rfl
    | @blank c rest hc _ ih =>
      have hne : c ≠ '&' := by
        rintro rfl
        exact absurd hc (by decide)
      rw [unescape, unescapeFrom_cons hne]
      exact isBlankText_cons.2 ⟨hc, ih⟩
    | @reference name rest c hname hc hblank _ ih =>
      rw [unescape, unescapeFrom_reference name hname hc]
      exact isBlankText_cons.2 ⟨hblank, ih⟩

theorem spellsBlanks_cons_iff {c : Char} (hc : isBlank c = true) {s : List Char} :
    SpellsBlanks (c :: s) ↔ SpellsBlanks s := by
  refine ⟨fun h ↦ ?_, .blank hc⟩
  generalize htext : c :: s = text at h
  cases h with
  | nil => cases htext
  | blank _ hrest =>
    obtain ⟨-, rfl⟩ := List.cons.inj htext
    exact hrest
  | reference =>
    obtain ⟨rfl, -⟩ := List.cons.inj htext
    exact absurd hc (by decide)

theorem spellsBlanks_concat_iff {c : Char} (hc : isBlank c = true) {s : List Char} :
    SpellsBlanks (s ++ [c]) ↔ SpellsBlanks s := by
  constructor
  · intro h
    generalize htext : s ++ [c] = text at h
    induction h generalizing s with
    | nil => simp at htext
    | blank hd hrest ih =>
      cases s with
      | nil => exact .nil
      | cons d s =>
        obtain ⟨rfl, hs⟩ := List.cons.inj htext
        exact .blank hd (ih hs)
    | @reference name rest d hname hd hblank _ ih =>
      rcases List.eq_nil_or_concat' rest with rfl | ⟨front, last, rfl⟩
      · obtain ⟨-, hlast⟩ := List.append_inj' htext rfl
        obtain rfl : c = ';' := List.singleton_inj.1 hlast
        exact absurd hc (by decide)
      · have hassoc : '&' :: name ++ ';' :: (front ++ [last]) =
            '&' :: name ++ ';' :: front ++ [last] := by simp
        obtain ⟨rfl, hlast⟩ := List.append_inj' (htext.trans hassoc) rfl
        exact .reference hname hd hblank (ih (by rw [hlast]))
  · intro h
    induction h with
    | nil => exact .blank hc .nil
    | blank hd _ ih => exact .blank hd ih
    | @reference name rest d hname hd hblank _ ih =>
      rw [List.append_assoc, List.cons_append]
      exact .reference hname hd hblank ih

/-- Blanks at the ends make no difference. -/
theorem spellsBlanks_trim (s : List Char) : SpellsBlanks (trim s) ↔ SpellsBlanks s :=
  iff_of_eq (read_trim (fun _ _ hc ↦ propext (spellsBlanks_cons_iff hc))
    (fun _ _ hc ↦ propext (spellsBlanks_concat_iff hc)) s)

end Galley.Text
