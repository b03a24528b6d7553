import Galley.Proofs.Html.Token

/-!
Start tags of links in written markup. Where trees without links are written, with proper tags and
clean attributes, a start tag of a link begins if and only if one begins in raw markup among them
(`hasLinkTag_writeAll`). It may end in what is written behind this markup.
-/

set_option autoImplicit false
set_option relaxedAutoImplicit false

namespace Galley.Html

/-- Whether a text begins with the start tag of a link. -/
def opensLink : List Char → Bool
  | '<' :: c :: d :: _ =>
    (c == 'a' || c == 'A') && (Text.isAsciiBlank d || d == '/' || d == '>')
  | _ => false

/-- Whether the start tag of a link begins somewhere in a text, given what follows the text. -/
def hasLinkTag (behind : List Char) : List Char → Bool
  | [] => false
  | c :: rest => opensLink (c :: rest ++ behind) || hasLinkTag behind rest

mutual

/-- Whether the start tag of a link begins in raw markup of a tree, given what is written behind the
tree. -/
def rawLinkTag (behind : List Char) : Markup → Bool
  | .node .root children => rawLinkTagAll behind children
  | .node (.text _) _ => false
  | .node (.raw markup) _ => hasLinkTag behind markup
  | .node (.element tag _) children =>
    !isVoid tag && rawLinkTagAll (endTag tag ++ behind) children

/-- Whether the start tag of a link begins in raw markup of trees, given what is written behind
them. -/
def rawLinkTagAll (behind : List Char) : List Markup → Bool
  | [] => false
  | tree :: rest =>
    rawLinkTag (Markup.writeAll rest ++ behind) tree || rawLinkTagAll behind rest

end

/-- What is raw markup, or has a proper tag that is not that of a link, and clean attributes. -/
def Kind.IsUnlinked : Kind → Prop
  | .element tag attrs => isTagName tag = true ∧ tag ≠ ['a'] ∧ tag ≠ ['A'] ∧ attrs.IsClean
  | _ => True

theorem hasLinkTag_append (behind front back : List Char) :
    hasLinkTag behind (front ++ back) =
      (hasLinkTag (back ++ behind) front || hasLinkTag behind back) := by
  induction front with
  | nil => rfl
  | cons c front ih =>
    rw [List.cons_append, hasLinkTag, hasLinkTag, ih, List.cons_append, List.append_assoc,
      Bool.or_assoc, List.cons_append]

/-- No tag begins with another character than the bracket. -/
theorem opensLink_of_ne {c : Char} (hc : c ≠ '<') (rest : List Char) :
    opensLink (c :: rest) = false := by
  unfold opensLink
  split
  · next heq =>
    cases heq
    exact absurd rfl hc
  · rfl

theorem hasLinkTag_of_notMem {text : List Char} (h : '<' ∉ text) (behind : List Char) :
    hasLinkTag behind text = false := by
  induction text with
  | nil => rfl
  | cons c rest ih =>
    rw [List.mem_cons, not_or] at h
    rw [hasLinkTag, List.cons_append, opensLink_of_ne (Ne.symm h.1), ih h.2, Bool.or_false]

theorem not_endsTag_of_isTagName {c d : Char} {rest : List Char}
    (h : isTagName (c :: d :: rest) = true) :
    (Text.isAsciiBlank d || d == '/' || d == '>') = false := by
  have hchar : Text.isAlnum d = true := by
    rw [isTagName, Bool.and_eq_true, List.all_eq_true] at h
    exact h.2 d List.mem_cons_self
  have hnot : ∀ e ∈ [' ', '\t', '\n', '\r', '\x0c', '/', '>'], Text.isAlnum e = false := by
    simp [Text.isAlnum, Text.isLetter, Text.isDigit]
  have hne : ∀ e ∈ [' ', '\t', '\n', '\r', '\x0c', '/', '>'], (d == e) = false := by
    intro e he
    refine beq_eq_false_iff_ne.2 ?_
    rintro rfl
    rw [hnot d he] at hchar
    cases hchar
  simp only [List.forall_mem_cons] at hne
  simp [Text.isAsciiBlank, hne]

/-- An element that is no link does not begin with the tag of one. -/
theorem opensLink_tag {tag : List Char} (htag : isTagName tag = true)
    (hlink : tag ≠ ['a'] ∧ tag ≠ ['A']) (rest : List Char) :
    opensLink ('<' :: tag ++ rest) = false := by
  match tag with
  | [] => cases htag
  | [c] =>
    have hc : (c == 'a' || c == 'A') = false := by simpa using hlink
    cases rest with
    | nil => rfl
    | cons d rest => simp only [List.cons_append, List.nil_append, opensLink, hc, Bool.false_and]
  | c :: d :: tail =>
    simp only [List.cons_append, opensLink, not_endsTag_of_isTagName htag, Bool.and_false]

theorem hasLinkTag_startTag {tag : List Char} {attrs : Attributes} (htag : isTagName tag = true)
    (hlink : tag ≠ ['a'] ∧ tag ≠ ['A']) (hattrs : attrs.IsClean) (behind : List Char) :
    hasLinkTag behind (startTag tag attrs) = false := by
  have hnot : '<' ∉ tag ++ attrs.entries.flatMap writeAttribute ++ ['>'] := by
    intro hmem
    rcases List.mem_append.1 hmem with hmem | hmem
    · exact (ne_bracket_of_mem_openTag (isBracketFree_of_isTagName htag).ne_bracket
        hattrs.isBracketFree _ hmem).1 rfl
    · simp at hmem
  have hopens := opensLink_tag htag hlink
    (attrs.entries.flatMap writeAttribute ++ ['>'] ++ behind)
  rw [startTag, List.cons_append, List.cons_append, hasLinkTag, hasLinkTag_of_notMem hnot,
    Bool.or_false]
  simpa using hopens

theorem hasLinkTag_endTag {tag : List Char} (htag : isTagName tag = true) (behind : List Char) :
    hasLinkTag behind (endTag tag) = false := by
  have hnot : '<' ∉ '/' :: tag ++ ['>'] := by
    simpa using fun hmem ↦ (ne_bracket_of_isTagChar (isTagChar_of_isTagName htag _ hmem)).1 rfl
  rw [endTag, List.cons_append, List.cons_append, hasLinkTag, ← List.cons_append,
    hasLinkTag_of_notMem hnot, Bool.or_false]
  cases tag with
  | nil => cases htag
  | cons c tail => rfl

mutual

theorem hasLinkTag_write (behind : List Char) : ∀ tree : Markup,
    Markup.All (fun lower ↦ lower.kind.IsUnlinked) [tree] →
      hasLinkTag behind tree.write = rawLinkTag behind tree
  | .node kind inner, h => by
    obtain ⟨hkind, hinner⟩ := Markup.All.singleton.1 h
    cases kind with
    | root => exact hasLinkTag_writeAll behind inner hinner
    | raw markup => rfl
    | text value =>
      have hnot : ∀ c ∈ Text.escapeText value, c ≠ '<' :=
        Text.forall_mem_escapeText (by simp [Text.referenceChars]) fun c _ hlt _ ↦ hlt
      exact hasLinkTag_of_notMem (fun hmem ↦ hnot _ hmem rfl) behind
    | element tag attrs =>
      obtain ⟨htag, hlower, hupper, hattrs⟩ := hkind
      rw [Markup.write, hasLinkTag_append, hasLinkTag_startTag htag ⟨hlower, hupper⟩ hattrs,
        rawLinkTag, Bool.false_or]
      cases isVoid tag with
      | true => rfl
      | false =>
        have hbelow := hasLinkTag_writeAll (endTag tag ++ behind) inner hinner
        simp only [Bool.false_eq_true, ↓reduceIte, Bool.not_false, Bool.true_and]
        rw [hasLinkTag_append, hasLinkTag_endTag htag, hbelow, Bool.or_false]

/-- Where trees without links are written, the start tag of a link begins if and only if one does in
raw markup among them. -/
theorem hasLinkTag_writeAll (behind : List Char) : ∀ trees : List Markup,
    Markup.All (fun lower ↦ lower.kind.IsUnlinked) trees →
      hasLinkTag behind (Markup.writeAll trees) = rawLinkTagAll behind trees
  | [], _ => rfl
  | tree :: rest, h => by
    obtain ⟨htree, hrest⟩ := Markup.All.cons.1 h
    rw [Markup.writeAll, hasLinkTag_append, hasLinkTag_write _ tree (Markup.All.singleton.2 htree),
      hasLinkTag_writeAll behind rest hrest, rawLinkTagAll]

end

end Galley.Html
