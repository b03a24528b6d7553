import Galley.Html.StripTags
import Galley.Proofs.Html.Attributes
import Galley.Proofs.Html.TreeShape
import Galley.Proofs.Text.Escape

/-!
Written markup as tokens: tags, and the text between them. A tree without raw markup is written as
tokens in which the only `<` are those that tags start with (`writeAll_eq`), so that what goes
through markup character by character goes through these token by token. Removing tags leaves the
text tokens (`stripTags_write`), which are the escaped text of the trees (`stripTags_writeAll`).
-/

set_option autoImplicit false
set_option relaxedAutoImplicit false

namespace Galley.Html

/-- A piece of written markup: text, or what stands between the brackets of a tag. -/
inductive Token where
  | text (value : List Char)
  | tag (body : List Char)
deriving DecidableEq, Repr

namespace Token

/-- A token as it is written. -/
def write : Token → List Char
  | .text value => value
  | .tag body => '<' :: body ++ ['>']

/-- What is left of a token when tags are removed. -/
def stripped : Token → List Char
  | .text value => value
  | .tag _ => []

/-- A text without `<`, or a tag that ends at its first `>` and starts with a letter, maybe after a
slash. -/
def IsClean : Token → Prop
  | .text value => '<' ∉ value
  | .tag body => '<' ∉ body ∧ '>' ∉ body ∧
      ∃ c rest, Text.isLetter c = true ∧ (body = c :: rest ∨ body = '/' :: c :: rest)

end Token

namespace Markup

/-- The token that an element starts with. -/
def openTag (tag : List Char) (attrs : Attributes) : Token :=
  .tag (tag ++ attrs.entries.flatMap writeAttribute)

/-- The token that an element ends with. -/
def closeTag (tag : List Char) : Token := .tag ('/' :: tag)

mutual

/-- The tokens that a tree is written as; raw markup is one of text. -/
def tokens : Markup → List Token
  | .node .root children => tokensAll children
  | .node (.text value) _ => [.text (Text.escapeText value)]
  | .node (.raw markup) _ => [.text markup]
  | .node (.element tag attrs) children =>
    openTag tag attrs :: if isVoid tag then [] else tokensAll children ++ [closeTag tag]

/-- The tokens that trees are written as. -/
def tokensAll : List Markup → List Token
  | [] => []
  | tree :: rest => tokens tree ++ tokensAll rest

end

mutual

theorem write_eq : ∀ tree : Markup, write tree = (tokens tree).flatMap Token.write
  | .node kind children => by
    have hinner := writeAll_eq children
    cases kind with
    | root => simp [write, tokens, hinner]
    | text value => simp [write, tokens, Token.write]
    | raw markup => simp [write, tokens, Token.write]
    | element tag attrs =>
      cases hvoid : isVoid tag <;>
        simp [write, tokens, hinner, hvoid, startTag, endTag, openTag, closeTag, Token.write]

theorem writeAll_eq : ∀ trees : List Markup, writeAll trees = (tokensAll trees).flatMap Token.write
  | [] => rfl
  | tree :: rest => by
    rw [writeAll, tokensAll, write_eq tree, writeAll_eq rest, List.flatMap_append]

end

/-- The tokens that belong to a tree itself and not to the trees below it. -/
def ownTokens : Markup → List Token
  | .node .root _ => []
  | .node (.text value) _ => [.text (Text.escapeText value)]
  | .node (.raw markup) _ => [.text markup]
  | .node (.element tag attrs) _ => [openTag tag attrs, closeTag tag]

/-- Every token belongs to one of the trees. -/
theorem exists_of_mem_tokensAll {token : Token} :
    ∀ trees : List Markup, token ∈ tokensAll trees →
      ∃ tree ∈ subtreesAll trees, token ∈ ownTokens tree
  | [], hmem => by simp [tokensAll] at hmem
  | .node kind children :: rest, hmem => by
    have hbelow : token ∈ tokensAll children →
        ∃ tree ∈ subtreesAll children, token ∈ ownTokens tree :=
      exists_of_mem_tokensAll children
    have hown : token ∈ tokens (.node kind children) →
        token ∈ ownTokens (.node kind children) ∨ token ∈ tokensAll children := by
      intro hmem
      cases kind with
      | element tag attrs =>
        rw [tokens, List.mem_cons] at hmem
        rcases hmem with rfl | hmem
        · exact .inl (by simp [ownTokens])
        · split_ifs at hmem
          · simp at hmem
          · rcases List.mem_append.1 hmem with hmem | hmem
            · exact .inr hmem
            · exact .inl (List.mem_cons_of_mem _ hmem)
      | root => exact .inr hmem
      | text value => exact .inl hmem
      | raw markup => exact .inl hmem
    rw [tokensAll, List.mem_append] at hmem
    rw [subtreesAll, subtrees]
    rcases hmem with hmem | hmem
    · rcases hown hmem with hmem | hmem
      · exact ⟨_, by simp, hmem⟩
      · obtain ⟨tree, htree, htoken⟩ := hbelow hmem
        exact ⟨tree, by simp [htree], htoken⟩
    · obtain ⟨tree, htree, htoken⟩ := exists_of_mem_tokensAll rest hmem
      exact ⟨tree, by simp [htree], htoken⟩

end Markup

/-! ### Removing tags -/

theorem stripTagsFrom_skip (front rest : List Char) :
    stripTagsFrom front.length (front ++ rest) = stripTagsFrom 0 rest := by
  induction front with
  | nil => rfl
  | cons c front ih => simpa [stripTagsFrom] using ih

theorem stripTagsFrom_text {front : List Char} (hfront : '<' ∉ front) (rest : List Char) :
    stripTagsFrom 0 (front ++ rest) = front ++ stripTagsFrom 0 rest := by
  induction front with
  | nil => rfl
  | cons c front ih =>
    rw [List.mem_cons, not_or] at hfront
    rw [List.cons_append, stripTagsFrom, if_neg (Ne.symm hfront.1), ih hfront.2]
    rfl

theorem afterClose_append {front : List Char} (hfront : '>' ∉ front) (rest : List Char) :
    afterClose (front ++ '>' :: rest) = some rest := by
  induction front with
  | nil => rfl
  | cons c front ih =>
    rw [List.mem_cons, not_or] at hfront
    rw [List.cons_append, afterClose, if_neg (Ne.symm hfront.1), ih hfront.2]

/-- A tag is removed up to its end. -/
theorem stripTagsFrom_tag {body : List Char} (hbody : (Token.tag body).IsClean)
    (rest : List Char) : stripTagsFrom 0 ('<' :: body ++ '>' :: rest) = stripTagsFrom 0 rest := by
  have hafter : afterTag? (body ++ '>' :: rest) = some rest := by
    obtain ⟨-, hclose, c, tail, hletter, rfl | rfl⟩ := hbody
    · have hslash : c ≠ '/' := by
        rintro rfl
        simp [Text.isLetter] at hletter
      rw [List.mem_cons, not_or] at hclose
      rw [List.cons_append, afterTag?, if_pos hletter, afterClose_append hclose.2]
      exact fun d after heq _ ↦ hslash heq
    · rw [List.mem_cons, List.mem_cons, not_or, not_or] at hclose
      rw [List.cons_append, List.cons_append, afterTag?, if_pos hletter,
        afterClose_append hclose.2.2]
  have hskip := stripTagsFrom_skip (body ++ ['>']) rest
  have hlength : (body ++ '>' :: rest).length - rest.length = (body ++ ['>']).length := by
    simp only [List.length_append, List.length_cons, List.length_nil]
    omega
  rw [List.append_assoc, List.singleton_append, ← hlength] at hskip
  rw [List.cons_append, stripTagsFrom, if_pos rfl, hafter]
  exact hskip

/-- Removing tags leaves the text between them. -/
theorem stripTags_write {tokens : List Token} (h : ∀ token ∈ tokens, token.IsClean) :
    stripTags (tokens.flatMap Token.write) = tokens.flatMap Token.stripped := by
  induction tokens with
  | nil => rfl
  | cons token rest ih =>
    have hrest := ih fun token htoken ↦ h token (by simp [htoken])
    have htoken := h token (by simp)
    rw [List.flatMap_cons, List.flatMap_cons, ← hrest, stripTags]
    cases token with
    | text value => exact stripTagsFrom_text htoken _
    | tag body =>
      simpa [Token.write, Token.stripped, stripTags] using
        stripTagsFrom_tag htoken (rest.flatMap Token.write)

/-! ### Trees without raw markup -/

/-- Characters that tags are written with, apart from those that values bring in. -/
def isTagChar (c : Char) : Bool :=
  Text.isAlnum c || ['-', ' ', '=', '"', '&', ';'].contains c

/-- A letter, and letters or digits after it. -/
def isTagName : List Char → Bool
  | [] => false
  | c :: rest => Text.isLetter c && rest.all Text.isAlnum

/-- All names of attributes are of characters that tags are written with. -/
def Attributes.IsClean (attrs : Attributes) : Prop :=
  attrs.All fun entry ↦ entry.1.name.all isTagChar = true

/-- What is no raw markup, with a proper tag and clean attributes if it is an element. -/
def Kind.IsClean : Kind → Prop
  | .root => True
  | .element tag attrs => isTagName tag = true ∧ attrs.IsClean
  | .text _ => True
  | .raw _ => False

theorem exists_of_isTagName {tag : List Char} (h : isTagName tag = true) :
    ∃ c rest, tag = c :: rest ∧ Text.isLetter c = true := by
  cases tag with
  | nil => simp [isTagName] at h
  | cons c rest => exact ⟨c, rest, rfl, (Bool.and_eq_true_iff.1 h).1⟩

theorem isTagChar_of_isTagName {tag : List Char} (h : isTagName tag = true) :
    ∀ c ∈ tag, isTagChar c = true := by
  intro c hc
  cases tag with
  | nil => simp at hc
  | cons d rest =>
    rw [isTagName, Bool.and_eq_true, List.all_eq_true] at h
    rcases List.mem_cons.1 hc with rfl | hc
    · simp [isTagChar, Text.isAlnum, h.1]
    · simp [isTagChar, h.2 c hc]

section Characters

variable {good : Char → Prop}

theorem forall_mem_writeAttribute (hgood : ∀ c, isTagChar c = true → good c)
    {entry : AttributeKey × List Char} (hname : ∀ c ∈ entry.1.name, good c)
    (hvalue : ∀ c ∈ entry.2, c ≠ '<' → c ≠ '>' → c ≠ '"' → good c) :
    ∀ c ∈ writeAttribute entry, good c := by
  have hreference : ∀ c ∈ Text.referenceChars, good c := by
    have hall : ∀ c ∈ Text.referenceChars, isTagChar c = true := by
      simp [Text.referenceChars, isTagChar, Text.isAlnum, Text.isLetter]
    exact fun c hc ↦ hgood c (hall c hc)
  have hescaped := Text.forall_mem_escapeAttribute hreference hvalue
  have hblank : good ' ' := hgood ' ' (by decide)
  have hequals : good '=' := hgood '=' (by decide)
  have hquote : good '"' := hgood '"' (by decide)
  intro c hc
  unfold writeAttribute at hc
  split_ifs at hc
  · rcases List.mem_cons.1 hc with rfl | hc
    · exact hblank
    · exact hname c hc
  · simp only [List.cons_append, List.mem_cons, List.mem_append, List.not_mem_nil, or_false] at hc
    rcases hc with rfl | (hc | rfl | rfl | hc) | rfl
    · exact hblank
    · exact hname c hc
    · exact hequals
    · exact hquote
    · exact hescaped c hc
    · exact hquote

/-- What holds of the characters that tags are written with and of those of names and values holds
of a whole tag. -/
theorem forall_mem_openTag (hgood : ∀ c, isTagChar c = true → good c) {tag : List Char}
    {attrs : Attributes} (htag : ∀ c ∈ tag, good c)
    (hnames : attrs.All fun entry ↦ ∀ c ∈ entry.1.name, good c)
    (hvalues : ∀ entry ∈ attrs.entries, ∀ c ∈ entry.2, c ≠ '<' → c ≠ '>' → c ≠ '"' → good c) :
    ∀ c ∈ tag ++ attrs.entries.flatMap writeAttribute, good c := by
  intro c hc
  rcases List.mem_append.1 hc with hc | hc
  · exact htag c hc
  · obtain ⟨entry, hentry, hc⟩ := List.mem_flatMap.1 hc
    exact forall_mem_writeAttribute hgood (hnames entry hentry) (hvalues entry hentry) c hc

theorem Attributes.IsClean.forall_mem_name (hgood : ∀ c, isTagChar c = true → good c)
    {attrs : Attributes} (h : attrs.IsClean) :
    attrs.All fun entry ↦ ∀ c ∈ entry.1.name, good c :=
  fun entry hentry c hc ↦ hgood c (List.all_eq_true.1 (h entry hentry) c hc)

end Characters

theorem ne_bracket_of_isTagChar {c : Char} (hc : isTagChar c = true) : c ≠ '<' ∧ c ≠ '>' := by
  constructor
  · rintro rfl
    simp [isTagChar, Text.isAlnum, Text.isLetter, Text.isDigit] at hc
  · rintro rfl
    simp [isTagChar, Text.isAlnum, Text.isLetter, Text.isDigit] at hc

/-- A letter first, and no bracket in what follows it. -/
def IsBracketFree (tag : List Char) : Prop :=
  ∃ c rest, tag = c :: rest ∧ Text.isLetter c = true ∧ ∀ d ∈ rest, d ≠ '<' ∧ d ≠ '>'

/-- No name of an attribute has a bracket in it. -/
def Attributes.IsBracketFree (attrs : Attributes) : Prop :=
  attrs.All fun entry ↦ ∀ c ∈ entry.1.name, c ≠ '<' ∧ c ≠ '>'

/-- What is no raw markup, with a tag and attributes that are free of brackets if it is an
element. -/
def Kind.IsBracketFree : Kind → Prop
  | .root => True
  | .element tag attrs => Html.IsBracketFree tag ∧ attrs.IsBracketFree
  | .text _ => True
  | .raw _ => False

section BracketFree

variable {tag : List Char} {attrs : Attributes}

theorem isBracketFree_of_isTagName (h : isTagName tag = true) : IsBracketFree tag := by
  obtain ⟨c, rest, rfl, hletter⟩ := exists_of_isTagName h
  exact ⟨c, rest, rfl, hletter, fun d hd ↦
    ne_bracket_of_isTagChar (isTagChar_of_isTagName h d (List.mem_cons_of_mem _ hd))⟩

theorem Attributes.IsClean.isBracketFree (h : attrs.IsClean) : attrs.IsBracketFree :=
  h.forall_mem_name fun _ ↦ ne_bracket_of_isTagChar

theorem Kind.IsClean.isBracketFree {kind : Kind} (h : kind.IsClean) : kind.IsBracketFree := by
  cases kind with
  | element tag attrs => exact ⟨isBracketFree_of_isTagName h.1, h.2.isBracketFree⟩
  | raw markup => exact h
  | _ => trivial

theorem IsBracketFree.ne_bracket (h : IsBracketFree tag) : ∀ c ∈ tag, c ≠ '<' ∧ c ≠ '>' := by
  obtain ⟨c, rest, rfl, hletter, hrest⟩ := h
  have hc : isTagChar c = true := by simp [isTagChar, Text.isAlnum, hletter]
  exact List.forall_mem_cons.2 ⟨ne_bracket_of_isTagChar hc, hrest⟩

/-- No bracket is in a tag, whatever the values of its attributes are. -/
theorem ne_bracket_of_mem_openTag (htag : ∀ c ∈ tag, c ≠ '<' ∧ c ≠ '>')
    (hattrs : attrs.IsBracketFree) :
    ∀ c ∈ tag ++ attrs.entries.flatMap writeAttribute, c ≠ '<' ∧ c ≠ '>' :=
  forall_mem_openTag (fun _ ↦ ne_bracket_of_isTagChar) htag hattrs
    fun _ _ _ _ hlt hgt _ ↦ ⟨hlt, hgt⟩

theorem openTag_isClean (htag : IsBracketFree tag) (hattrs : attrs.IsBracketFree) :
    (Markup.openTag tag attrs).IsClean := by
  have hnot := ne_bracket_of_mem_openTag htag.ne_bracket hattrs
  obtain ⟨c, rest, rfl, hletter, -⟩ := htag
  exact ⟨fun hmem ↦ (hnot _ hmem).1 rfl, fun hmem ↦ (hnot _ hmem).2 rfl, c, _, hletter, .inl rfl⟩

theorem closeTag_isClean (htag : IsBracketFree tag) : (Markup.closeTag tag).IsClean := by
  have hnot := htag.ne_bracket
  refine ⟨?_, ?_, ?_⟩
  · simpa using fun hmem ↦ (hnot _ hmem).1 rfl
  · simpa using fun hmem ↦ (hnot _ hmem).2 rfl
  · obtain ⟨c, rest, rfl, hletter, -⟩ := htag
    exact ⟨c, rest, hletter, .inr rfl⟩

end BracketFree

/-- All tokens of bracket-free trees are clean. -/
theorem isClean_of_mem_tokensAll {trees : List Markup}
    (h : Markup.All (fun tree ↦ tree.kind.IsBracketFree) trees) :
    ∀ token ∈ Markup.tokensAll trees, token.IsClean := by
  intro token hmem
  obtain ⟨⟨kind, inner⟩, htree, hown⟩ := Markup.exists_of_mem_tokensAll trees hmem
  have hkind := h _ htree
  cases kind with
  | root => simp [Markup.ownTokens] at hown
  | raw markup => exact hkind.elim
  | text value =>
    obtain rfl : token = .text (Text.escapeText value) := by simpa [Markup.ownTokens] using hown
    have hnot : ∀ d ∈ Text.escapeText value, d ≠ '<' :=
      Text.forall_mem_escapeText (by simp [Text.referenceChars]) fun d _ hlt _ ↦ hlt
    exact fun hmem ↦ hnot _ hmem rfl
  | element tag attrs =>
    obtain ⟨htag, hattrs⟩ := hkind
    rw [Markup.ownTokens, List.mem_pair] at hown
    rcases hown with rfl | rfl
    · exact openTag_isClean htag hattrs
    · exact closeTag_isClean htag

/-- Of the tokens of bracket-free trees without their tags the escaped text is left, if nothing is
below what is written without content. -/
theorem flatMap_stripped_tokensAll :
    ∀ trees : List Markup, Markup.All (fun tree ↦ tree.kind.IsBracketFree ∧ tree.IsBare) trees →
      (Markup.tokensAll trees).flatMap Token.stripped = Text.escapeText (Markup.textAll trees)
  | [], _ => rfl
  | .node kind inner :: rest, h => by
    rw [Markup.All.cons] at h
    have hinner := flatMap_stripped_tokensAll inner h.1.2
    have hrest := flatMap_stripped_tokensAll rest h.2
    rw [Markup.tokensAll, List.flatMap_append, hrest, Markup.textAll, Text.escapeText_append]
    congr 1
    cases kind with
    | root => exact hinner
    | text value => simp [Markup.tokens, Markup.text, Token.stripped]
    | raw markup => exact h.1.1.1.elim
    | element tag attrs =>
      cases hvoid : isVoid tag with
      | false =>
        simp [Markup.tokens, Markup.text, Markup.openTag, Markup.closeTag, Token.stripped, hvoid,
          hinner]
      | true =>
        obtain rfl : inner = [] := h.1.1.2 hvoid
        simp [Markup.tokens, Markup.text, Markup.openTag, Token.stripped, hvoid, Markup.textAll,
          Text.escapeText]

/-- Without tags, bracket-free trees read as their escaped text. -/
theorem stripTags_writeAll {trees : List Markup}
    (h : Markup.All (fun tree ↦ tree.kind.IsBracketFree ∧ tree.IsBare) trees) :
    stripTags (Markup.writeAll trees) = Text.escapeText (Markup.textAll trees) := by
  rw [Markup.writeAll_eq, stripTags_write (isClean_of_mem_tokensAll (h.imp fun _ h ↦ h.1)),
    flatMap_stripped_tokensAll trees h]

/-! ### Documents without raw markup -/

/-- What holds of the kinds of all nodes that can be reached holds of the tree of a document. -/
theorem Document.Spans.all_kind {doc : Document} {trees : List Markup} {area : Multiset NodeId}
    (h : doc.Spans [Document.root] trees area) {good : Kind → Prop}
    (hgood : ∀ id cell, doc.Reachable id → doc.get? id = some cell → good cell.kind) :
    Markup.All (fun tree ↦ good tree.kind) trees := by
  intro tree htree
  obtain ⟨id, hid, below, hspans⟩ := h.exists_id htree
  obtain ⟨kind, children, inner, inside, heq, -, hcell, -⟩ := hspans.of_singleton
  obtain rfl : tree = .node kind inner := by simpa using heq
  exact hgood id ⟨kind, children⟩ (h.mem_area_iff_reachable.1 hid) hcell

/-- A document of the shape of a tree without raw markup reads the same whether its nodes are read,
or what it is written as: the text is left when tags are removed and references are replaced. No
text that looks like a tag or a reference, and no value of an attribute, makes a difference. -/
theorem unescape_stripTags_write {doc : Document} (htree : doc.IsTree)
    (hfree : ∀ id cell, doc.Reachable id → doc.get? id = some cell → cell.kind.IsBracketFree) :
    Text.unescape (stripTags doc.write) = doc.textContent Document.root := by
  obtain ⟨tree, area, hspans, hnodup, hbare⟩ := Document.isTree_iff.1 htree
  have hstrip := @stripTags_writeAll [tree]
    fun lower hlower ↦ ⟨hspans.all_kind hfree lower hlower, hbare lower hlower⟩
  simp only [Markup.writeAll, Markup.textAll, List.append_nil] at hstrip
  rw [hspans.write_eq hnodup, hspans.textContent_eq hnodup, hstrip, Text.unescape_escapeText]

/-- A paragraph of texts that look like tags and references, with a break and an attribute that
holds brackets. -/
def trickyParagraph : Document where
  cells := #[⟨.root, [1]⟩,
    ⟨.element "p".toList ⟨[(.other "data-note".toList, "a > b \"<i>\"".toList)]⟩, [2, 3, 4]⟩,
    ⟨.text "1 < 2 &amp; <b>".toList, []⟩,
    ⟨.element "br".toList .empty, []⟩,
    ⟨.element "h2".toList ⟨[(.alt, "</h2>".toList)]⟩, [5]⟩,
    ⟨.text "é > &lt;".toList, []⟩]

theorem trickyParagraph_isTree : trickyParagraph.IsTree := by
  have hspans : ∃ trees area, trickyParagraph.Spans [Document.root] trees area ∧ area.Nodup ∧
      ∀ tree ∈ Markup.subtreesAll trees, tree.kind.isLeaf = true → tree.children.isEmpty = true :=
    ⟨_, _, .cons rfl (.cons rfl (.cons rfl .nil (.cons rfl .nil (.cons rfl (.cons rfl .nil .nil)
      .nil))) .nil) .nil, by decide, by decide⟩
  obtain ⟨trees, area, hspans, hnodup, hbare⟩ := hspans
  exact .of_spans hspans hnodup fun tree htree hleaf ↦ List.isEmpty_iff.1 (hbare tree htree hleaf)

theorem trickyParagraph_isBracketFree : ∀ id cell, trickyParagraph.get? id = some cell →
    cell.kind.IsBracketFree := by
  have hall : ∀ cell ∈ trickyParagraph.cells.toList, cell.kind.IsBracketFree := by
    simp only [trickyParagraph, List.forall_mem_cons, List.not_mem_nil, false_implies,
      implies_true, and_true, Kind.IsBracketFree, true_and]
    have hname {key : AttributeKey} (hkey : key.name.all isTagChar = true) (value : List Char) :
        Attributes.IsBracketFree ⟨[(key, value)]⟩ :=
      Attributes.IsClean.isBracketFree (List.forall_mem_singleton.2 hkey)
    exact ⟨⟨isBracketFree_of_isTagName (by decide), hname (by decide) _⟩,
      ⟨isBracketFree_of_isTagName (by decide), .empty⟩,
      isBracketFree_of_isTagName (by decide), hname (by decide) _⟩
  exact fun id cell hcell ↦ hall cell (Array.mem_toList_iff.2 (Array.mem_of_getElem? hcell))

/-- Texts that look like tags and references are read as they stand in the nodes. -/
theorem unescape_stripTags_write_of_tricky : trickyParagraph.IsTree ∧
    (∀ id cell, trickyParagraph.Reachable id → trickyParagraph.get? id = some cell →
      cell.kind.IsBracketFree) ∧
    Text.unescape (stripTags trickyParagraph.write) = trickyParagraph.textContent Document.root ∧
    trickyParagraph.textContent Document.root = "1 < 2 &amp; <b>é > &lt;".toList :=
  ⟨trickyParagraph_isTree, fun id cell _ ↦ trickyParagraph_isBracketFree id cell,
    unescape_stripTags_write trickyParagraph_isTree
      fun id cell _ ↦ trickyParagraph_isBracketFree id cell, by decide⟩

end Galley.Html
