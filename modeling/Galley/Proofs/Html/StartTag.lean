import Galley.Proofs.Html.Token

/-!
Start tags that are read. A reader takes the name of the tag up to the first blank, then one
attribute after the other, a name alone or a name with a quoted value in which it replaces
references, and stops behind the bracket that ends the tag (`readTag?`). Whatever the values of the
attributes are, a tag with proper names is read as what was written, and no bracket is in it but the
one at either end (`readsBack_startTag`): no value ends its quotes or its tag.
-/

set_option autoImplicit false
set_option relaxedAutoImplicit false

namespace Galley.Html

/-! ### Reading -/

/-- An attribute as it is read: its name, and its value if it has one. -/
abbrev ReadAttribute := List Char × Option (List Char)

/-- A start tag as it is read. -/
structure ReadTag where
  name : List Char
  attributes : List ReadAttribute
deriving DecidableEq, Repr

/-- Characters that no name goes beyond. -/
def endsName (c : Char) : Bool := [' ', '=', '"', '<', '>'].contains c

/-- The name at the front of a text; it may be empty. -/
def frontName (s : List Char) : List Char := s.takeWhile (!endsName ·)

/-- The value at the front of a text that goes on behind an opening quote, and what follows the
closing quote. -/
def readValue? (s : List Char) : Option (List Char × List Char) :=
  let value := s.takeWhile (· != '"')
  match s.drop value.length with
  | _ :: rest => some (Text.unescape value, rest)
  | [] => none

/-- The attribute at the front of a text, and what follows it. -/
def readAttribute? (s : List Char) : Option (ReadAttribute × List Char) :=
  let name := frontName s
  if name.isEmpty then none
  else
    match s.drop name.length with
    | '=' :: '"' :: quoted =>
      (readValue? quoted).map fun (value, rest) => ((name, some value), rest)
    | rest => some ((name, none), rest)

theorem length_of_readValue? {s value rest : List Char} (h : readValue? s = some (value, rest)) :
    rest.length < s.length := by
  simp only [readValue?] at h
  split at h
  case h_2 => simp at h
  case h_1 c rest' hdrop =>
    obtain ⟨-, rfl⟩ : _ ∧ rest' = rest := by simpa using h
    have hlength := congrArg List.length hdrop
    simp only [List.length_drop, List.length_cons] at hlength
    omega

theorem length_of_readAttribute? {s rest : List Char} {found : ReadAttribute}
    (h : readAttribute? s = some (found, rest)) : rest.length ≤ s.length := by
  simp only [readAttribute?] at h
  split_ifs at h
  split at h
  case h_1 quoted hdrop =>
    obtain ⟨⟨value, rest'⟩, hvalue, heq⟩ := Option.map_eq_some_iff.1 h
    obtain ⟨-, rfl⟩ : _ ∧ rest' = rest := by simpa using heq
    have hlength := congrArg List.length hdrop
    have hshorter := length_of_readValue? hvalue
    simp only [List.length_drop, List.length_cons] at hlength
    omega
  case h_2 =>
    obtain ⟨-, rfl⟩ : _ ∧ s.drop (frontName s).length = rest := by simpa using h
    simp

/-- The attributes of a tag, each with a blank before it, up to the bracket that ends the tag, and
what follows the bracket. -/
def readAttributes? (s : List Char) : Option (List ReadAttribute × List Char) :=
  match s with
  | '>' :: rest => some ([], rest)
  | ' ' :: front =>
    match _ : readAttribute? front with
    | some (found, rest) =>
      (readAttributes? rest).map fun (others, rest) => (found :: others, rest)
    | none => none
  | _ => none
termination_by s.length
decreasing_by
  have hshorter := length_of_readAttribute? ‹readAttribute? front = some (found, rest)›
  simp only [List.length_cons]
  omega

/-- The start tag at the front of a text, and what follows it. -/
def readTag? : List Char → Option (ReadTag × List Char)
  | '<' :: front =>
    let name := frontName front
    if name.isEmpty then none
    else
      (readAttributes? (front.drop name.length)).map fun (attributes, rest) =>
        (⟨name, attributes⟩, rest)
  | _ => none

/-- The attributes that were read; one without a value has the empty one. -/
def ReadTag.toAttributes (tag : ReadTag) : Attributes :=
  ⟨tag.attributes.map fun (name, value?) => (.ofName name, value?.getD [])⟩

/-! ### Reading what is written -/

/-- Letters, digits and hyphens, at least one of them. -/
def IsProperName (name : List Char) : Prop :=
  name ≠ [] ∧ ∀ c ∈ name, (Text.isAlnum c || c == '-') = true

instance (name : List Char) : Decidable (IsProperName name) :=
  decidable_of_iff ((!name.isEmpty && name.all fun c => Text.isAlnum c || c == '-') = true)
    (by simp [IsProperName])

/-- What is read of an attribute: its name, and its value unless it is written without one. -/
def readOf (entry : AttributeKey × List Char) : ReadAttribute :=
  (entry.1.name, if entry.1.isBoolean then none else some entry.2)

theorem IsProperName.isTagChar {name : List Char} (h : IsProperName name) :
    ∀ c ∈ name, isTagChar c = true := by
  intro c hc
  rcases Bool.or_eq_true_iff.1 (h.2 c hc) with halnum | hhyphen
  · simp [Html.isTagChar, halnum]
  · simp [Html.isTagChar, eq_of_beq hhyphen]

/-- A proper name is read up to the character that ends it. -/
theorem frontName_append {name : List Char} (h : IsProperName name) {c : Char}
    (hc : endsName c = true) (rest : List Char) : frontName (name ++ c :: rest) = name := by
  have hname : ∀ d ∈ name, (!endsName d) = true := by
    intro d hd
    have hproper := h.2 d hd
    by_contra hends
    have hmem : endsName d = true := by simpa using hends
    have hnone : ∀ d ∈ [' ', '=', '"', '<', '>'], (Text.isAlnum d || d == '-') = false := by
      simp [Text.isAlnum, Text.isLetter, Text.isDigit]
    rw [hnone d (List.contains_iff_mem.1 hmem)] at hproper
    cases hproper
  rw [frontName, List.takeWhile_append_of_pos hname, List.takeWhile_cons_of_neg (by simp [hc]),
    List.append_nil]

theorem endsName_of_eq {c : Char} (hc : c = ' ' ∨ c = '>') : endsName c = true := by
  rcases hc with rfl | rfl <;> rfl

/-- Behind the name of a tag, and behind an attribute, comes a blank or the end of the tag. -/
theorem exists_cons_flatMap_writeAttribute (entries : List (AttributeKey × List Char))
    (rest : List Char) :
    ∃ c back, (c = ' ' ∨ c = '>') ∧
      entries.flatMap writeAttribute ++ '>' :: rest = c :: back := by
  cases entries with
  | nil => exact ⟨'>', rest, .inr rfl, rfl⟩
  | cons entry entries =>
    rw [List.flatMap_cons, writeAttribute]
    split_ifs
    · exact ⟨' ', _, .inl rfl, rfl⟩
    · exact ⟨' ', _, .inl rfl, rfl⟩

/-- An escaped value is read up to its closing quote, and is the value. -/
theorem readValue?_escapeAttribute (value rest : List Char) :
    readValue? (Text.escapeAttribute value ++ '"' :: rest) = some (value, rest) := by
  have hquote : ∀ c ∈ Text.escapeAttribute value, (c != '"') = true := by
    refine Text.forall_mem_escapeAttribute (by simp [Text.referenceChars]) fun c _ _ _ hc ↦ ?_
    rwa [bne_iff_ne]
  have hfront : (Text.escapeAttribute value ++ '"' :: rest).takeWhile (· != '"') =
      Text.escapeAttribute value := by
    rw [List.takeWhile_append_of_pos hquote, List.takeWhile_cons_of_neg (by simp),
      List.append_nil]
  simp [readValue?, hfront]

/-- An attribute is read back, if a blank or the end of the tag follows. -/
theorem readAttribute?_written {entry : AttributeKey × List Char} (h : IsProperName entry.1.name)
    {c : Char} (hc : c = ' ' ∨ c = '>') (rest : List Char) :
    ∃ front, writeAttribute entry = ' ' :: front ∧
      readAttribute? (front ++ c :: rest) = some (readOf entry, c :: rest) := by
  by_cases hboolean : entry.1.isBoolean = true
  · have hname := frontName_append h (endsName_of_eq hc) rest
    refine ⟨entry.1.name, by simp [writeAttribute, hboolean], ?_⟩
    rcases hc with rfl | rfl <;> simp [readAttribute?, hname, h.1, readOf, hboolean]
  · have hvalue := readValue?_escapeAttribute entry.2 (c :: rest)
    have hname := frontName_append h (c := '=') rfl
      ('"' :: (Text.escapeAttribute entry.2 ++ '"' :: c :: rest))
    refine ⟨entry.1.name ++ '=' :: '"' :: Text.escapeAttribute entry.2 ++ ['"'],
      by simp [writeAttribute, hboolean], ?_⟩
    simp [readAttribute?, hname, h.1, hvalue, readOf, hboolean]

/-- Attributes are read back one after the other, up to the end of the tag. -/
theorem readAttributes?_written {entries : List (AttributeKey × List Char)}
    (h : ∀ entry ∈ entries, IsProperName entry.1.name) (rest : List Char) :
    readAttributes? (entries.flatMap writeAttribute ++ '>' :: rest) =
      some (entries.map readOf, rest) := by
  induction entries with
  | nil =>
    rw [List.flatMap_nil, List.nil_append, readAttributes?]
    rfl
  | cons entry entries ih =>
    have hrest := ih fun other hother ↦ h other (by simp [hother])
    obtain ⟨c, back, hc, hback⟩ := exists_cons_flatMap_writeAttribute entries rest
    obtain ⟨front, hfront, hread⟩ := readAttribute?_written (h entry (by simp)) hc back
    rw [List.flatMap_cons, hfront, List.append_assoc, hback, List.cons_append, readAttributes?]
    split
    case h_1 found rest' hfound =>
      rw [hread] at hfound
      obtain ⟨rfl, rfl⟩ : readOf entry = found ∧ c :: back = rest' := by
        simpa using hfound
      rw [← hback, hrest]
      rfl
    case h_2 hnone =>
      rw [hread] at hnone
      cases hnone

/-- A start tag is read back. -/
structure ReadsBack (tag : List Char) (attrs : Attributes) : Prop where
  /-- The only brackets are the first and the last character. -/
  brackets : ∃ body, startTag tag attrs = '<' :: body ++ ['>'] ∧ '<' ∉ body ∧ '>' ∉ body
  /-- What is read is the name of the tag and its attributes, and nothing behind the tag is. -/
  read : ∀ rest, readTag? (startTag tag attrs ++ rest) =
    some (⟨tag, attrs.entries.map readOf⟩, rest)

theorem readsBack_startTag {tag : List Char} {attrs : Attributes} (htag : IsProperName tag)
    (hattrs : attrs.All fun entry ↦ IsProperName entry.1.name) : ReadsBack tag attrs := by
  constructor
  · have hclean : attrs.IsClean := fun entry hentry ↦
      List.all_eq_true.2 (hattrs entry hentry).isTagChar
    have hnot := ne_bracket_of_mem_openTag
      (fun c hc ↦ ne_bracket_of_isTagChar (htag.isTagChar c hc)) hclean.isBracketFree
    exact ⟨tag ++ attrs.entries.flatMap writeAttribute, rfl, fun hmem ↦ (hnot _ hmem).1 rfl,
      fun hmem ↦ (hnot _ hmem).2 rfl⟩
  · intro rest
    have hread := readAttributes?_written hattrs rest
    obtain ⟨c, back, hc, hback⟩ := exists_cons_flatMap_writeAttribute attrs.entries rest
    have hname := frontName_append htag (endsName_of_eq hc) back
    have hwritten : startTag tag attrs ++ rest = '<' :: (tag ++ c :: back) := by
      rw [← hback]
      simp [startTag]
    rw [hback] at hread
    rw [hwritten, readTag?]
    simp [hname, htag.1, hread]

/-- The attributes that are read of a tag are those that were written, if all keys are known and
none stands for an attribute without a value. -/
theorem toAttributes_readOf (tag : List Char) {attrs : Attributes}
    (h : attrs.All fun entry ↦ entry.1 ∈ AttributeKey.known ∧ entry.1.isBoolean = false) :
    (⟨tag, attrs.entries.map readOf⟩ : ReadTag).toAttributes = attrs := by
  have hknown : ∀ key ∈ AttributeKey.known, AttributeKey.ofName key.name = key := by decide
  obtain ⟨entries⟩ := attrs
  have hentry : ∀ entry ∈ entries,
      (AttributeKey.ofName (readOf entry).1, (readOf entry).2.getD []) = entry := by
    intro entry hmem
    obtain ⟨hkey, hboolean⟩ := h entry hmem
    simp [readOf, hknown entry.1 hkey, hboolean]
  rw [ReadTag.toAttributes, List.map_map]
  exact congrArg Attributes.mk ((List.map_congr_left hentry).trans (List.map_id _))

end Galley.Html
