import Galley.Metadata.FenceScan
import Galley.Metadata.FrontMatter
import Galley.Proofs.Html.OutlineScan

/-!
The grammar of a document with a metadata block. What stands before a block is the mark of the byte
order and blank lines; a block stands between the first two fences. Each document has a finding by
the grammar (`exists_grammar`), and it is the one that the metadata is read by (`Grammar.gives`).
-/

set_option autoImplicit false
set_option relaxedAutoImplicit false

namespace Galley.Metadata

open Html (fromByte? fromByte?_append byteCount_append)

/-! ### Lines -/

/-- A line with the line feed that ends it. -/
def IsWholeLine (line : List Char) : Prop := ∃ inner, '\n' ∉ inner ∧ line = inner ++ ['\n']

/-- The lines of a text. A line feed may be missing behind the last one, which is not empty then. -/
inductive AreLines : List (List Char) → Prop
  | nil : AreLines []
  | last {line : List Char} (hne : line ≠ []) (hfeed : '\n' ∉ line) : AreLines [line]
  | cons {line : List Char} {rest : List (List Char)} (hline : IsWholeLine line)
    (hrest : AreLines rest) : AreLines (line :: rest)

theorem AreLines.of_cons {line : List Char} {rest : List (List Char)}
    (h : AreLines (line :: rest)) : AreLines rest := by
  cases h with
  | last => exact .nil
  | cons hline hrest => exact hrest

theorem AreLines.of_append {front rest : List (List Char)} (h : AreLines (front ++ rest)) :
    AreLines rest := by
  induction front with
  | nil => exact h
  | cons line front ih => exact ih h.of_cons

theorem AreLines.append {front rest : List (List Char)} (h : ∀ line ∈ front, IsWholeLine line)
    (hrest : AreLines rest) : AreLines (front ++ rest) := by
  induction front with
  | nil => exact hrest
  | cons line front ih =>
    have hline := List.forall_mem_cons.1 h
    exact .cons hline.1 (ih hline.2)

theorem areLines_lines (s : List Char) : AreLines (lines s) := by
  induction s with
  | nil => exact .nil
  | cons c rest ih =>
    unfold lines
    split
    · next hc => exact .cons ⟨[], List.not_mem_nil, by rw [hc]; rfl⟩ ih
    · next hc =>
      have hcons {line : List Char} (h : '\n' ∉ line) : '\n' ∉ c :: line :=
        List.not_mem_cons_of_ne_of_not_mem (Ne.symm hc) h
      split
      · exact .last (List.cons_ne_nil _ _) (hcons List.not_mem_nil)
      · next line later heq =>
        rw [heq] at ih
        cases ih with
        | last hne hfeed => exact .last (List.cons_ne_nil _ _) (hcons hfeed)
        | cons hline hrest =>
          obtain ⟨inner, hfeed, rfl⟩ := hline
          exact .cons ⟨c :: inner, hcons hfeed, rfl⟩ hrest

theorem lines_append_of_isWholeLine {line : List Char} (h : IsWholeLine line) (rest : List Char) :
    lines (line ++ rest) = line :: lines rest := by
  obtain ⟨inner, hfeed, rfl⟩ := h
  induction inner with
  | nil => simp [lines]
  | cons c inner ih =>
    obtain ⟨hc, hinner⟩ := not_or.1 (mt List.mem_cons.2 hfeed)
    have hmore := ih hinner
    simp only [List.append_assoc, List.cons_append] at hmore ⊢
    rw [lines, if_neg (Ne.symm hc), hmore]

theorem lines_of_notMem {line : List Char} (hne : line ≠ []) (h : '\n' ∉ line) :
    lines line = [line] := by
  induction line with
  | nil => exact absurd rfl hne
  | cons c line ih =>
    obtain ⟨hc, hline⟩ := not_or.1 (mt List.mem_cons.2 h)
    rw [lines, if_neg (Ne.symm hc)]
    cases line with
    | nil => rfl
    | cons d line => rw [ih (List.cons_ne_nil _ _) hline]

/-- There is one way only to take a text apart into lines. -/
theorem AreLines.lines_flatten {ls : List (List Char)} (h : AreLines ls) :
    lines ls.flatten = ls := by
  induction h with
  | nil => rfl
  | last hne hfeed => rw [List.flatten_singleton, lines_of_notMem hne hfeed]
  | cons hline hrest ih => rw [List.flatten_cons, lines_append_of_isWholeLine hline, ih]

/-! ### Fences -/

theorem dropTrailing_eq_iff {test : Char → Bool} {s t : List Char} :
    dropTrailing test s = t ↔
      ∃ ends, s = t ++ ends ∧ (∀ c ∈ ends, test c = true) ∧ ∀ c ∈ t.getLast?, test c = false := by
  change s.rdropWhile test = t ↔ _
  constructor
  · rintro rfl
    refine ⟨s.rtakeWhile test, List.rdropWhile_append_rtakeWhile.symm,
      fun c ↦ List.mem_rtakeWhile_imp, fun c hc ↦ ?_⟩
    obtain ⟨hne, rfl⟩ := List.mem_getLast?_eq_getLast hc
    simpa using List.rdropWhile_last_not test s hne
  · rintro ⟨ends, rfl, hends, hlast⟩
    induction ends using List.reverseRecOn with
    | nil =>
      rw [List.append_nil, List.rdropWhile_eq_self_iff]
      intro hne
      simp [hlast _ (List.getLast_mem_getLast? hne)]
    | append_singleton ends c ih =>
      have hboth := List.forall_mem_append.1 hends
      rw [← List.append_assoc, List.rdropWhile_concat_pos _ _ _ (hboth.2 c (by simp))]
      exact ih hboth.1

/-- Three hyphens, then carriage returns only, and a line feed unless the text ends. -/
def IsFence (line : List Char) : Prop :=
  ∃ returns feed, line = ['-', '-', '-'] ++ returns ++ feed ∧ (∀ c ∈ returns, c = '\r') ∧
    (feed = [] ∨ feed = ['\n'])

theorem dropLineFeed_of_notMem {line : List Char} (h : '\n' ∉ line) : dropLineFeed line = line :=
  if_neg fun hlast ↦ h (List.mem_of_getLast? hlast)

@[simp] theorem dropLineFeed_append (line : List Char) : dropLineFeed (line ++ ['\n']) = line := by
  simp [dropLineFeed]

theorem isFence_iff {line : List Char} : isFence line = true ↔ IsFence line := by
  have hbare (inner : List Char) : dropTrailing (· == '\r') inner = ['-', '-', '-'] ↔
      ∃ returns, inner = ['-', '-', '-'] ++ returns ∧ ∀ c ∈ returns, c = '\r' := by
    rw [dropTrailing_eq_iff]
    simp
  rw [isFence, beq_iff_eq, hbare]
  constructor
  · rintro ⟨returns, hline, hreturns⟩
    unfold dropLineFeed at hline
    split_ifs at hline with hlast
    · refine ⟨returns, ['\n'], ?_, hreturns, .inr rfl⟩
      rw [← hline, List.dropLast_append_getLast? _ hlast]
    · exact ⟨returns, [], by rw [hline, List.append_nil], hreturns, .inl rfl⟩
  · rintro ⟨returns, feed, rfl, hreturns, rfl | rfl⟩
    · refine ⟨returns, ?_, hreturns⟩
      rw [List.append_nil, dropLineFeed_of_notMem]
      intro hmem
      rcases List.mem_append.1 hmem with hmem | hmem
      · exact absurd hmem (by decide)
      · exact absurd (hreturns _ hmem) (by decide)
    · exact ⟨returns, dropLineFeed_append _, hreturns⟩

theorem isFence_eq_false_iff {line : List Char} : isFence line = false ↔ ¬ IsFence line := by
  rw [← isFence_iff, Bool.not_eq_true]

/-! ### Documents -/

/-- A text without the ends of lines at its end. -/
def IsTrimmed (s text : List Char) : Prop :=
  ∃ ends, s = text ++ ends ∧ (∀ c ∈ ends, c = '\r' ∨ c = '\n') ∧
    ∀ c ∈ text.getLast?, c ≠ '\r' ∧ c ≠ '\n'

theorem isTrimmed_iff {s text : List Char} :
    IsTrimmed s text ↔ dropTrailing (fun c ↦ c == '\r' || c == '\n') s = text := by
  simp [IsTrimmed, dropTrailing_eq_iff]

/-- How a document begins: the mark of the byte order, if it is there, then blank lines, and then
the lines from the first one on that is not blank. -/
structure Opening (s mark : List Char) (blanks rest : List (List Char)) : Prop where
  text : s = mark ++ (blanks ++ rest).flatten
  mark : mark = [orderMark] ∨ mark = [] ∧ s.head? ≠ some orderMark
  areLines : AreLines (blanks ++ rest)
  blanks : ∀ line ∈ blanks, Text.isBlankText line = true
  next : ∀ line ∈ rest.head?, Text.isBlankText line = false

/-- What stands before the body of a document with a block. -/
def frontOf (mark : List Char) (blanks : List (List Char)) (fence : List Char)
    (inner : List (List Char)) (close : List Char) : List Char :=
  mark ++ (blanks ++ fence :: (inner ++ [close])).flatten

/-- The findings that the grammar of documents allows. -/
inductive Grammar (s : List Char) : Finding → Prop
  | absent {mark : List Char} {blanks rest : List (List Char)} (hopen : Opening s mark blanks rest)
    (hnext : ∀ line ∈ rest.head?, ¬ IsFence line) : Grammar s .absent
  | unterminated {mark fence : List Char} {blanks rest : List (List Char)}
    (hopen : Opening s mark blanks (fence :: rest)) (hfence : IsFence fence)
    (hrest : ∀ line ∈ rest, ¬ IsFence line) : Grammar s .unterminated
  | found {mark fence close text : List Char} {blanks inner rest : List (List Char)}
    (hopen : Opening s mark blanks (fence :: (inner ++ close :: rest))) (hfence : IsFence fence)
    (hinner : ∀ line ∈ inner, ¬ IsFence line) (hclose : IsFence close)
    (htext : IsTrimmed inner.flatten text) :
    Grammar s (.found text (byteCount (frontOf mark blanks fence inner close)))

theorem markOf_append_dropOrderMark (s : List Char) : markOf s ++ dropOrderMark s = s := by
  cases s with
  | nil => rfl
  | cons c rest =>
    simp only [markOf, dropOrderMark]
    split_ifs <;> rfl

theorem Opening.markOf_eq {s mark : List Char} {blanks rest : List (List Char)}
    (h : Opening s mark blanks rest) : markOf s = mark := by
  rcases h.mark with rfl | ⟨rfl, hhead⟩
  · rw [h.text]
    rfl
  · unfold markOf
    split
    · exact if_neg fun hc ↦ hhead (congrArg some hc)
    · rfl

theorem Opening.dropOrderMark_eq {s mark : List Char} {blanks rest : List (List Char)}
    (h : Opening s mark blanks rest) : dropOrderMark s = (blanks ++ rest).flatten := by
  have hsplit := (markOf_append_dropOrderMark s).trans h.text
  rw [h.markOf_eq] at hsplit
  exact List.append_cancel_left hsplit

theorem exists_opening (s : List Char) : ∃ mark blanks rest, Opening s mark blanks rest := by
  let ls := lines (dropOrderMark s)
  have hsplit : ls.takeWhile Text.isBlankText ++ ls.dropWhile Text.isBlankText = ls :=
    List.takeWhile_append_dropWhile
  refine ⟨markOf s, ls.takeWhile Text.isBlankText, ls.dropWhile Text.isBlankText, ?_, ?_, ?_,
    fun line ↦ List.mem_takeWhile_imp, fun line hline ↦ ?_⟩
  · rw [hsplit, flatten_lines, markOf_append_dropOrderMark]
  · unfold markOf
    split
    · next c rest =>
      split_ifs with hc
      · exact .inl (by rw [hc])
      · exact .inr ⟨rfl, fun h ↦ hc (Option.some.inj h)⟩
    · exact .inr ⟨rfl, nofun⟩
  · rw [hsplit]
    exact areLines_lines _
  · have hhead := List.head?_dropWhile_not Text.isBlankText ls
    rw [Option.mem_def.1 hline] at hhead
    exact hhead

/-- Each document has a finding. -/
theorem exists_grammar (s : List Char) : ∃ finding, Grammar s finding := by
  obtain ⟨mark, blanks, rest, hopen⟩ := exists_opening s
  cases rest with
  | nil => exact ⟨_, .absent hopen nofun⟩
  | cons fence rest =>
    by_cases hfence : IsFence fence
    · have hsplit : rest.takeWhile (!isFence ·) ++ rest.dropWhile (!isFence ·) = rest :=
        List.takeWhile_append_dropWhile
      have hinner : ∀ line ∈ rest.takeWhile (!isFence ·), ¬ IsFence line := fun line hline ↦ by
        simpa [isFence_eq_false_iff] using List.mem_takeWhile_imp hline
      have hhead := List.head?_dropWhile_not (!isFence ·) rest
      cases hdrop : rest.dropWhile (!isFence ·) with
      | nil =>
        rw [hdrop, List.append_nil] at hsplit
        exact ⟨_, .unterminated hopen hfence (hsplit ▸ hinner)⟩
      | cons close after =>
        rw [hdrop] at hsplit hhead
        have hclose : IsFence close := by simpa [isFence_iff] using hhead
        exact ⟨_, .found (hsplit.symm ▸ hopen) hfence hinner hclose (isTrimmed_iff.2 rfl)⟩
    · exact ⟨_, .absent hopen fun line hline ↦ (Option.some.inj hline) ▸ hfence⟩

/-- A document that is put together: blank lines, a fence, lines none of which is one, and a second
fence stand before the body. -/
structure Layout (mark : List Char) (blanks : List (List Char)) (fence : List Char)
    (inner : List (List Char)) (close body : List Char) : Prop where
  mark : mark = [orderMark] ∨ mark = []
  whole : ∀ line ∈ blanks ++ fence :: inner, IsWholeLine line
  ends : IsWholeLine close ∨ '\n' ∉ close ∧ body = []
  blanks : ∀ line ∈ blanks, Text.isBlankText line = true
  fence : IsFence fence
  inner : ∀ line ∈ inner, ¬ IsFence line
  close : IsFence close

theorem IsFence.isBlankText_eq {line : List Char} (h : IsFence line) :
    Text.isBlankText line = false := by
  obtain ⟨returns, feed, rfl, -⟩ := h
  rfl

/-- A document that is put together has the parts that it was put together from. -/
theorem Layout.grammar {mark fence close body text : List Char} {blanks inner : List (List Char)}
    (h : Layout mark blanks fence inner close body) (htext : IsTrimmed inner.flatten text) :
    Grammar (frontOf mark blanks fence inner close ++ body)
      (.found text (byteCount (frontOf mark blanks fence inner close))) := by
  have hclose : AreLines (close :: lines body) := by
    rcases h.ends with hwhole | ⟨hfeed, rfl⟩
    · exact .cons hwhole (areLines_lines body)
    · exact .last (by obtain ⟨_, _, rfl, -⟩ := h.close; exact List.cons_ne_nil _ _) hfeed
  have hopen : Opening (frontOf mark blanks fence inner close ++ body) mark blanks
      (fence :: (inner ++ close :: lines body)) := by
    refine ⟨?_, h.mark.imp_right fun hmark ↦ ⟨hmark, ?_⟩, ?_, h.blanks, fun line hline ↦ ?_⟩
    · rw [frontOf]
      simp [flatten_lines]
    · subst hmark
      obtain ⟨returns, feed, rfl, -⟩ := h.fence
      intro hhead
      have hmem : orderMark ∈ blanks.flatten := by
        cases hblanks : blanks.flatten with
        | nil => simp [frontOf, hblanks, orderMark] at hhead
        | cons c rest =>
          have hc : c = orderMark := by simpa [frontOf, hblanks] using hhead
          exact hc ▸ List.mem_cons_self
      obtain ⟨line, hline, hc⟩ := List.mem_flatten.1 hmem
      exact absurd (List.all_eq_true.1 (h.blanks line hline) _ hc) (by decide)
    · have hlines := AreLines.append h.whole hclose
      rwa [List.append_assoc, List.cons_append] at hlines
    · rw [← Option.some.inj hline]
      exact h.fence.isBlankText_eq
  exact .found hopen h.fence h.inner h.close htext

/-! ### Reading -/

theorem afterFence?_append {blanks : List (List Char)}
    (h : ∀ line ∈ blanks, Text.isBlankText line = true) (rest : List (List Char)) :
    afterFence? (blanks ++ rest) = afterFence? rest := by
  induction blanks with
  | nil => rfl
  | cons line blanks ih =>
    have hblank := List.forall_mem_cons.1 h
    rw [List.cons_append, afterFence?, if_pos hblank.1, ih hblank.2]

theorem untilFence?_append {inner : List (List Char)} (h : ∀ line ∈ inner, ¬ IsFence line)
    (rest : List (List Char)) : untilFence? (inner ++ rest) =
      (untilFence? rest).map fun parts ↦ (inner ++ parts.1, parts.2) := by
  induction inner with
  | nil => simp
  | cons line inner ih =>
    have hline := List.forall_mem_cons.1 h
    rw [List.cons_append, untilFence?, if_neg (mt isFence_iff.1 hline.1), ih hline.2,
      Option.map_map]
    rfl

theorem Opening.afterFence?_lines {s mark : List Char} {blanks rest : List (List Char)}
    (h : Opening s mark blanks rest) :
    afterFence? (lines (dropOrderMark s)) = afterFence? rest := by
  rw [h.dropOrderMark_eq, h.areLines.lines_flatten, afterFence?_append h.blanks]

theorem Opening.afterFence?_lines_of_isFence {s mark fence : List Char}
    {blanks rest : List (List Char)} (h : Opening s mark blanks (fence :: rest))
    (hfence : IsFence fence) : afterFence? (lines (dropOrderMark s)) = some rest := by
  rw [h.afterFence?_lines, afterFence?, h.next fence rfl, if_neg Bool.false_ne_true,
    if_pos (isFence_iff.2 hfence)]

/-- What is read of a document with a finding. -/
def Finding.Gives (s : List Char) : Finding → Prop
  | absent => extract s = .ok { body := s } ∧ bodyStart s { body := s } = 0 ∧ split s = .ok ({}, s)
  | unterminated => extract s = .error .unterminated ∧ split s = .error .unterminated
  | found block start => start ≤ byteCount s ∧ ∃ body, fromByte? s start = some body ∧
      extract s = (readBlock block).map (fun fields ↦ { fields, body }) ∧
      ∀ fields, bodyStart s { fields, body } = start

theorem Grammar.gives {s : List Char} {finding : Finding} (h : Grammar s finding) :
    finding.Gives s := by
  cases h with
  | @absent mark blanks rest hopen hnext =>
    have hnone : afterFence? rest = none := by
      cases rest with
      | nil => rfl
      | cons line rest =>
        have hfence := mt isFence_iff.1 (hnext line rfl)
        rw [afterFence?, hopen.next line rfl, if_neg Bool.false_ne_true, if_neg hfence]
    have hextract : extract s = .ok { body := s } := by
      simp only [extract, locate, hopen.afterFence?_lines, hnone]
    exact ⟨hextract, Nat.sub_self _, by rw [split, hextract]; rfl⟩
  | unterminated hopen hfence hrest =>
    have huntil := untilFence?_append hrest []
    rw [List.append_nil, untilFence?, Option.map_none] at huntil
    have hextract : extract s = .error .unterminated := by
      simp only [extract, locate, hopen.afterFence?_lines_of_isFence hfence, huntil]
    exact ⟨hextract, by rw [split, hextract]; rfl⟩
  | @found mark fence close text blanks inner rest hopen hfence hinner hclose htext =>
    have huntil : untilFence? (inner ++ close :: rest) = some (inner, rest) := by
      rw [untilFence?_append hinner, untilFence?, if_pos (isFence_iff.2 hclose), Option.map_some,
        List.append_nil]
    have hsplit : s = frontOf mark blanks fence inner close ++ rest.flatten := by
      rw [hopen.text, frontOf]
      simp
    refine ⟨?_, rest.flatten, ?_, ?_, fun fields ↦ ?_⟩
    · rw [hsplit, byteCount_append]
      exact Nat.le_add_right _ _
    · rw [hsplit, fromByte?_append]
    · simp only [extract, locate, hopen.afterFence?_lines_of_isFence hfence, huntil,
        isTrimmed_iff.1 htext]
    · rw [bodyStart, hsplit, byteCount_append, Nat.add_sub_cancel]

end Galley.Metadata
