import Galley.Proofs.Metadata.Fence

/-!
The search for a metadata block with a cursor. At the start of a line, a turn takes that line and
moves the cursor to the start of the next one (`exists_lineAt?`). So the search comes to a finding
on every document, and to the one of the grammar; the body is what stands from the offset in it on
(`search_cuts_at_fences`).
-/

set_option autoImplicit false
set_option relaxedAutoImplicit false

namespace Galley.Metadata

open Html (fromByte? slice? findBytes? fromByte?_append slice?_append byteCount_nil byteCount_cons
  byteCount_append)

/-! ### Lines at an offset -/

theorem findBytes?_of_notMem {line : List Char} (h : '\n' ∉ line) :
    findBytes? ['\n'] line = none := by
  induction line with
  | nil => rfl
  | cons c line ih =>
    obtain ⟨hc, hline⟩ := not_or.1 (mt List.mem_cons.2 h)
    simp [findBytes?, hc, ih hline]

theorem findBytes?_append_cons {line : List Char} (h : '\n' ∉ line) (rest : List Char) :
    findBytes? ['\n'] (line ++ '\n' :: rest) = some (byteCount line) := by
  induction line with
  | nil => rfl
  | cons c line ih =>
    obtain ⟨hc, hline⟩ := not_or.1 (mt List.mem_cons.2 h)
    simp [findBytes?, hc, ih hline]

theorem lineAt?_end (text : List Char) : lineAt? text (byteCount text) = some none :=
  if_pos le_rfl

theorem byteCount_pos {s : List Char} (h : s ≠ []) : 0 < byteCount s := by
  obtain ⟨c, rest, rfl⟩ := List.exists_cons_of_ne_nil h
  have hpos := c.utf8Size_pos
  rw [byteCount_cons]
  omega

/-- At the start of a line, this line is taken, and the next one starts behind it. Without its line
feed it is blank, or a fence, if it is so with it. -/
theorem exists_lineAt? {text front line : List Char} {rest : List (List Char)}
    (htext : text = front ++ (line :: rest).flatten) (hlines : AreLines (line :: rest)) :
    ∃ bare, lineAt? text (byteCount front) = some (some (bare, byteCount (front ++ line))) ∧
      Text.isBlankText bare = Text.isBlankText line ∧ isFence bare = isFence line := by
  have hahead : fromByte? text (byteCount front) = some (line :: rest).flatten := by
    rw [htext, fromByte?_append]
  have hmore {s : List Char} (hs : s ≠ []) (hsplit : text = front ++ s) :
      ¬ byteCount text ≤ byteCount front := by
    have hpos := byteCount_pos hs
    rw [hsplit, byteCount_append]
    omega
  cases hlines with
  | last hne hfeed =>
    have hsplit : text = front ++ line := by rw [htext, List.flatten_singleton]
    refine ⟨line, ?_, rfl, rfl⟩
    rw [lineAt?, if_neg (hmore hne hsplit), hahead]
    simp [findBytes?_of_notMem hfeed, hsplit]
  | cons hline hrest =>
    obtain ⟨bare, hfeed, rfl⟩ := hline
    have hflat : ((bare ++ ['\n']) :: rest).flatten = bare ++ '\n' :: rest.flatten := by simp
    have hslice : slice? text (byteCount front) (byteCount front + byteCount bare) = some bare := by
      rw [htext, hflat, slice?_append]
    have hnext : byteCount front + byteCount bare + 1 = byteCount (front ++ (bare ++ ['\n'])) := by
      simp only [byteCount_append, Nat.add_assoc]
      rfl
    refine ⟨bare, ?_, ?_, ?_⟩
    · rw [lineAt?, if_neg (hmore (by simp) htext), hahead, hflat]
      simp [findBytes?_append_cons hfeed, hslice, hnext]
    · simp [Text.isBlankText, Text.isBlank]
    · rw [isFence, isFence, dropLineFeed_append, dropLineFeed_of_notMem hfeed]

/-! ### Turns -/

namespace FenceScan

section Turns

variable {text front line : List Char} {rest : List (List Char)} {shift start : Nat}

theorem turn?_end (text : List Char) (shift : Nat) :
    turn? text shift (before (byteCount text)) = some (.finished .absent) ∧
      ∀ start, turn? text shift (within start (byteCount text)) =
        some (.finished .unterminated) := by
  constructor <;> simp [turn?, lineAt?_end]

/-- What a turn does at a line before the block. -/
theorem turn?_before (shift : Nat) (htext : text = front ++ (line :: rest).flatten)
    (hlines : AreLines (line :: rest)) : turn? text shift (before (byteCount front)) =
      some (if Text.isBlankText line then .next (before (byteCount (front ++ line)))
        else if isFence line then
          .next (within (byteCount (front ++ line)) (byteCount (front ++ line)))
        else .finished .absent) := by
  obtain ⟨bare, hline, hblank, hfence⟩ := exists_lineAt? htext hlines
  simp only [turn?, hline, hblank, hfence, Option.bind_eq_bind, Option.bind_some, Option.pure_def]
  split_ifs <;> rfl

/-- What a turn does at a line of the block. -/
theorem turn?_within {inner : List Char} (shift : Nat)
    (htext : text = front ++ inner ++ (line :: rest).flatten) (hlines : AreLines (line :: rest)) :
    turn? text shift (within (byteCount front) (byteCount (front ++ inner))) =
      some (if isFence line then
        .finished (.found (dropTrailing (fun c ↦ c == '\r' || c == '\n') inner)
          (shift + byteCount (front ++ inner ++ line)))
        else .next (within (byteCount front) (byteCount (front ++ inner ++ line)))) := by
  obtain ⟨bare, hline, -, hfence⟩ := exists_lineAt? htext hlines
  have hslice : slice? text (byteCount front) (byteCount (front ++ inner)) = some inner := by
    rw [htext, byteCount_append, List.append_assoc, slice?_append]
  simp only [turn?, hline, hfence, hslice, Option.bind_eq_bind, Option.bind_some, Option.pure_def]
  split_ifs <;> rfl

/-! ### Runs -/

/-- A search passes over blank lines. -/
theorem Finds.of_blanks {blanks : List (List Char)} {finding : Finding}
    (htext : text = front ++ (blanks ++ rest).flatten) (hlines : AreLines (blanks ++ rest))
    (hblanks : ∀ line ∈ blanks, Text.isBlankText line = true)
    (h : Finds text shift (before (byteCount (front ++ blanks.flatten))) finding) :
    Finds text shift (before (byteCount front)) finding := by
  induction blanks generalizing front with
  | nil => simpa using h
  | cons line blanks ih =>
    have hline := List.forall_mem_cons.1 hblanks
    have hturn := turn?_before shift htext hlines
    rw [if_pos hline.1] at hturn
    refine .next hturn (ih ?_ hlines.of_cons hline.2 ?_)
    · rw [htext]
      simp
    · simpa using h

/-- A search passes over lines of the block that are not a fence. -/
theorem Finds.of_inner {inner : List Char} {block : List (List Char)} {finding : Finding}
    (htext : text = front ++ inner ++ (block ++ rest).flatten) (hlines : AreLines (block ++ rest))
    (hblock : ∀ line ∈ block, ¬ IsFence line)
    (h : Finds text shift (within (byteCount front) (byteCount (front ++ inner ++ block.flatten)))
      finding) :
    Finds text shift (within (byteCount front) (byteCount (front ++ inner))) finding := by
  induction block generalizing inner with
  | nil => simpa using h
  | cons line block ih =>
    have hline := List.forall_mem_cons.1 hblock
    have hturn := turn?_within shift htext hlines
    rw [if_neg (mt isFence_iff.1 hline.1), List.append_assoc] at hturn
    refine .next hturn (ih ?_ hlines.of_cons hline.2 ?_)
    · rw [htext]
      simp
    · simpa using h

/-- A search comes to one finding at most. -/
theorem Finds.unique {scan : FenceScan} {finding other : Finding}
    (h : Finds text shift scan finding) (hother : Finds text shift scan other) :
    finding = other := by
  induction h with
  | finished hturn =>
    cases hother with
    | finished hturn' => simpa [hturn] using hturn'
    | next hturn' => simp [hturn] at hturn'
  | next hturn hrest ih =>
    cases hother with
    | finished hturn' => simp [hturn] at hturn'
    | next hturn' hrest' =>
      obtain rfl : _ = _ := by simpa [hturn] using hturn'
      exact ih hrest'

end Turns

end FenceScan

open FenceScan

/-- A search starts with the blank lines. -/
theorem Opening.findsIn {s mark : List Char} {blanks rest : List (List Char)} {finding : Finding}
    (hopen : Opening s mark blanks rest)
    (h : Finds (dropOrderMark s) (byteCount mark) (before (byteCount blanks.flatten)) finding) :
    FindsIn s finding := by
  have htext : dropOrderMark s = [] ++ (blanks ++ rest).flatten := hopen.dropOrderMark_eq
  rw [FindsIn, hopen.markOf_eq]
  exact .of_blanks htext hopen.areLines hopen.blanks h

/-- Behind the first fence, a search goes on up to the next one. -/
theorem Opening.findsIn_of_isFence {s mark fence : List Char} {blanks block rest : List (List Char)}
    {finding : Finding} (hopen : Opening s mark blanks (fence :: (block ++ rest)))
    (hfence : IsFence fence) (hblock : ∀ line ∈ block, ¬ IsFence line)
    (h : Finds (dropOrderMark s) (byteCount mark) (within (byteCount (blanks.flatten ++ fence))
      (byteCount (blanks.flatten ++ fence ++ block.flatten))) finding) :
    FindsIn s finding := by
  have hlines := hopen.areLines.of_append
  have hbefore : dropOrderMark s = blanks.flatten ++ (fence :: (block ++ rest)).flatten := by
    rw [hopen.dropOrderMark_eq, List.flatten_append]
  have hwithin : dropOrderMark s = blanks.flatten ++ fence ++ [] ++ (block ++ rest).flatten := by
    rw [hbefore]
    simp
  have hturn := turn?_before (byteCount mark) hbefore hlines
  rw [hopen.next fence rfl, if_neg Bool.false_ne_true, if_pos (isFence_iff.2 hfence)] at hturn
  have hinner : Finds (dropOrderMark s) (byteCount mark)
      (within (byteCount (blanks.flatten ++ fence)) (byteCount (blanks.flatten ++ fence ++ [])))
      finding :=
    .of_inner hwithin hlines.of_cons hblock (by rwa [List.append_nil])
  rw [List.append_nil] at hinner
  exact hopen.findsIn (.next hturn hinner)

/-- The search comes to what the grammar says. -/
theorem Grammar.findsIn {s : List Char} {finding : Finding} (h : Grammar s finding) :
    FindsIn s finding := by
  cases h with
  | @absent mark blanks rest hopen hnext =>
    have htext := hopen.dropOrderMark_eq
    rw [List.flatten_append] at htext
    refine hopen.findsIn (.finished ?_)
    cases rest with
    | nil =>
      rw [List.flatten_nil, List.append_nil] at htext
      rw [htext, (turn?_end _ _).1]
    | cons line rest =>
      rw [turn?_before _ htext hopen.areLines.of_append, hopen.next line rfl,
        if_neg Bool.false_ne_true, if_neg (mt isFence_iff.1 (hnext line rfl))]
  | @unterminated mark fence blanks rest hopen hfence hrest =>
    have htext := hopen.dropOrderMark_eq
    rw [List.flatten_append, List.flatten_cons, ← List.append_assoc] at htext
    rw [← List.append_nil rest] at hopen
    refine hopen.findsIn_of_isFence hfence hrest (.finished ?_)
    rw [htext, (turn?_end _ _).2]
  | @found mark fence close text blanks inner rest hopen hfence hinner hclose htext =>
    have hwithin : dropOrderMark s =
        blanks.flatten ++ fence ++ inner.flatten ++ (close :: rest).flatten := by
      rw [hopen.dropOrderMark_eq]
      simp
    have hturn := turn?_within (byteCount mark) hwithin
      hopen.areLines.of_append.of_cons.of_append
    rw [if_pos (isFence_iff.2 hclose), isTrimmed_iff.1 htext, ← byteCount_append] at hturn
    have hfront : frontOf mark blanks fence inner close =
        mark ++ (blanks.flatten ++ fence ++ inner.flatten ++ close) := by simp [frontOf]
    rw [hfront]
    exact hopen.findsIn_of_isFence hfence hinner (.finished hturn)

theorem findsIn_iff_grammar {s : List Char} {finding : Finding} :
    FindsIn s finding ↔ Grammar s finding := by
  refine ⟨fun h ↦ ?_, Grammar.findsIn⟩
  obtain ⟨other, hother⟩ := exists_grammar s
  obtain rfl := h.unique hother.findsIn
  exact hother

/-- Whatever the document is, the search for a metadata block comes to one finding, without taking
anything from beyond the end or from within a character, and it is the only one that the grammar
allows; the metadata and the body are read by it. If a body stands behind a mark of the byte order
or none, blank lines, a fence, lines none of which is a fence, and a second fence, then the search
finds these lines, without ends of lines at their end, and the body stands from the offset of the
finding on. -/
theorem search_cuts_at_fences :
    (∀ s, ∃ finding : Finding, (∀ other, FindsIn s other ↔ other = finding) ∧
      (∀ other, Grammar s other ↔ other = finding) ∧ finding.Gives s) ∧
    ∀ mark blanks fence inner close body, Layout mark blanks fence inner close body →
      ∃ text, IsTrimmed inner.flatten text ∧
        FindsIn (frontOf mark blanks fence inner close ++ body)
          (.found text (byteCount (frontOf mark blanks fence inner close))) ∧
        fromByte? (frontOf mark blanks fence inner close ++ body)
          (byteCount (frontOf mark blanks fence inner close)) = some body ∧
        extract (frontOf mark blanks fence inner close ++ body) =
          (readBlock text).map fun fields ↦ { fields, body } := by
  constructor
  · intro s
    obtain ⟨finding, hgrammar⟩ := exists_grammar s
    have hunique (other : Finding) : FindsIn s other ↔ other = finding :=
      ⟨fun h ↦ h.unique hgrammar.findsIn, fun h ↦ h ▸ hgrammar.findsIn⟩
    exact ⟨finding, hunique, fun other ↦ findsIn_iff_grammar.symm.trans (hunique other),
      hgrammar.gives⟩
  · intro mark blanks fence inner close body h
    have hgrammar := h.grammar (isTrimmed_iff.2 rfl)
    have hbody := fromByte?_append (frontOf mark blanks fence inner close) body
    obtain ⟨-, body', hbody', hextract, -⟩ := hgrammar.gives
    obtain rfl : body' = body := Option.some.inj (hbody'.symm.trans hbody)
    exact ⟨_, isTrimmed_iff.2 rfl, hgrammar.findsIn, hbody, hextract⟩

/-- In this document the body starts at byte 30, with a line that looks like a fence. -/
theorem search_cuts_at_fences_of_markedDocument :
    FindsIn "\ufeff \r\n---\r\ntitle: é\r\n\r\n---\r\r\n---\nß".toList
      (.found "title: é".toList 30) ∧
    fromByte? "\ufeff \r\n---\r\ntitle: é\r\n\r\n---\r\r\n---\nß".toList 30 =
      some "---\nß".toList := by
  have hwhole {line : List Char} (h : line.getLast? = some '\n' ∧ '\n' ∉ line.dropLast) :
      IsWholeLine line :=
    ⟨line.dropLast, h.2, (List.dropLast_append_getLast? _ h.1).symm⟩
  have hlayout : Layout [orderMark] [" \r\n".toList] "---\r\n".toList
      ["title: é\r\n".toList, "\r\n".toList] "---\r\r\n".toList "---\nß".toList := by
    refine ⟨.inl rfl, ?_, .inl (hwhole (by decide)), List.forall_mem_singleton.2 (by decide),
      isFence_iff.1 (by decide), ?_, isFence_iff.1 (by decide)⟩
    · simp only [List.cons_append, List.nil_append, List.forall_mem_cons]
      exact ⟨hwhole (by decide), hwhole (by decide), hwhole (by decide), hwhole (by decide), nofun⟩
    · simp only [List.forall_mem_cons, ← isFence_eq_false_iff]
      exact ⟨by decide, by decide, nofun⟩
  obtain ⟨text, htext, hfinds, hbody, -⟩ := search_cuts_at_fences.2 _ _ _ _ _ _ hlayout
  obtain rfl : "title: é".toList = text := (by decide : _ = _).trans (isTrimmed_iff.1 htext)
  have hdocument : frontOf [orderMark] [" \r\n".toList] "---\r\n".toList
      ["title: é\r\n".toList, "\r\n".toList] "---\r\r\n".toList ++ "---\nß".toList =
        "\ufeff \r\n---\r\ntitle: é\r\n\r\n---\r\r\n---\nß".toList := by decide
  have hstart : byteCount (frontOf [orderMark] [" \r\n".toList] "---\r\n".toList
      ["title: é\r\n".toList, "\r\n".toList] "---\r\r\n".toList) = 30 := by decide
  rw [hdocument, hstart] at hfinds hbody
  exact ⟨hfinds, hbody⟩

end Galley.Metadata
