import Mathlib
import Galley.Embed.Recording
import Galley.Proofs.Text.Lines

/-!
The options in a block that names a recording. A line sets an option if it has a colon and one of
the names of the option in front of it (`clause?`, `PlayerOption.names`). What a block says of an
option is what the last line says that sets it (`Recording.ofBlock_eq`), so that lines which set
different options can change places, and lines which set none can come and go
(`Recording.options_are_independent`).
-/

set_option autoImplicit false
set_option relaxedAutoImplicit false

namespace Galley.Embed

/-! ### Lines that set options -/

/-- The options of a player that a block can set. -/
inductive PlayerOption where
  | castId
  | theme
  | speed
  | autoPlay
  | repeats
  | cols
  | rows
deriving DecidableEq, Repr, Inhabited

/-- The names of an option. -/
def PlayerOption.names : PlayerOption → List (List Char)
  | castId => ["cast-id".toList, "castId".toList]
  | theme => ["theme".toList]
  | speed => ["speed".toList]
  | autoPlay => ["autoPlay".toList, "auto-play".toList]
  | repeats => ["loop".toList]
  | cols => ["cols".toList]
  | rows => ["rows".toList]

/-- All options. -/
def PlayerOption.all : List PlayerOption :=
  [.castId, .theme, .speed, .autoPlay, .repeats, .cols, .rows]

/-- The option with a name. -/
def PlayerOption.ofName? (name : List Char) : Option PlayerOption :=
  all.find? (·.names.contains name)

/-- The key and the value in a line: what stands before its first colon, and what stands between
that and the next one. -/
def clause? (line : List Char) : Option (List Char × List Char) :=
  if ':' ∈ line then
    some (Text.trim (line.takeWhile (· != ':')),
      Text.trim ((line.dropWhile (· != ':')).tail.takeWhile (· != ':')))
  else none

/-- The value that a line sets an option to. -/
def PlayerOption.value? (option : PlayerOption) (line : List Char) : Option (List Char) :=
  (clause? line).bind fun (key, value) => if ofName? key = some option then some value else none

/-- Whether a line sets an option. -/
def PlayerOption.isSetBy (option : PlayerOption) (line : List Char) : Bool :=
  (option.value? line).isSome

/-- The value that the last of the lines sets an option to. -/
def PlayerOption.lastValue? (option : PlayerOption) (lines : List (List Char)) :
    Option (List Char) :=
  (lines.filterMap option.value?).getLast?

/-- The recording whose options have the given values. -/
def Recording.ofValues (value? : PlayerOption → Option (List Char)) : Recording where
  castId := (value? .castId).getD []
  theme := value? .theme
  speed := (value? .speed).bind Decimal.double?
  autoPlay := value? .autoPlay == some "true".toList
  repeats := value? .repeats == some "true".toList
  cols := (value? .cols).bind (Decimal.natUpTo? sizeLimit)
  rows := (value? .rows).bind (Decimal.natUpTo? sizeLimit)

/-- Whether a line is blank, has no colon, or has a key before it that is the name of no option. -/
def isIdle (line : List Char) : Bool :=
  Text.isBlankText line || !line.contains ':' ||
    (PlayerOption.ofName? (Text.trim (line.takeWhile (· != ':')))).isNone

/-! ### Reading a line -/

theorem isBlank_ne_colon {c : Char} (hc : Text.isBlank c = true) : ':' ≠ c := by
  rintro rfl
  exact absurd hc (by decide)

theorem takeWhile_of_notMem {s : List Char} (h : ':' ∉ s) : s.takeWhile (· != ':') = s := by
  refine List.takeWhile_eq_self_iff.2 fun c hc ↦ bne_iff_ne.2 ?_
  rintro rfl
  exact h hc

theorem takeWhile_append_colon {s : List Char} (h : ':' ∉ s) (rest : List Char) :
    (s ++ ':' :: rest).takeWhile (· != ':') = s := by
  rw [List.takeWhile_append, takeWhile_of_notMem h]
  simp

/-- A text with a colon is what stands before its first one, the colon, and the rest. -/
theorem exists_key {s : List Char} (h : ':' ∈ s) :
    ∃ key rest, ':' ∉ key ∧ s = key ++ ':' :: rest := by
  obtain ⟨key, rest, rfl, hkey⟩ := List.eq_append_cons_of_mem h
  exact ⟨key, rest, hkey, rfl⟩

theorem clause?_of_notMem {line : List Char} (h : ':' ∉ line) : clause? line = none := if_neg h

theorem clause?_append_colon {key : List Char} (hkey : ':' ∉ key) (rest : List Char) :
    clause? (key ++ ':' :: rest) =
      some (Text.trim key, Text.trim (rest.takeWhile (· != ':'))) := by
  have hdrop : (key ++ ':' :: rest).dropWhile (· != ':') = ':' :: rest := by
    have happend := List.takeWhile_append_dropWhile (p := (· != ':')) (l := key ++ ':' :: rest)
    rw [takeWhile_append_colon hkey] at happend
    exact List.append_cancel_left happend
  rw [clause?, if_pos (by simp), takeWhile_append_colon hkey, hdrop, List.tail_cons]

theorem clause?_cons_of_isBlank {c : Char} (hc : Text.isBlank c = true) (line : List Char) :
    clause? (c :: line) = clause? line := by
  have hne := isBlank_ne_colon hc
  by_cases h : ':' ∈ line
  · obtain ⟨key, rest, hkey, rfl⟩ := exists_key h
    rw [← List.cons_append, clause?_append_colon (by simp [hne, hkey]), clause?_append_colon hkey,
      Text.trim_cons_of_isBlank hc]
  · rw [clause?_of_notMem (by simp [hne, h]), clause?_of_notMem h]

theorem clause?_append_of_isBlank {c : Char} (hc : Text.isBlank c = true) (line : List Char) :
    clause? (line ++ [c]) = clause? line := by
  have hne := isBlank_ne_colon hc
  by_cases h : ':' ∈ line
  · obtain ⟨key, rest, hkey, rfl⟩ := exists_key h
    rw [List.append_assoc, List.cons_append, clause?_append_colon hkey, clause?_append_colon hkey]
    by_cases hrest : ':' ∈ rest
    · obtain ⟨value, back, hvalue, rfl⟩ := exists_key hrest
      rw [List.append_assoc, List.cons_append, takeWhile_append_colon hvalue,
        takeWhile_append_colon hvalue]
    · rw [takeWhile_of_notMem hrest, takeWhile_of_notMem (by simp [hne, hrest]),
        Text.trim_append_of_isBlank hc]
  · rw [clause?_of_notMem (by simp [hne, h]), clause?_of_notMem h]

theorem clause?_dropReturn (line : List Char) : clause? (Text.dropReturn line) = clause? line := by
  unfold Text.dropReturn
  split_ifs with hreturn
  · obtain ⟨front, rfl⟩ := List.getLast?_eq_some_iff.1 hreturn
    rw [List.dropLast_concat, clause?_append_of_isBlank (by decide)]
  · rfl

/-- The trimmed body of a block has the clauses of its lines. -/
theorem filterMap_clause? (body : List Char) :
    (Text.splitBy (· == '\n') (Text.trim body)).filterMap clause? =
      (Text.lines body).filterMap clause? := by
  have hnil : clause? [] = none := clause?_of_notMem (by simp)
  rw [Text.filterMap_lines hnil clause?_dropReturn]
  refine @Text.read_trim _ (fun s ↦ (Text.splitBy (· == '\n') s).filterMap clause?) ?_ ?_ body
  · intro c s hc
    rw [Text.splitBy]
    split_ifs with hline
    · rw [List.filterMap_cons_none hnil]
    · cases hsplit : Text.splitBy (· == '\n') s with
      | nil => exact absurd hsplit (Text.splitBy_ne_nil _ s)
      | cons piece pieces =>
        simp only [List.filterMap_cons, clause?_cons_of_isBlank hc]
  · intro c s hc
    by_cases hline : c = '\n'
    · rw [Text.splitBy_append_cons (by simpa using hline), List.filterMap_append]
      simp [Text.splitBy, hnil]
    · obtain ⟨front, last, hsplit, hconcat⟩ :=
        @Text.exists_splitBy_concat (· == '\n') _ (by simpa using hline) s
      simp only [hsplit, hconcat, List.filterMap_append, List.filterMap_cons,
        clause?_append_of_isBlank hc]

namespace Recording

theorem readLine_eq (r : Recording) (line : List Char) : r.readLine line =
    match clause? line with
    | some (key, value) => r.setOption key value
    | none => r := by
  by_cases h : ':' ∈ line
  · obtain ⟨key, rest, hkey, rfl⟩ := exists_key h
    have hall : ∀ c ∈ key, (c == ':') = false := by
      intro c hc
      rw [beq_eq_false_iff_ne]
      rintro rfl
      exact hkey hc
    have hfirst := Text.getElem?_zero_splitBy (· == ':') rest
    rw [readLine, clause?_append_colon hkey, Text.splitBy_append_cons (by simp),
      Text.splitBy_of_forall_not hall]
    cases hsplit : Text.splitBy (· == ':') rest with
    | nil => exact absurd hsplit (Text.splitBy_ne_nil _ rest)
    | cons value others =>
      obtain rfl : value = rest.takeWhile (· != ':') := by simpa [hsplit, bne] using hfirst
      rfl
  · have hall : ∀ c ∈ line, (c == ':') = false := by
      intro c hc
      rw [beq_eq_false_iff_ne]
      rintro rfl
      exact h hc
    rw [readLine, clause?_of_notMem h, Text.splitBy_of_forall_not hall]
    rfl

theorem setOption_of_mem {option : PlayerOption} {key : List Char} (h : key ∈ option.names)
    (value? : PlayerOption → Option (List Char)) (value : List Char) :
    (ofValues value?).setOption key value =
      ofValues (Function.update value? option (some value)) := by
  cases option with
  | castId =>
    obtain rfl | rfl : key = "cast-id".toList ∨ key = "castId".toList := by
      simpa [PlayerOption.names] using h
    · rfl
    · rfl
  | theme =>
    obtain rfl : key = "theme".toList := by simpa [PlayerOption.names] using h
    rfl
  | speed =>
    obtain rfl : key = "speed".toList := by simpa [PlayerOption.names] using h
    rfl
  | autoPlay =>
    obtain rfl | rfl : key = "autoPlay".toList ∨ key = "auto-play".toList := by
      simpa [PlayerOption.names] using h
    · rfl
    · rfl
  | repeats =>
    obtain rfl : key = "loop".toList := by simpa [PlayerOption.names] using h
    rfl
  | cols =>
    obtain rfl : key = "cols".toList := by simpa [PlayerOption.names] using h
    rfl
  | rows =>
    obtain rfl : key = "rows".toList := by simpa [PlayerOption.names] using h
    rfl

/-- An option that a line names is set, and nothing else is. -/
theorem setOption_eq (value? : PlayerOption → Option (List Char)) (key value : List Char) :
    (ofValues value?).setOption key value =
      match PlayerOption.ofName? key with
      | some option => ofValues (Function.update value? option (some value))
      | none => ofValues value? := by
  cases hoption : PlayerOption.ofName? key with
  | some option =>
    have hname := List.find?_some hoption
    exact setOption_of_mem (List.contains_iff_mem.1 hname) value? value
  | none =>
    have hnone := List.find?_eq_none.1 hoption
    simp only [PlayerOption.all, PlayerOption.names, List.forall_mem_cons, List.contains_cons,
      List.contains_nil, Bool.or_false, Bool.not_eq_true] at hnone
    obtain ⟨hcast, htheme, hspeed, hauto, hloop, hcols, hrows, -⟩ := hnone
    simp only [setOption, hcast, htheme, hspeed, hauto, hloop, hcols, hrows, Bool.false_eq_true,
      ↓reduceIte]

/-- After a line, an option has the value that the line sets it to, or else the one that it had. -/
theorem readLine_ofValues (value? : PlayerOption → Option (List Char)) (line : List Char) :
    (ofValues value?).readLine line =
      ofValues fun option ↦ option.value? line <|> value? option := by
  rw [readLine_eq]
  cases hclause : clause? line with
  | none => simp [PlayerOption.value?, hclause]
  | some clause =>
    obtain ⟨key, value⟩ := clause
    dsimp only
    rw [setOption_eq]
    cases hoption : PlayerOption.ofName? key with
    | none => simp [PlayerOption.value?, hclause, hoption]
    | some option =>
      dsimp only
      congr 1
      funext other
      by_cases heq : other = option
      · subst heq
        simp [PlayerOption.value?, hclause, hoption]
      · simp [PlayerOption.value?, hclause, hoption, heq, Ne.symm heq]

/-- The lines of a block, read in order, give each option the value that the last line sets it to
that sets it at all. -/
theorem foldl_readLine (lines : List (List Char)) :
    lines.foldl readLine {} = ofValues (·.lastValue? lines) := by
  induction lines using List.reverseRecOn with
  | nil => rfl
  | append_singleton lines line ih =>
    rw [List.foldl_concat, ih, readLine_ofValues]
    congr 1
    funext option
    cases hvalue : option.value? line with
    | none => simp [PlayerOption.lastValue?, hvalue]
    | some value => simp [PlayerOption.lastValue?, hvalue]

theorem lastValue?_eq (option : PlayerOption) (lines : List (List Char)) :
    option.lastValue? lines = (((lines.filterMap clause?).filterMap fun (key, value) ↦
      if PlayerOption.ofName? key = some option then some value else none)).getLast? := by
  rw [List.filterMap_filterMap]
  rfl

/-- The recording that a block names has the values that the last lines say that set them. -/
theorem ofBlock_eq (body : List Char) :
    ofBlock body = ofValues (·.lastValue? (Text.lines body)) := by
  rw [ofBlock, foldl_readLine]
  congr 1
  funext option
  rw [lastValue?_eq, lastValue?_eq, filterMap_clause?]

/-- The last value is read of the lines that set the option. -/
theorem lastValue?_filter (option : PlayerOption) (lines : List (List Char)) :
    option.lastValue? (lines.filter option.isSetBy) = option.lastValue? lines := by
  have hread : (fun line ↦ if option.isSetBy line then option.value? line else none) =
      option.value? := by
    funext line
    cases hvalue : option.value? line <;> simp [PlayerOption.isSetBy, hvalue]
  rw [PlayerOption.lastValue?, List.filterMap_filter, hread, PlayerOption.lastValue?]

theorem isSetBy_of_isIdle {line : List Char} (h : isIdle line = true) (option : PlayerOption) :
    option.isSetBy line = false := by
  by_cases hcolon : ':' ∈ line
  · have hblank : Text.isBlankText line = false :=
      Bool.eq_false_iff.2 fun hall ↦ isBlank_ne_colon (List.all_eq_true.1 hall _ hcolon) rfl
    have hname : PlayerOption.ofName? (Text.trim (line.takeWhile (· != ':'))) = none := by
      simpa [isIdle, hblank, hcolon] using h
    simp [PlayerOption.isSetBy, PlayerOption.value?, clause?, hcolon, hname]
  · simp [PlayerOption.isSetBy, PlayerOption.value?, clause?_of_notMem hcolon]

/-- The lines that are not idle hold all lines that set an option. -/
theorem filter_isSetBy (option : PlayerOption) (lines : List (List Char)) :
    (lines.filter (!isIdle ·)).filter option.isSetBy = lines.filter option.isSetBy := by
  rw [List.filter_filter]
  refine List.filter_congr fun line _ ↦ ?_
  cases hidle : isIdle line with
  | true => simp [isSetBy_of_isIdle hidle option]
  | false => simp

/-- Each option of the recording that a block names has the value in the last line of the block that
sets this option. So two blocks name the same recording if for each option the same lines set it, in
the same order, whatever their places among the other lines; and they do if their lines are the same
up to lines that are blank, have no colon, or have a key that is the name of no option. -/
theorem options_are_independent (body : List Char) :
    ofBlock body = ofValues (·.lastValue? (Text.lines body)) ∧
      (∀ other, (∀ option : PlayerOption, (Text.lines other).filter option.isSetBy =
          (Text.lines body).filter option.isSetBy) → ofBlock other = ofBlock body) ∧
        ∀ other, (Text.lines other).filter (!isIdle ·) = (Text.lines body).filter (!isIdle ·) →
          ofBlock other = ofBlock body := by
  have hsame (other : List Char) (hlines : ∀ option : PlayerOption,
      (Text.lines other).filter option.isSetBy = (Text.lines body).filter option.isSetBy) :
      ofBlock other = ofBlock body := by
    rw [ofBlock_eq, ofBlock_eq]
    congr 1
    funext option
    rw [← lastValue?_filter, hlines, lastValue?_filter]
  refine ⟨ofBlock_eq body, hsame, fun other hlines ↦ hsame other fun option ↦ ?_⟩
  rw [← filter_isSetBy, hlines, filter_isSetBy]

/-- Lines with both names of an option, a repeated option whose last value is no number, more than
one colon and other line ends, in another order, and with lines between them that set nothing. -/
theorem options_are_independent_of_reordered_lines :
    let body := "castId: a\r\nspeed: 2\r\ncast-id: b: c\r\nspeed: x".toList
    let other := "speed: 2\nspeed: x\ncastId: a\ncast-id: b: c".toList
    let longer := "\n castId\ncastId: a\nspeed: 2\nid: d\ncast-id: b: c\nspeed: x".toList
    ofBlock body = { castId := ['b'] } ∧ ofBlock other = ofBlock body ∧
      ofBlock longer = ofBlock body := by
  intro body other longer
  refine ⟨?_, (options_are_independent body).2.1 other ?_,
    (options_are_independent body).2.2 longer ?_⟩
  · exact (options_are_independent body).1.trans (by decide +kernel)
  · intro option
    cases option <;> decide +kernel
  · decide +kernel

end Recording

end Galley.Embed
