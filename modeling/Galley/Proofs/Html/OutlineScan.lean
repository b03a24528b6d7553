import Galley.Html.OutlineScan
import Galley.Proofs.Html.Outline

/-!
The scan for headings with a cursor. On every page, a turn takes what it needs from where there is
something to take, and moves the cursor on or ends the scan (`Scan.turn?_of_isAt`). So the scan ends
(`Scan.exists_finished`); it finds the headings of the outline, with names that are not empty and
differ from each other, in places one behind the other (`outline_by_scan`).
-/

set_option autoImplicit false
set_option relaxedAutoImplicit false

namespace Galley.Html

open Metadata (byteCount)

/-! ### Offsets -/

@[simp] theorem byteCount_nil : byteCount [] = 0 := rfl

@[simp] theorem byteCount_cons (c : Char) (s : List Char) :
    byteCount (c :: s) = c.utf8Size + byteCount s := rfl

@[simp] theorem byteCount_append (s t : List Char) :
    byteCount (s ++ t) = byteCount s + byteCount t := by
  induction s with
  | nil => simp
  | cons c s ih => simp [ih, Nat.add_assoc]

/-- A text can be taken in two where one of its characters ends, and only there. -/
theorem splitAtByte?_eq_some_iff {s front back : List Char} {n : Nat} :
    splitAtByte? s n = some (front, back) ↔ s = front ++ back ∧ byteCount front = n := by
  induction s generalizing front n with
  | nil =>
    cases n with
    | zero => cases front <;> simp [splitAtByte?, eq_comm]
    | succ n => cases front <;> simp [splitAtByte?]
  | cons c s ih =>
    have hpos := c.utf8Size_pos
    cases n with
    | zero =>
      cases front with
      | nil => simp [splitAtByte?]
      | cons d front =>
        have hpos' := d.utf8Size_pos
        simp only [splitAtByte?, byteCount_cons, Option.some.injEq, Prod.mk.injEq]
        refine iff_of_false nofun fun h ↦ ?_
        omega
    | succ n =>
      rw [splitAtByte?]
      split_ifs with hlt
      · refine iff_of_false nofun fun ⟨hs, hn⟩ ↦ ?_
        cases front with
        | nil => cases hn
        | cons d front =>
          obtain ⟨rfl, -⟩ := List.cons.inj hs
          rw [byteCount_cons] at hn
          omega
      · cases front with
        | nil => simp
        | cons d front =>
          have hmap : (splitAtByte? s (n + 1 - c.utf8Size)).map
              (fun parts ↦ (c :: parts.1, parts.2)) = some (d :: front, back) ↔
                c = d ∧ splitAtByte? s (n + 1 - c.utf8Size) = some (front, back) := by
            constructor
            · intro h
              obtain ⟨⟨front', back'⟩, hsplit, heq⟩ := Option.map_eq_some_iff.1 h
              obtain ⟨⟨rfl, rfl⟩, rfl⟩ : (c = d ∧ front' = front) ∧ back' = back := by
                simpa using heq
              exact ⟨rfl, hsplit⟩
            · rintro ⟨rfl, hsplit⟩
              rw [hsplit, Option.map_some]
          rw [hmap, ih, byteCount_cons, List.cons_append, List.cons.injEq, and_assoc]
          refine and_congr_right fun heq ↦ and_congr_right fun _ ↦ ?_
          subst heq
          omega

theorem fromByte?_append (front rest : List Char) :
    fromByte? (front ++ rest) (byteCount front) = some rest := by
  rw [fromByte?, splitAtByte?_eq_some_iff.2 ⟨rfl, rfl⟩, Option.map_some]

theorem upToByte?_append (front rest : List Char) :
    upToByte? (front ++ rest) (byteCount front) = some front := by
  rw [upToByte?, splitAtByte?_eq_some_iff.2 ⟨rfl, rfl⟩, Option.map_some]

theorem slice?_append (front part rest : List Char) :
    slice? (front ++ (part ++ rest)) (byteCount front) (byteCount front + byteCount part) =
      some part := by
  rw [slice?, if_neg (by omega), fromByte?_append, Option.bind_some, Nat.add_sub_cancel_left,
    upToByte?_append]

/-! ### Lower case -/

theorem utf8Size_toLower (c : Char) : c.toLower.utf8Size = c.utf8Size := by
  have hsize {d : Char} (hd : d.toNat < 128) : d.utf8Size = 1 :=
    Char.utf8Size_eq_one_iff.2 (UInt32.le_iff_toNat_le.2 (Nat.le_of_lt_succ hd))
  rcases eq_or_capital_of_toLower_eq (rfl : c.toLower = c.toLower) with heq | ⟨-, hle, hadd⟩
  · rw [← heq]
  · rw [hsize (by omega), hsize (by omega)]

/-- Offsets in a copy in lower case are those in the text itself. -/
@[simp] theorem byteCount_asciiLower (s : List Char) :
    byteCount (Text.asciiLower s) = byteCount s := by
  induction s with
  | nil => rfl
  | cons c s ih =>
    rw [byteCount_cons, ← ih, ← utf8Size_toLower]
    rfl

theorem byteCount_headingClose (level : Nat) : byteCount (headingClose level) = 5 := by
  unfold headingClose
  split_ifs <;> rfl

/-! ### End tags -/

/-- The end tag of a heading stands at the front of a text. -/
def StartsWithClose (level : Nat) (s : List Char) : Prop :=
  ∃ close rest, s = close ++ rest ∧ Text.asciiLower close = headingClose level

theorem startsWithClose_iff {level : Nat} {s : List Char} :
    StartsWithClose level s ↔ Text.asciiLower (s.take 5) = headingClose level := by
  constructor
  · rintro ⟨close, rest, rfl, hclose⟩
    have hlength : close.length = 5 := by
      have hlower := congrArg List.length hclose
      rwa [Text.asciiLower, List.length_map] at hlower
    rwa [List.take_left' hlength]
  · exact fun h ↦ ⟨s.take 5, s.drop 5, (List.take_append_drop 5 s).symm, h⟩

theorem startsWithClose_iff_prefix {level : Nat} {s : List Char} :
    StartsWithClose level s ↔ headingClose level <+: Text.asciiLower s := by
  constructor
  · rintro ⟨close, rest, rfl, hclose⟩
    exact ⟨Text.asciiLower rest, by rw [← hclose]; exact List.map_append.symm⟩
  · rintro ⟨rest, hrest⟩
    obtain ⟨close, back, hs, hclose, -⟩ := List.map_eq_append_iff.1 hrest.symm
    exact ⟨close, back, hs, hclose⟩

/-- An end tag does not go beyond the end of its line. -/
theorem isSingleLine_of_asciiLower_eq {level : Nat} {close : List Char}
    (h : Text.asciiLower close = headingClose level) : IsSingleLine close := by
  intro c hc
  have hmem : c.toLower ∈ headingClose level := h ▸ List.mem_map_of_mem hc
  have hlower : ∀ d ∈ headingClose level, isLineEnd d = false := by
    unfold headingClose
    split_ifs <;> simp [isLineEnd]
  rcases eq_or_capital_of_toLower_eq (rfl : c.toLower = c.toLower) with heq | ⟨hge, hle, -⟩
  · rw [heq]
    exact hlower _ hmem
  · have hne {d : Char} (hd : d.toNat < 65) : c ≠ d := by
      rintro rfl
      exact absurd hge (not_le.2 hd)
    have hfeed : c ≠ '\n' := hne (by decide)
    have hreturn : c ≠ '\r' := hne (by decide)
    have hother {n : Nat} (hn : 90 < n) : c.toNat ≠ n := by omega
    simp [isLineEnd, hfeed, hreturn, hother]

/-- An end tag stands at the front of a text if and only if it does so on the first line. -/
theorem startsWithClose_takeWhile {level : Nat} {s : List Char} :
    StartsWithClose level (s.takeWhile (!isLineEnd ·)) ↔ StartsWithClose level s := by
  constructor
  · rintro ⟨close, rest, hs, hclose⟩
    have hsplit := List.takeWhile_append_dropWhile (p := (!isLineEnd ·)) (l := s)
    exact ⟨close, rest ++ s.dropWhile (!isLineEnd ·), by
      rw [← List.append_assoc, ← hs, hsplit], hclose⟩
  · rintro ⟨close, rest, rfl, hclose⟩
    have hline := isSingleLine_of_asciiLower_eq hclose
    exact ⟨close, rest.takeWhile (!isLineEnd ·),
      List.takeWhile_append_of_pos fun c hc ↦ by rw [hline c hc]; rfl, hclose⟩

/-- The content of a heading is as long as the search in the line in lower case says. -/
theorem findBytes?_line (level : Nat) (s : List Char) :
    findBytes? (headingClose level) (Text.asciiLower (s.takeWhile (!isLineEnd ·))) =
      (headingInner? level s).map byteCount := by
  induction s with
  | nil => rfl
  | cons c rest ih =>
    cases hline : isLineEnd c with
    | true =>
      rw [List.takeWhile_cons_of_neg (by simp [hline]), headingInner?, if_pos hline]
      rfl
    | false =>
      have htake : (c :: rest).takeWhile (!isLineEnd ·) = c :: rest.takeWhile (!isLineEnd ·) :=
        List.takeWhile_cons_of_pos (by simp [hline])
      have hclose := @startsWithClose_takeWhile level (c :: rest)
      rw [htake, startsWithClose_iff_prefix, startsWithClose_iff] at hclose
      rw [htake, headingInner?, if_neg (by simp [hline])]
      change findBytes? _ (c.toLower :: Text.asciiLower _) = _
      simp only [findBytes?, List.isPrefixOf_iff_prefix, ih, utf8Size_toLower]
      change headingClose level <+: c.toLower :: Text.asciiLower _ ↔ _ at hclose
      split_ifs with hfound hinner hinner
      · rfl
      · exact absurd (hclose.1 hfound) hinner
      · exact absurd (hclose.2 hinner) hfound
      · rw [Option.map_map, Option.map_map]
        rfl

/-- Behind the content of a heading stands its end tag. -/
theorem exists_of_headingInner? {level : Nat} {s inner : List Char}
    (h : headingInner? level s = some inner) : ∃ close rest, s = inner ++ (close ++ rest) ∧
      close.length = 5 ∧ Text.asciiLower close = headingClose level := by
  induction s generalizing inner with
  | nil => simp [headingInner?] at h
  | cons c rest ih =>
    rw [headingInner?] at h
    split_ifs at h with hline hclose
    · obtain rfl : [] = inner := Option.some.inj h
      obtain ⟨close, back, hs, hlower⟩ := startsWithClose_iff.2 hclose
      refine ⟨close, back, hs, ?_, hlower⟩
      have hlength := congrArg List.length hlower
      rwa [Text.asciiLower, List.length_map] at hlength
    · obtain ⟨inner', hinner', rfl⟩ := Option.map_eq_some_iff.1 h
      obtain ⟨close, back, rfl, hlength, hlower⟩ := ih hinner'
      exact ⟨close, back, rfl, hlength, hlower⟩

/-! ### Start tags -/

theorem exists_of_afterClose {s rest : List Char} (h : afterClose s = some rest) :
    ∃ front, s = front ++ rest := by
  induction s with
  | nil => simp [afterClose] at h
  | cons c s ih =>
    rw [afterClose] at h
    split_ifs at h
    · exact ⟨[c], by rw [← Option.some.inj h]; rfl⟩
    · obtain ⟨front, rfl⟩ := ih h
      exact ⟨c :: front, rfl⟩

theorem exists_of_firstId? {s id rest : List Char} (h : firstId? s = some (id, rest)) :
    ∃ front, s = front ++ rest := by
  have hblank := List.takeWhile_append_dropWhile (p := Text.isBlank) (l := s)
  unfold firstId? at h
  split at h
  · next c tail i d value hdrop =>
    have hvalue := List.takeWhile_append_dropWhile (p := (· != '"')) (l := value)
    split_ifs at h
    split at h
    · next mark after hafter =>
      obtain ⟨-, rfl⟩ : value.takeWhile (· != '"') = id ∧ after = rest := by simpa using h
      rw [hdrop, ← hvalue, hafter] at hblank
      exact ⟨(c :: tail).takeWhile Text.isBlank ++
        i :: d :: '=' :: '"' :: (value.takeWhile (· != '"') ++ [mark]), by simpa using hblank.symm⟩
    · cases h
  · cases h

/-- A start tag begins with a bracket, and the text goes on behind it. -/
theorem exists_of_headingOpen? {s : List Char} {opening : HeadingOpen}
    (h : headingOpen? s = some opening) : ∃ front, s = '<' :: front ++ opening.rest := by
  unfold headingOpen? at h
  split at h
  · next letter n rest =>
    split_ifs at h
    obtain ⟨level, -, hopening⟩ := Option.bind_eq_some_iff.1 h
    clear h
    dsimp only at hopening
    split at hopening
    · next found hfound =>
      obtain rfl := Option.some.inj hopening
      obtain ⟨⟨id, after⟩, hid, hafter⟩ := Option.bind_eq_some_iff.1 hfound
      obtain ⟨behind, hbehind, rfl⟩ := Option.map_eq_some_iff.1 hafter
      obtain ⟨front, rfl⟩ := exists_of_firstId? hid
      obtain ⟨middle, rfl⟩ := exists_of_afterClose hbehind
      exact ⟨letter :: n :: (front ++ middle), by simp⟩
    · obtain ⟨behind, hbehind, rfl⟩ := Option.map_eq_some_iff.1 hopening
      obtain ⟨front, rfl⟩ := exists_of_afterClose hbehind
      exact ⟨letter :: n :: front, by simp⟩
  · cases h

/-- Where no start tag follows, no heading does. -/
theorem headingsFrom_of_nextOpening?_none {s : List Char} (h : nextOpening? s = none)
    (slugger : Slugger) : headingsFrom 0 slugger s = [] := by
  induction s with
  | nil => rfl
  | cons c rest ih =>
    unfold nextOpening? at h
    split at h
    · cases h
    · next hopen => rw [headingsFrom_of_headingOpen? hopen, ih (by simpa using h)]

/-- Up to the next start tag there is no heading. -/
theorem exists_of_nextOpening? {s : List Char} {offset : Nat} {opening : HeadingOpen}
    (h : nextOpening? s = some (offset, opening)) : ∃ front ahead, s = front ++ ahead ∧
      byteCount front = offset ∧ headingOpen? ahead = some opening ∧
        ∀ slugger, headingsFrom 0 slugger s = headingsFrom 0 slugger ahead := by
  induction s generalizing offset with
  | nil => cases h
  | cons c rest ih =>
    unfold nextOpening? at h
    split at h
    · next found hopen =>
      obtain ⟨rfl, rfl⟩ : 0 = offset ∧ found = opening := by simpa using h
      exact ⟨[], c :: rest, rfl, rfl, hopen, fun _ ↦ rfl⟩
    · next hopen =>
      obtain ⟨⟨offset', opening'⟩, hnext, heq⟩ := Option.map_eq_some_iff.1 h
      obtain ⟨rfl, rfl⟩ : c.utf8Size + offset' = offset ∧ opening' = opening := by simpa using heq
      obtain ⟨front, ahead, rfl, rfl, hahead, hsame⟩ := ih hnext
      refine ⟨c :: front, ahead, rfl, rfl, hahead, fun slugger ↦ ?_⟩
      rw [headingsFrom_of_headingOpen? hopen, hsame]

/-! ### Names -/

theorem headingCandidate_ne_nil (id : Option (List Char)) (text : List Char) :
    headingCandidate id text ≠ [] := by
  unfold headingCandidate
  split
  · simp
  · exact headingId_ne_nil text

/-- The names of an outline are not empty, and differ from each other and from those handed out
before. -/
theorem headingsFrom_names (skip : Nat) (slugger : Slugger) (s : List Char) :
    ((headingsFrom skip slugger s).map (·.id)).Nodup ∧
      ∀ entry ∈ headingsFrom skip slugger s, entry.id ≠ [] ∧ entry.id ∉ slugger.used := by
  fun_induction headingsFrom skip slugger s with
  | case1 => simp
  | case2 _ _ _ _ ih => exact ih
  | case3 _ _ _ _ ih => exact ih
  | case4 _ _ _ _ _ _ ih => exact ih
  | case5 _ _ _ _ _ _ _ _ _ _ ih => exact ih
  | case6 slugger c rest opening hopen inner hinner skip text htext slugger' id hclaim ih =>
    obtain ⟨rfl, rfl⟩ : (slugger.claim (headingCandidate opening.id text)).1 = slugger' ∧
        slugger.nameFor (headingCandidate opening.id text) = id := by
      rw [hclaim]
      exact ⟨rfl, congrArg Prod.snd hclaim⟩
    simp only [Slugger.used_claim, List.mem_cons, not_or] at ih
    refine ⟨List.nodup_cons.2 ⟨fun hmem ↦ ?_, ih.1⟩, List.forall_mem_cons.2 ⟨⟨?_, ?_⟩, ?_⟩⟩
    · obtain ⟨entry, hentry, heq⟩ := List.mem_map.1 hmem
      exact (ih.2 entry hentry).2.1 heq
    · exact Slugger.nameFor_ne_nil (headingCandidate_ne_nil _ _)
    · exact slugger.nameFor_notMem _
    · exact fun entry hentry ↦ ⟨(ih.2 entry hentry).1, (ih.2 entry hentry).2.2⟩

/-! ### Turns -/

/-- An entry is of the heading that stands where it says: of its level, with its text, and between
its tags. -/
structure Located.StandsIn (html : List Char) (located : Located) : Prop where
  opening : ∃ ahead opening, fromByte? html located.start = some ahead ∧
    headingOpen? ahead = some opening ∧ opening.level = located.entry.level ∧
      fromByte? html located.contentStart = some opening.rest
  content : ∃ content, slice? html located.contentStart located.contentStop = some content ∧
    located.entry.text = headingText content
  close : ∃ close, slice? html located.contentStop located.stop = some close ∧
    Text.asciiLower close = headingClose located.entry.level
  nonempty : located.start < located.contentStart
  ordered : located.contentStart ≤ located.contentStop
  closed : located.contentStop < located.stop

namespace Scan

/-- A scan has come up to `rest`, and what it has found is what the outline starts with. -/
structure IsAt (html : List Char) (scan : Scan) (front rest : List Char) : Prop where
  split : html = front ++ rest
  cursor : scan.cursor = byteCount front
  outline : outline html = scan.found.map (·.entry) ++ headingsFrom 0 scan.slugger rest
  stands : ∀ located ∈ scan.found, located.StandsIn html ∧ located.stop ≤ scan.cursor
  apart : scan.found.Pairwise (·.stop ≤ ·.start)

section Turns

variable {html front before tag inner close after : List Char} {scan : Scan} {opening : HeadingOpen}

/-- A scan moves past what holds nothing that is listed. -/
theorem IsAt.move {passed rest : List Char} {cursor : Nat} (h : scan.IsAt html front (passed ++ rest))
    (hcursor : cursor = byteCount (front ++ passed))
    (hsame : headingsFrom 0 scan.slugger (passed ++ rest) = headingsFrom 0 scan.slugger rest) :
    IsAt html { scan with cursor := cursor } (front ++ passed) rest where
  split := by rw [h.split, List.append_assoc]
  cursor := hcursor
  outline := by rw [h.outline, hsame]
  stands located hlocated := by
    refine (h.stands located hlocated).imp_right fun hle ↦ hle.trans ?_
    rw [hcursor, h.cursor, byteCount_append]
    exact Nat.le_add_right _ _
  apart := h.apart

/-- A scan moves past a heading that stands beyond the cursor, and lists it. -/
theorem IsAt.list {passed rest : List Char} {located : Located} {slugger : Slugger}
    (h : scan.IsAt html front (passed ++ rest)) (hstands : located.StandsIn html)
    (hahead : scan.cursor ≤ located.start) (hstop : located.stop = byteCount (front ++ passed))
    (hfound : headingsFrom 0 scan.slugger (passed ++ rest) =
      located.entry :: headingsFrom 0 slugger rest) :
    IsAt html ⟨located.stop, slugger, scan.found ++ [located]⟩ (front ++ passed) rest where
  split := by rw [h.split, List.append_assoc]
  cursor := hstop
  outline := by
    rw [h.outline, hfound, List.map_append, List.append_assoc]
    rfl
  stands := by
    refine List.forall_mem_append.2 ⟨fun other hother ↦ ?_,
      List.forall_mem_singleton.2 ⟨hstands, le_rfl⟩⟩
    refine (h.stands other hother).imp_right fun hle ↦ hle.trans ?_
    rw [hstop, h.cursor, byteCount_append]
    exact Nat.le_add_right _ _
  apart := by
    refine List.pairwise_append.2 ⟨h.apart, List.pairwise_singleton _ _, fun earlier hearlier ↦ ?_⟩
    exact List.forall_mem_singleton.2 ((h.stands earlier hearlier).2.trans hahead)

/-- A heading stands where its tags and its content do. -/
theorem Located.StandsIn.of_split {id text : List Char} {level : Nat}
    (hsplit : html = front ++ ('<' :: tag ++ (inner ++ (close ++ after))))
    (hopen : headingOpen? ('<' :: tag ++ (inner ++ (close ++ after))) = some opening)
    (hrest : opening.rest = inner ++ (close ++ after)) (hlevel : opening.level = level)
    (hclose : Text.asciiLower close = headingClose level) (htext : text = headingText inner) :
    Located.StandsIn html ⟨⟨id, text, level⟩, byteCount front, byteCount (front ++ '<' :: tag),
      byteCount (front ++ '<' :: tag) + byteCount inner,
      byteCount (front ++ '<' :: tag) + byteCount inner + byteCount close⟩ where
  opening := by
    refine ⟨_, opening, by rw [hsplit, fromByte?_append], hopen, hlevel, ?_⟩
    rw [hsplit, ← List.append_assoc, fromByte?_append, hrest]
  content := by
    refine ⟨inner, ?_, htext⟩
    rw [hsplit, ← List.append_assoc, slice?_append]
  close := by
    refine ⟨close, ?_, hclose⟩
    have hsame : html = (front ++ '<' :: tag ++ inner) ++ (close ++ after) := by simp [hsplit]
    rw [hsame, ← byteCount_append, slice?_append]
  nonempty := by
    have hpos := Char.utf8Size_pos '<'
    simp only [byteCount_append, byteCount_cons]
    omega
  ordered := Nat.le_add_right _ _
  closed := by
    have hbytes : byteCount close = 5 := by
      rw [← byteCount_asciiLower, hclose, byteCount_headingClose]
    dsimp only
    omega

/-- The scan moves on behind a heading, and finds it if it has a text. -/
theorem IsAt.pass
    (h : scan.IsAt html front (before ++ ('<' :: tag ++ (inner ++ (close ++ after)))))
    (hbefore : ∀ slugger,
      headingsFrom 0 slugger (before ++ ('<' :: tag ++ (inner ++ (close ++ after)))) =
        headingsFrom 0 slugger ('<' :: tag ++ (inner ++ (close ++ after))))
    (hopen : headingOpen? ('<' :: tag ++ (inner ++ (close ++ after))) = some opening)
    (hrest : opening.rest = inner ++ (close ++ after))
    (hinner : headingInner? opening.level (inner ++ (close ++ after)) = some inner)
    (hlength : close.length = 5) (hclose : Text.asciiLower close = headingClose opening.level) :
    IsAt html (scan.pass opening inner (byteCount (front ++ before))
        (byteCount (front ++ before ++ '<' :: tag))
        (byteCount (front ++ before ++ '<' :: tag) + byteCount inner))
      (front ++ (before ++ '<' :: tag ++ inner ++ close)) after := by
  have hsplit : html = front ++ before ++ ('<' :: tag ++ (inner ++ (close ++ after))) := by
    simp [h.split]
  have hstands := @Located.StandsIn.of_split _ _ _ _ _ _ opening
    (scan.slugger.nameFor (headingCandidate opening.id (headingText inner))) _ _ hsplit hopen hrest
    rfl hclose rfl
  have hbytes : byteCount (headingClose opening.level) = byteCount close := by
    rw [← hclose, byteCount_asciiLower]
  have hstop : byteCount (front ++ before ++ '<' :: tag) + byteCount inner + byteCount close =
      byteCount (front ++ (before ++ '<' :: tag ++ inner ++ close)) := by
    simp only [byteCount_append, Nat.add_assoc]
  have hahead : scan.cursor ≤ byteCount (front ++ before) := by
    rw [h.cursor, byteCount_append]
    exact Nat.le_add_right _ _
  have hpassed : before ++ ('<' :: tag ++ (inner ++ (close ++ after))) =
      before ++ '<' :: tag ++ inner ++ close ++ after := by simp
  obtain ⟨level, id, rest⟩ := opening
  obtain rfl : rest = inner ++ (close ++ after) := hrest
  have hheading := hbefore scan.slugger
  rw [headingsFrom_heading tag hlength hopen hinner scan.slugger, hpassed] at hheading
  rw [hpassed] at h
  rw [Scan.pass, hbytes]
  by_cases hempty : headingText inner = []
  · rw [if_pos hempty] at hheading
    simp only [List.isEmpty_iff.2 hempty, ↓reduceIte]
    exact h.move hstop hheading
  · rw [if_neg hempty] at hheading
    have hsome : (headingText inner).isEmpty = false := by simpa using hempty
    simp only [hsome, Bool.false_eq_true, ↓reduceIte, Slugger.claim]
    exact h.list hstands hahead hstop hheading

/-- At a start tag, a turn takes what it needs from where there is something to take. -/
theorem turn?_of_nextOpening? (h : scan.IsAt html front (before ++ ('<' :: tag ++ opening.rest)))
    (hnext : nextOpening? (before ++ ('<' :: tag ++ opening.rest)) =
      some (byteCount before, opening)) :
    scan.turn? html = some (.next ((headingInner? opening.level opening.rest).elim
      { scan with cursor := scan.cursor + byteCount before + 1 } fun inner ↦
        scan.pass opening inner (byteCount (front ++ before))
          (byteCount (front ++ before ++ '<' :: tag))
          (byteCount (front ++ before ++ '<' :: tag) + byteCount inner))) := by
  have hahead : fromByte? html scan.cursor = some (before ++ ('<' :: tag ++ opening.rest)) := by
    rw [h.split, h.cursor, fromByte?_append]
  have hsplit : html = front ++ before ++ '<' :: tag ++ opening.rest := by simp [h.split]
  have hstart : byteCount html - byteCount opening.rest =
      byteCount (front ++ before ++ '<' :: tag) := by
    rw [hsplit, byteCount_append _ opening.rest, Nat.add_sub_cancel]
  have hrest : fromByte? html (byteCount (front ++ before ++ '<' :: tag)) = some opening.rest := by
    rw [hsplit, fromByte?_append]
  have hline : upToByte? opening.rest (lineBytes opening.rest) =
      some (opening.rest.takeWhile (!isLineEnd ·)) := by
    have htake := upToByte?_append (opening.rest.takeWhile (!isLineEnd ·))
      (opening.rest.dropWhile (!isLineEnd ·))
    rwa [List.takeWhile_append_dropWhile] at htake
  have hfind := findBytes?_line opening.level opening.rest
  cases hinner : headingInner? opening.level opening.rest with
  | none =>
    rw [hinner, Option.map_none] at hfind
    simp only [turn?, hahead, hnext, hstart, hrest, hline, hfind, Option.bind_eq_bind,
      Option.bind_some, Option.pure_def, Option.elim_none]
  | some inner =>
    rw [hinner, Option.map_some] at hfind
    obtain ⟨close, after, hclosed, -⟩ := exists_of_headingInner? hinner
    have hslice : slice? html (byteCount (front ++ before ++ '<' :: tag))
        (byteCount (front ++ before ++ '<' :: tag) + byteCount inner) = some inner := by
      rw [hsplit, hclosed, slice?_append]
    have hstart' : scan.cursor + byteCount before = byteCount (front ++ before) := by
      rw [h.cursor, byteCount_append]
    simp only [turn?, hahead, hnext, hstart, hrest, hline, hfind, hslice, hstart',
      Option.bind_eq_bind, Option.bind_some, Option.pure_def, Option.elim_some]

/-- A scan is finished, and has found the outline, or else a turn moves it on. -/
theorem turn?_of_isAt {rest : List Char} (h : scan.IsAt html front rest) :
    scan.turn? html = some .finished ∧ headingsFrom 0 scan.slugger rest = [] ∨
      ∃ next front' rest', scan.turn? html = some (.next next) ∧ scan.cursor < next.cursor ∧
        rest'.length < rest.length ∧ next.IsAt html front' rest' := by
  cases hnext : nextOpening? rest with
  | none =>
    refine .inl ⟨?_, headingsFrom_of_nextOpening?_none hnext _⟩
    have hahead : fromByte? html scan.cursor = some rest := by
      rw [h.split, h.cursor, fromByte?_append]
    simp [turn?, hahead, hnext]
  | some found =>
    obtain ⟨offset, opening⟩ := found
    obtain ⟨before, ahead, rfl, rfl, hopen, hbefore⟩ := exists_of_nextOpening? hnext
    obtain ⟨tag, rfl⟩ := exists_of_headingOpen? hopen
    have hturn := turn?_of_nextOpening? h hnext
    cases hinner : headingInner? opening.level opening.rest with
    | none =>
      rw [hinner, Option.elim_none] at hturn
      have hnone : headingsFrom 0 scan.slugger ('<' :: tag ++ opening.rest) =
          headingsFrom 0 scan.slugger (tag ++ opening.rest) := by
        rw [List.cons_append] at hopen ⊢
        simp [headingsFrom, hopen, hinner]
      have hpassed : before ++ ('<' :: tag ++ opening.rest) =
          before ++ ['<'] ++ (tag ++ opening.rest) := by simp
      have hcursor : scan.cursor + byteCount before + 1 = byteCount (front ++ (before ++ ['<'])) := by
        rw [h.cursor, byteCount_append, byteCount_append, Nat.add_assoc]
        rfl
      refine .inr ⟨_, _, tag ++ opening.rest, hturn, ?_, ?_, IsAt.move (hpassed ▸ h) hcursor
        (hpassed ▸ (hbefore _).trans hnone)⟩
      · dsimp only
        omega
      · simp only [List.length_append, List.length_cons]
        omega
    | some inner =>
      rw [hinner, Option.elim_some] at hturn
      obtain ⟨close, after, hclosed, hlength, hclose⟩ := exists_of_headingInner? hinner
      have hpass := h
      rw [hclosed] at hpass hbefore hopen hinner
      have hpass := hpass.pass hbefore hopen hclosed hinner hlength hclose
      refine .inr ⟨_, _, after, hturn, ?_, ?_, hpass⟩
      · rw [hpass.cursor, h.cursor]
        have hpos := Char.utf8Size_pos '<'
        simp only [byteCount_append, byteCount_cons]
        omega
      · rw [hclosed]
        simp only [List.length_append, List.length_cons]
        omega

/-! ### Runs -/

/-- A turn moves the cursor on, and not beyond the end. -/
def Moves (html : List Char) (scan next : Scan) : Prop :=
  scan.turn? html = some (.next next) ∧ scan.cursor < next.cursor ∧ next.cursor ≤ byteCount html

theorem IsAt.cursor_le {rest : List Char} (h : scan.IsAt html front rest) :
    scan.cursor ≤ byteCount html := by
  rw [h.split, h.cursor, byteCount_append]
  exact Nat.le_add_right _ _

/-- Turn by turn, a scan comes to its end, and then it has found the outline. -/
theorem exists_finished {rest : List Char} (h : scan.IsAt html front rest) : ∃ last front' rest',
    Relation.ReflTransGen (Moves html) scan last ∧ last.turn? html = some .finished ∧
      last.IsAt html front' rest' ∧ headingsFrom 0 last.slugger rest' = [] := by
  -- by what is left of the text, which gets shorter with every turn that does not finish
  induction hlength : rest.length using Nat.strong_induction_on generalizing scan front rest with
  | _ n ih =>
    rcases turn?_of_isAt h with ⟨hfinished, hnone⟩ | ⟨next, front', rest', hturn, hlt, hless, hnext⟩
    · exact ⟨scan, front, rest, .refl, hfinished, h, hnone⟩
    · obtain ⟨last, front'', rest'', hrun, hfinished, hlast⟩ :=
        ih rest'.length (hlength ▸ hless) hnext rfl
      exact ⟨last, front'', rest'', .head ⟨hturn, hlt, hnext.cursor_le⟩ hrun, hfinished, hlast⟩

end Turns

end Scan

/-- The scan of a page comes to its end, whatever the page is: no turn takes anything from beyond
the end or from within a character, and each moves the cursor on. The headings that it finds are
those of the outline. They stand where the scan says, one behind the other, and their names are not
empty and differ from each other. -/
theorem outline_by_scan (html : List Char) : ∃ last : Scan,
    Relation.ReflTransGen (Scan.Moves html) {} last ∧ last.turn? html = some .finished ∧
      last.found.map (·.entry) = outline html ∧
      (∀ located ∈ last.found, located.StandsIn html ∧ located.stop ≤ byteCount html) ∧
      last.found.Pairwise (·.stop ≤ ·.start) ∧
      ((outline html).map (·.id)).Nodup ∧ ∀ entry ∈ outline html, entry.id ≠ [] := by
  have hstart : Scan.IsAt html {} [] html := ⟨rfl, rfl, rfl, nofun, .nil⟩
  obtain ⟨last, front, rest, hrun, hfinished, hlast, hnone⟩ := Scan.exists_finished hstart
  have hnames := headingsFrom_names 0 .empty html
  refine ⟨last, hrun, hfinished, ?_, fun located hlocated ↦ ?_, hlast.apart, hnames.1,
    fun entry hentry ↦ (hnames.2 entry hentry).1⟩
  · rw [hlast.outline, hnone, List.append_nil]
  · exact (hlast.stands located hlocated).imp_right (·.trans hlast.cursor_le)

end Galley.Html
