import Galley.Html.Outline
import Galley.Proofs.Html.Token
import Galley.Proofs.Slug

/-!
The outline of written trees. The scan for headings goes through markup character by character; on
trees in which nothing but headings could be taken for one (`Markup.IsReadable`) it finds the
headings of the trees in their order (`headingsFrom_writeAll`), and names them as `Listing.entries`
says.
-/

set_option autoImplicit false
set_option relaxedAutoImplicit false

namespace Galley.Html

/-- A heading to be listed: the identifier that it carries, if it does, its text and its level. -/
structure Listing where
  id : Option (List Char)
  text : List Char
  level : Nat
deriving DecidableEq, Repr

namespace Listing

/-- The identifier that a heading asks for: its own, or one made from its text. -/
def wanted (listing : Listing) : List Char :=
  match listing.id with
  | some (c :: rest) => c :: rest
  | _ => headingId listing.text

/-- The entries for headings, and what comes after them. -/
def entriesThen (next : Slugger → List Heading) : Slugger → List Listing → List Heading
  | slugger, [] => next slugger
  | slugger, listing :: rest =>
    let (slugger, id) := slugger.claim listing.wanted
    ⟨id, listing.text, listing.level⟩ :: entriesThen next slugger rest

/-- The entries for headings by a slugger that may have handed out names before. -/
def entriesFrom (slugger : Slugger) (listings : List Listing) : List Heading :=
  entriesThen (fun _ => []) slugger listings

/-- The entries for headings. -/
def entries (listings : List Listing) : List Heading := entriesFrom .empty listings

theorem entriesThen_append (next : Slugger → List Heading) (slugger : Slugger)
    (listings others : List Listing) : entriesThen next slugger (listings ++ others) =
      entriesThen (fun slugger ↦ entriesThen next slugger others) slugger listings := by
  induction listings generalizing slugger with
  | nil => rfl
  | cons listing rest ih => exact congrArg (_ :: ·) (ih _)

theorem wanted_of_id {listing : Listing} {id : List Char} (hid : listing.id = some id)
    (hne : id ≠ []) : listing.wanted = id := by
  obtain ⟨c, rest, rfl⟩ := List.exists_cons_of_ne_nil hne
  rw [wanted, hid]

theorem entriesFrom_cons (slugger : Slugger) (listing : Listing) (rest : List Listing) :
    entriesFrom slugger (listing :: rest) =
      ⟨slugger.nameFor listing.wanted, listing.text, listing.level⟩ ::
        entriesFrom (slugger.claim listing.wanted).1 rest := rfl

theorem length_entriesFrom (slugger : Slugger) (listings : List Listing) :
    (entriesFrom slugger listings).length = listings.length := by
  induction listings generalizing slugger with
  | nil => rfl
  | cons listing rest ih => simp [entriesFrom_cons, ih]

/-- The entries for later headings take the names of the earlier ones into account. -/
theorem entriesFrom_append (slugger : Slugger) (listings others : List Listing) :
    entriesFrom slugger (listings ++ others) = entriesFrom slugger listings ++
      entriesFrom ⟨((entriesFrom slugger listings).map (·.id)).reverse ++ slugger.used⟩ others := by
  induction listings generalizing slugger with
  | nil => rfl
  | cons listing rest ih =>
    rw [List.cons_append, entriesFrom_cons, ih, entriesFrom_cons, List.cons_append, List.map_cons,
      List.reverse_cons, List.append_assoc, List.singleton_append, Slugger.used_claim]

/-- The entry for a heading has its text and its level; it has the identifier that the heading asks
for if and only if no entry before it has. -/
theorem getElem?_entries {listings : List Listing} {i : Nat} {listing : Listing}
    (hlisting : listings[i]? = some listing) : ∃ entry, (entries listings)[i]? = some entry ∧
      entry.text = listing.text ∧ entry.level = listing.level ∧
        (entry.id = listing.wanted ↔ ∀ j < i, ∀ earlier, (entries listings)[j]? = some earlier →
          earlier.id ≠ listing.wanted) := by
  obtain ⟨hi, rfl⟩ := List.getElem?_eq_some_iff.1 hlisting
  have hsplit : listings = listings.take i ++ listings[i] :: listings.drop (i + 1) := by simp
  generalize listings[i] = listing at hsplit ⊢
  have hfront : (listings.take i).length = i := by
    rw [List.length_take]
    omega
  generalize listings.take i = front at hsplit hfront
  have hentries := entriesFrom_append .empty front (listing :: listings.drop (i + 1))
  rw [← hsplit, entriesFrom_cons] at hentries
  have hlength : (entriesFrom .empty front).length = i := by rw [length_entriesFrom, hfront]
  have hearlier : ∀ j < i, (entries listings)[j]? = (entriesFrom .empty front)[j]? := by
    intro j hj
    rw [entries, hentries, List.getElem?_append_left (by omega)]
  let slugger : Slugger := ⟨((entriesFrom .empty front).map (·.id)).reverse ++ Slugger.empty.used⟩
  refine ⟨⟨slugger.nameFor listing.wanted, listing.text, listing.level⟩, ?_, rfl, rfl, ?_⟩
  · rw [entries, hentries, List.getElem?_append_right (by omega), hlength, Nat.sub_self]
    rfl
  · rw [Slugger.nameFor_eq_iff]
    simp only [slugger, Slugger.empty, List.append_nil, List.mem_reverse, List.mem_map, not_exists,
      not_and]
    constructor
    · intro hfree j hj earlier hearlier'
      rw [hearlier j hj] at hearlier'
      exact hfree earlier (List.mem_of_getElem? hearlier')
    · intro hfree earlier hmem
      obtain ⟨j, hj⟩ := List.mem_iff_getElem?.1 hmem
      have hlt : j < i := hlength ▸ (List.getElem?_eq_some_iff.1 hj).1
      exact hfree j hlt earlier ((hearlier j hlt).trans hj)

end Listing

/-- What an entry lists. -/
def Heading.listing (entry : Heading) : Listing := ⟨some entry.id, entry.text, entry.level⟩

/-- Headings with identifiers that differ from each other, and from the names handed out before,
keep them. -/
theorem Listing.map_entriesFrom {slugger : Slugger} {listings : List Listing}
    (hids : ∀ listing ∈ listings, listing.id = some listing.wanted)
    (hnodup : (listings.map Listing.wanted).Nodup)
    (hfree : ∀ listing ∈ listings, listing.wanted ∉ slugger.used) :
    (entriesFrom slugger listings).map Heading.listing = listings := by
  induction listings generalizing slugger with
  | nil => rfl
  | cons listing rest ih =>
    rw [List.map_cons, List.nodup_cons] at hnodup
    have hname := Slugger.nameFor_of_notMem (hfree listing (by simp))
    have hfree' : ∀ other ∈ rest, other.wanted ∉ (slugger.claim listing.wanted).1.used := by
      intro other hother
      rw [Slugger.used_claim, hname, List.mem_cons, not_or]
      exact ⟨fun heq ↦ hnodup.1 (heq ▸ List.mem_map_of_mem hother), hfree other (by simp [hother])⟩
    have hrest := ih (fun other hother ↦ hids other (by simp [hother])) hnodup.2 hfree'
    rw [entriesFrom_cons, List.map_cons, hrest, hname, Heading.listing, ← hids listing (by simp)]

namespace Listing

/-- Every heading that carries an identifier is listed with it. -/
def Agrees (listings : List Listing) (entries : List Heading) : Prop :=
  ∀ (i : Nat) (listing : Listing) (entry : Heading) (id : List Char), listings[i]? = some listing →
    entries[i]? = some entry → listing.id = some id → entry.id = id

/-- A heading that carries no identifier is listed with that of a later heading. -/
def Clashes (listings : List Listing) (entries : List Heading) : Prop :=
  ∃ (i j : Nat) (other listing : Listing) (entry : Heading), i < j ∧ listings[i]? = some other ∧
    other.id = none ∧ entries[i]? = some entry ∧ listings[j]? = some listing ∧
      listing.id = some entry.id

theorem length_entries (listings : List Listing) : (entries listings).length = listings.length :=
  length_entriesFrom .empty listings

/-- Distinct identifiers are kept unless one is given to an earlier heading that carries none. -/
theorem agrees_iff {listings : List Listing}
    (hwanted : ∀ listing ∈ listings, ∀ id, listing.id = some id → listing.wanted = id)
    (hnodup : (listings.filterMap (·.id)).Nodup) :
    Agrees listings (entries listings) ↔ ¬ Clashes listings (entries listings) := by
  constructor
  · rintro hagrees ⟨i, j, other, listing, entry, hlt, -, -, hentry, hlisting, hid⟩
    obtain ⟨later, hlater, -, -, hname⟩ := getElem?_entries hlisting
    have hsame := hagrees j listing later entry.id hlisting hlater hid
    rw [hwanted listing (List.mem_of_getElem? hlisting) _ hid] at hname
    exact hname.1 hsame i hlt entry hentry rfl
  · intro hclash i
    induction i using Nat.strong_induction_on with
    | _ i ih =>
      intro listing entry id hlisting hentry hid
      obtain ⟨entry', hentry', -, -, hname⟩ := getElem?_entries hlisting
      obtain rfl : entry' = entry := Option.some.inj (hentry'.symm.trans hentry)
      rw [hwanted listing (List.mem_of_getElem? hlisting) _ hid] at hname
      refine hname.2 fun j hlt earlier hearlier heq ↦ ?_
      obtain ⟨hj, -⟩ := List.getElem?_eq_some_iff.1 hearlier
      rw [length_entries] at hj
      have hother : listings[j]? = some listings[j] := List.getElem?_eq_getElem hj
      cases hcarried : listings[j].id with
      | none => exact hclash ⟨j, i, _, listing, earlier, hlt, hother, hcarried, hearlier, hlisting,
          heq ▸ hid⟩
      | some id' =>
        have hsame := ih j hlt _ earlier id' hother hearlier hcarried
        obtain ⟨hi, hget⟩ := List.getElem?_eq_some_iff.1 hlisting
        have hapart := List.pairwise_iff_getElem.1 (List.pairwise_filterMap.1 hnodup) j i hj hi hlt
        exact hapart id' hcarried id (hget ▸ hid) (hsame.symm.trans heq)

end Listing

/-! ### Passing over markup -/

theorem headingsFrom_skip (front rest : List Char) (slugger : Slugger) :
    headingsFrom front.length slugger (front ++ rest) = headingsFrom 0 slugger rest := by
  induction front with
  | nil => rfl
  | cons c front ih => simpa [headingsFrom] using ih

theorem headingsFrom_of_headingOpen? {c : Char} {rest : List Char}
    (h : headingOpen? (c :: rest) = none) (slugger : Slugger) :
    headingsFrom 0 slugger (c :: rest) = headingsFrom 0 slugger rest := by
  rw [headingsFrom, h]

theorem headingOpen?_of_ne {c : Char} (hc : c ≠ '<') (rest : List Char) :
    headingOpen? (c :: rest) = none := by
  unfold headingOpen?
  split
  · simp_all
  · rfl

theorem headingsFrom_text {front : List Char} (hfront : '<' ∉ front) (rest : List Char)
    (slugger : Slugger) :
    headingsFrom 0 slugger (front ++ rest) = headingsFrom 0 slugger rest := by
  induction front with
  | nil => rfl
  | cons c front ih =>
    rw [List.mem_cons, not_or] at hfront
    rw [List.cons_append, headingsFrom_of_headingOpen? (headingOpen?_of_ne (Ne.symm hfront.1) _),
      ih hfront.2]

/-- A tag that is not read as that of a heading is passed over. -/
theorem headingsFrom_tag {body : List Char} (hbody : (Token.tag body).IsClean)
    (hopen : ∀ rest, headingOpen? ('<' :: body ++ '>' :: rest) = none) (rest : List Char)
    (slugger : Slugger) :
    headingsFrom 0 slugger ('<' :: body ++ '>' :: rest) = headingsFrom 0 slugger rest := by
  have hclean : '<' ∉ body ++ ['>'] := by simp [hbody.1]
  have htext := headingsFrom_text hclean rest slugger
  rw [List.append_assoc, List.singleton_append] at htext
  have hnone := hopen rest
  rw [List.cons_append] at hnone ⊢
  rw [headingsFrom_of_headingOpen? hnone, htext]

/-- Tags that could be read as those of headings of the outline. -/
def mayList : List Char → Bool
  | [] => true
  | [h] => h == 'h' || h == 'H'
  | h :: n :: _ => (h == 'h' || h == 'H') && (outlineLevel? n).isSome

theorem headingOpen?_openTag {tag : List Char} (htag : mayList tag = false) (rest : List Char) :
    headingOpen? ('<' :: tag ++ rest) = none := by
  match tag, htag with
  | [h], htag =>
    have hh : ¬ (h = 'h' ∨ h = 'H') := by simpa [mayList] using htag
    cases rest with
    | nil => rfl
    | cons c rest => exact if_neg hh
  | h :: n :: tail, htag =>
    rw [List.cons_append, List.cons_append, List.cons_append, headingOpen?]
    split_ifs with hh
    · have hlevel : outlineLevel? n = none := by
        rcases hh with rfl | rfl <;> simpa [mayList] using htag
      rw [hlevel, Option.bind_none]
    · rfl

theorem headingOpen?_closeTag (tag rest : List Char) :
    headingOpen? ('<' :: ('/' :: tag) ++ rest) = none := by
  cases tag with
  | nil => cases rest <;> simp [headingOpen?]
  | cons c tail => simp [headingOpen?]

/-! ### Inside of headings -/

/-- A text on a single line. -/
def IsSingleLine (s : List Char) : Prop := ∀ c ∈ s, isLineEnd c = false

instance (s : List Char) : Decidable (IsSingleLine s) :=
  decidable_of_iff (s.all (!isLineEnd ·) = true) (by simp [IsSingleLine])

theorem IsSingleLine.append {s t : List Char} (hs : IsSingleLine s) (ht : IsSingleLine t) :
    IsSingleLine (s ++ t) :=
  List.forall_mem_append.2 ⟨hs, ht⟩

/-- A token on a single line that no heading of the outline ends with. -/
def Token.IsInner : Token → Prop
  | .text value => '<' ∉ value ∧ IsSingleLine value
  | .tag body => '<' ∉ body ∧ IsSingleLine body ∧
      ∀ level rest, Text.asciiLower (('<' :: body ++ '>' :: rest).take 5) ≠ headingClose level

/-- Only capital letters differ from what they are in lower case. -/
theorem eq_or_capital_of_toLower_eq {c d : Char} (h : c.toLower = d) :
    c = d ∨ 65 ≤ c.toNat ∧ c.toNat ≤ 90 ∧ d.toNat = c.toNat + 32 := by
  unfold Char.toLower at h
  split_ifs at h with hupper
  · have hge : 65 ≤ c.val.toNat := hupper.1
    have hle : c.val.toNat ≤ 90 := hupper.2
    have hadd : (c.val + ('a'.val - 'A'.val)).toNat = c.val.toNat + 32 := by
      rw [UInt32.toNat_add]
      change (c.val.toNat + 32) % 2 ^ 32 = _
      omega
    exact .inr ⟨hge, hle, h ▸ hadd⟩
  · exact .inl h

theorem eq_of_toLower_eq {c d : Char} (hd : d.toNat < 97) (h : c.toLower = d) : c = d := by
  rcases eq_or_capital_of_toLower_eq h with rfl | hcapital
  · rfl
  · omega

theorem headingInner?_cons {c : Char} {rest : List Char} {level : Nat} (hline : isLineEnd c = false)
    (hopen : Text.asciiLower ((c :: rest).take 5) ≠ headingClose level) :
    headingInner? level (c :: rest) = (headingInner? level rest).map (c :: ·) := by
  rw [headingInner?, if_neg (by simp [hline]), if_neg hopen]

theorem headingInner?_text {front : List Char} (hfront : '<' ∉ front) (hline : IsSingleLine front)
    (level : Nat) (rest : List Char) :
    headingInner? level (front ++ rest) = (headingInner? level rest).map (front ++ ·) := by
  induction front with
  | nil => simp
  | cons c front ih =>
    rw [List.mem_cons, not_or] at hfront
    have hopen : Text.asciiLower ((c :: (front ++ rest)).take 5) ≠ headingClose level := by
      intro heq
      have hhead : c.toLower = '<' := by
        simpa [Text.asciiLower, headingClose] using congrArg List.head? heq
      exact hfront.1 (eq_of_toLower_eq (by decide) hhead).symm
    rw [List.cons_append, headingInner?_cons (hline c (by simp)) hopen,
      ih hfront.2 fun d hd ↦ hline d (by simp [hd]), Option.map_map]
    rfl

theorem headingInner?_tag {body : List Char} (hbody : (Token.tag body).IsInner) (level : Nat)
    (rest : List Char) : headingInner? level ('<' :: body ++ '>' :: rest) =
      (headingInner? level rest).map (('<' :: body ++ ['>']) ++ ·) := by
  obtain ⟨hclean, hline, hclose⟩ := hbody
  have hline' : IsSingleLine (body ++ ['>']) := hline.append (by decide)
  have hclean' : '<' ∉ body ++ ['>'] := by simp [hclean]
  have htext := headingInner?_text hclean' hline' level rest
  rw [List.append_assoc, List.singleton_append] at htext
  rw [List.cons_append, headingInner?_cons rfl (by simpa using hclose level rest), htext,
    Option.map_map]
  rfl

theorem headingInner?_close (level : Nat) (rest : List Char) :
    headingInner? level (headingClose level ++ rest) = some [] := by
  have hlower : Text.asciiLower (headingClose level) = headingClose level := by
    unfold headingClose
    split_ifs <;> rfl
  have htake : (headingClose level ++ rest).take 5 = headingClose level := List.take_left' rfl
  obtain ⟨tail, htail⟩ : ∃ tail, headingClose level = '<' :: tail := ⟨_, rfl⟩
  rw [htail, List.cons_append] at htake
  rw [htail, List.cons_append, headingInner?, if_neg (by decide), htake, ← htail, if_pos hlower]

/-- The tokens of a heading are what stands between its tags. -/
theorem headingInner?_write {tokens : List Token} (h : ∀ token ∈ tokens, token.IsInner)
    (level : Nat) (rest : List Char) :
    headingInner? level (tokens.flatMap Token.write ++ (headingClose level ++ rest)) =
      some (tokens.flatMap Token.write) := by
  induction tokens with
  | nil => exact headingInner?_close level rest
  | cons token others ih =>
    have hothers := ih fun token htoken ↦ h token (by simp [htoken])
    have htoken := h token (by simp)
    rw [List.flatMap_cons, List.append_assoc]
    cases token with
    | text value =>
      rw [Token.write, headingInner?_text htoken.1 htoken.2, hothers, Option.map_some]
    | tag body =>
      have htag := headingInner?_tag htoken level
        (others.flatMap Token.write ++ (headingClose level ++ rest))
      rw [hothers, Option.map_some] at htag
      simpa [Token.write] using htag

/-! ### Trees -/

/-- What the outline passes over. -/
def Kind.IsQuiet : Kind → Prop
  | .element tag attrs => isTagName tag = true ∧ mayList tag = false ∧ attrs.IsClean
  | .raw _ => False
  | .root => True
  | .text _ => True

/-- A text, or the values of attributes, on a single line. -/
def Kind.IsSingleLine : Kind → Prop
  | .element _ attrs => attrs.All fun entry ↦ Html.IsSingleLine entry.2
  | .text value => Html.IsSingleLine value
  | .root => True
  | .raw _ => True

/-- What may stand in a heading. -/
def Markup.IsInline (tree : Markup) : Prop :=
  tree.kind.IsQuiet ∧ tree.kind.IsSingleLine ∧ tree.IsBare

theorem Kind.IsQuiet.isClean {kind : Kind} (h : kind.IsQuiet) : kind.IsClean := by
  cases kind with
  | element tag attrs => exact ⟨h.1, h.2.2⟩
  | raw markup => exact h
  | _ => trivial

theorem isLineEnd_of_isTagChar {c : Char} (hc : isTagChar c = true) : isLineEnd c = false := by
  by_contra hend
  have hcases : c = '\n' ∨ c = '\r' ∨ c = Char.ofNat 0x2028 ∨ c = Char.ofNat 0x2029 := by
    simp only [isLineEnd, Bool.not_eq_false, Bool.or_eq_true, beq_iff_eq] at hend
    rcases hend with ((rfl | rfl) | hnat) | hnat
    · exact .inl rfl
    · exact .inr (.inl rfl)
    · exact .inr (.inr (.inl (by rw [← hnat, Char.ofNat_toNat])))
    · exact .inr (.inr (.inr (by rw [← hnat, Char.ofNat_toNat])))
  rcases hcases with rfl | rfl | rfl | rfl <;>
    simp [isTagChar, Text.isAlnum, Text.isLetter, Text.isDigit] at hc

theorem isInner_openTag {tag : List Char} {attrs : Attributes} (htag : isTagName tag = true)
    (hattrs : attrs.IsClean) (hline : ∀ entry ∈ attrs.entries, IsSingleLine entry.2) :
    (Markup.openTag tag attrs).IsInner := by
  refine ⟨(openTag_isClean (isBracketFree_of_isTagName htag) hattrs.isBracketFree).1,
    forall_mem_openTag (fun c ↦ isLineEnd_of_isTagChar)
      (fun c hc ↦ isLineEnd_of_isTagChar (isTagChar_of_isTagName htag c hc))
      (hattrs.forall_mem_name fun c ↦ isLineEnd_of_isTagChar)
      fun entry hentry c hc _ _ _ ↦ hline entry hentry c hc,
    fun level rest heq ↦ ?_⟩
  obtain ⟨c, tail, rfl, hletter⟩ := exists_of_isTagName htag
  simp only [Text.asciiLower, headingClose, List.cons_append, List.take_succ_cons, List.map_cons,
    List.cons.injEq] at heq
  rw [eq_of_toLower_eq (by decide) heq.2.1] at hletter
  simp [Text.isLetter] at hletter

theorem isInner_closeTag {tag : List Char} (htag : isTagName tag = true)
    (hlist : mayList tag = false) : (Markup.closeTag tag).IsInner := by
  refine ⟨(closeTag_isClean (isBracketFree_of_isTagName htag)).1, ?_, fun level rest heq ↦ ?_⟩
  · intro c hc
    rcases List.mem_cons.1 hc with rfl | hc
    · rfl
    · exact isLineEnd_of_isTagChar (isTagChar_of_isTagName htag c hc)
  · obtain ⟨d, hd, hclose⟩ : ∃ d, (d = '2' ∨ d = '3') ∧
        headingClose level = ['<', '/', 'h', d, '>'] := by
      unfold headingClose
      split_ifs
      · exact ⟨'2', .inl rfl, rfl⟩
      · exact ⟨'3', .inr rfl, rfl⟩
    rw [hclose] at heq
    match tag, hlist with
    | [h], _ =>
      simp only [Text.asciiLower, List.cons_append, List.take_succ_cons, List.map_cons,
        List.nil_append, List.cons.injEq] at heq
      have hbracket : Char.toLower '>' = d := heq.2.2.2.1
      rcases hd with rfl | rfl <;> revert hbracket <;> decide
    | h :: n :: tail, hlist =>
      simp only [Text.asciiLower, List.cons_append, List.take_succ_cons, List.map_cons,
        List.cons.injEq] at heq
      have hdigit : n = d := eq_of_toLower_eq (by rcases hd with rfl | rfl <;> decide) heq.2.2.2.1
      have hlevel : (outlineLevel? n).isSome = true := by
        rcases hd with rfl | rfl <;> rw [hdigit] <;> rfl
      have hletter : h = 'h' ∨ h = 'H' := by
        refine (eq_or_capital_of_toLower_eq heq.2.2.1).imp_right fun hcapital ↦ ?_
        have hnat : h.toNat = 72 := by
          have h104 : ('h' : Char).toNat = 104 := rfl
          omega
        rw [← Char.ofNat_toNat h, hnat]
      rcases hletter with rfl | rfl <;> simp [mayList, hlevel] at hlist

theorem isInner_of_mem_tokensAll {trees : List Markup} (h : Markup.All Markup.IsInline trees) :
    ∀ token ∈ Markup.tokensAll trees, token.IsInner := by
  intro token hmem
  obtain ⟨⟨kind, inner⟩, htree, hown⟩ := Markup.exists_of_mem_tokensAll trees hmem
  obtain ⟨hquiet, hline, -⟩ := h _ htree
  cases kind with
  | root => simp [Markup.ownTokens] at hown
  | raw markup => exact hquiet.elim
  | text value =>
    obtain rfl : token = .text (Text.escapeText value) := by simpa [Markup.ownTokens] using hown
    have hall : ∀ c ∈ Text.escapeText value, c ≠ '<' ∧ isLineEnd c = false := by
      refine Text.forall_mem_escapeText ?_ fun c hc hlt _ ↦ ⟨hlt, hline c hc⟩
      simp [Text.referenceChars, isLineEnd]
    exact ⟨fun hmem ↦ (hall _ hmem).1 rfl, fun c hc ↦ (hall c hc).2⟩
  | element tag attrs =>
    obtain ⟨htag, hlist, hattrs⟩ := hquiet
    rw [Markup.ownTokens, List.mem_pair] at hown
    rcases hown with rfl | rfl
    · exact isInner_openTag htag hattrs hline
    · exact isInner_closeTag htag hlist

/-- The text of a heading is that of its tree. -/
theorem headingText_writeAll {trees : List Markup} (h : Markup.All Markup.IsInline trees) :
    headingText (Markup.writeAll trees) = Text.trim (Markup.textAll trees) := by
  rw [headingText, stripTags_writeAll (h.imp fun _ h ↦ ⟨h.1.isClean.isBracketFree, h.2.2⟩),
    Text.trim_escapeText,
    Text.unescape_escapeText]

/-! ### Headings -/

/-- The entry for a heading, unless it has no text, and what comes after it. -/
theorem headingsFrom_heading (front : List Char) {inner close rest : List Char} {level : Nat}
    {id : Option (List Char)} (hclose : close.length = 5)
    (hopen : headingOpen? ('<' :: front ++ (inner ++ (close ++ rest))) =
      some ⟨level, id, inner ++ (close ++ rest)⟩)
    (hinner : headingInner? level (inner ++ (close ++ rest)) = some inner) (slugger : Slugger) :
    headingsFrom 0 slugger ('<' :: front ++ (inner ++ (close ++ rest))) =
      Listing.entriesThen (fun slugger ↦ headingsFrom 0 slugger rest) slugger
        (if headingText inner = [] then []
          else [⟨id.map Text.unescape, headingText inner, level⟩]) := by
  have hskip (slugger : Slugger) := headingsFrom_skip (front ++ (inner ++ close)) rest slugger
  have hlength : (front ++ (inner ++ (close ++ rest))).length -
      (inner ++ (close ++ rest)).length + inner.length + 5 =
        (front ++ (inner ++ close)).length := by
    simp only [List.length_append, hclose]
    omega
  simp only [List.append_assoc] at hskip
  rw [List.cons_append] at hopen ⊢
  rw [headingsFrom, hopen]
  simp only [hinner, hlength]
  split_ifs with hempty hnil hnil
  · exact hskip slugger
  · exact absurd (List.isEmpty_iff.1 hempty) hnil
  · exact absurd (List.isEmpty_iff.2 hnil) hempty
  · refine congrArg (_ :: ·) (hskip _)

theorem firstId?_eq {value : List Char} (hvalue : '"' ∉ value) (rest : List Char) :
    firstId? (' ' :: 'i' :: 'd' :: '=' :: '"' :: (value ++ '"' :: rest)) = some (value, rest) := by
  have hdrop : (' ' :: 'i' :: 'd' :: '=' :: '"' :: (value ++ '"' :: rest)).dropWhile Text.isBlank =
      'i' :: 'd' :: '=' :: '"' :: (value ++ '"' :: rest) := by
    rw [List.dropWhile_cons_of_pos (by decide), List.dropWhile_cons_of_neg (by decide)]
  have hletters : ∀ c ∈ value, (c != '"') = true := fun c hc ↦ by
    simpa using ne_of_mem_of_not_mem hc hvalue
  have hvalue : (value ++ '"' :: rest).takeWhile (· != '"') = value := by
    rw [List.takeWhile_append_of_pos hletters]
    simp
  have hafter : (value ++ '"' :: rest).dropWhile (· != '"') = '"' :: rest := by
    rw [List.dropWhile_append_of_pos hletters]
    simp
  unfold firstId?
  rw [hdrop]
  simp only [hvalue, hafter]
  rw [if_pos (by decide)]

theorem headingOpen?_id {n : Char} {level : Nat} (hlevel : outlineLevel? n = some level)
    (id rest : List Char) :
    headingOpen? ('<' :: 'h' :: n :: (writeAttribute (.id, id) ++ '>' :: rest)) =
      some ⟨level, some (Text.escapeAttribute id), rest⟩ := by
  have hquote : ∀ c ∈ Text.escapeAttribute id, c ≠ '"' :=
    Text.forall_mem_escapeAttribute (by simp [Text.referenceChars]) fun c _ _ _ hc ↦ hc
  have hwrite : writeAttribute (.id, id) ++ '>' :: rest =
      ' ' :: 'i' :: 'd' :: '=' :: '"' :: (Text.escapeAttribute id ++ '"' :: '>' :: rest) := by
    have hname : AttributeKey.id.name = ['i', 'd'] := by decide
    have hvalued : AttributeKey.id.isBoolean = false := rfl
    simp only [writeAttribute, hvalued, hname, Bool.false_eq_true, ↓reduceIte, List.cons_append,
      List.append_assoc, List.nil_append]
  have hfirst := firstId?_eq (fun hmem ↦ hquote _ hmem rfl) ('>' :: rest)
  rw [← hwrite] at hfirst
  rw [headingOpen?, if_pos (.inl rfl), hlevel]
  simp only [Option.bind_some, hfirst, afterClose, ↓reduceIte, Option.map_some]

theorem headingOpen?_plain {n : Char} {level : Nat} (hlevel : outlineLevel? n = some level)
    (rest : List Char) :
    headingOpen? ('<' :: 'h' :: n :: '>' :: rest) = some ⟨level, none, rest⟩ := by
  have hfirst : firstId? ('>' :: rest) = none := by
    unfold firstId?
    split
    · next c _ _ _ _ hhead _ =>
      obtain ⟨rfl, -⟩ := List.cons.inj hhead
      rw [if_neg (by simp [Text.isBlank])]
    · rfl
  rw [headingOpen?, if_pos (.inl rfl), hlevel]
  simp only [Option.bind_some, hfirst, afterClose, ↓reduceIte, Option.bind_none, Option.map_some]

/-! ### What is listed of trees -/

/-- The level of the headings of the outline. -/
def listedLevel? (tag : List Char) : Option Nat :=
  if tag = "h2".toList then some 2 else if tag = "h3".toList then some 3 else none

/-- A heading of raw markup, on one line and without attributes. -/
def rawHeading (level : Nat) (text : List Char) : List Char :=
  let tag := if level = 2 then "h2".toList else "h3".toList
  startTag tag .empty ++ text ++ endTag tag

/-- The level of a heading of raw markup and its text. -/
def rawHeading? : List Char → Option (Nat × List Char)
  | '<' :: 'h' :: n :: '>' :: rest =>
    (outlineLevel? n).map fun level => (level, rest.take (rest.length - 5))
  | _ => none

/-- What is listed of an element: its identifier, its text without the blanks around it and its
level, unless it is no heading of the outline or a blank one. -/
def listing? (tag : List Char) (attrs : Attributes) (text : List Char) : Option Listing :=
  (listedLevel? tag).bind fun level =>
    if Text.isBlankText text then none else some ⟨attrs.get? .id, Text.trim text, level⟩

/-- What is listed of raw markup, if it is a heading. -/
def rawListing? (markup : List Char) : Option Listing :=
  (rawHeading? markup).bind fun (level, text) =>
    if Text.isBlankText text then none else some ⟨none, Text.unescape (Text.trim text), level⟩

namespace Markup

/-- What is listed of a tree. -/
def listing? (tree : Markup) : Option Listing :=
  match tree.kind with
  | .element tag attrs => Html.listing? tag attrs tree.text
  | .raw markup => rawListing? markup
  | _ => none

/-- What is listed of trees and of all trees in them. -/
def listings (trees : List Markup) : List Listing := (subtreesAll trees).filterMap listing?

@[simp] theorem listings_nil : listings [] = [] := rfl

@[simp] theorem listings_append (trees others : List Markup) :
    listings (trees ++ others) = listings trees ++ listings others := by
  simp [listings]

/-- What is listed of a tree comes before what is listed of the trees in it. -/
theorem listings_singleton (tree : Markup) :
    listings [tree] = tree.listing?.toList ++ listings tree.children := by
  obtain ⟨kind, inner⟩ := tree
  cases hlisting : (Markup.node kind inner).listing? <;>
    simp [listings, subtreesAll, subtrees, children, hlisting]

/-- What the outline reads as it is meant: what it passes over, and headings with nothing but
inline trees in them. -/
inductive IsReadable : Markup → Prop
  | quiet {tree : Markup} (hquiet : tree.kind.IsQuiet) (hbare : tree.IsBare) : IsReadable tree
  | heading {tag id : List Char} {inner : List Markup} (htag : (listedLevel? tag).isSome = true)
      (hinner : All IsInline inner) : IsReadable (.element tag ⟨[(.id, id)]⟩ inner)
  | raw {level : Nat} {text : List Char} (hlevel : level = 2 ∨ level = 3) (htext : '<' ∉ text)
      (hline : IsSingleLine text) : IsReadable (.node (.raw (rawHeading level text)) [])

end Markup

theorem listedLevel?_eq_some {tag : List Char} {level : Nat} (h : listedLevel? tag = some level) :
    tag = ['h', '2'] ∧ level = 2 ∨ tag = ['h', '3'] ∧ level = 3 := by
  unfold listedLevel? at h
  split_ifs at h with htwo hthree
  · exact .inl ⟨htwo, (Option.some.inj h).symm⟩
  · exact .inr ⟨hthree, (Option.some.inj h).symm⟩

/-- The tags of a heading as the scan looks for them. -/
theorem exists_of_listedLevel? {tag : List Char} {level : Nat} (h : listedLevel? tag = some level) :
    ∃ n, outlineLevel? n = some level ∧ tag = ['h', n] ∧ headingClose level = endTag tag ∧
      isVoid tag = false := by
  rcases listedLevel?_eq_some h with ⟨rfl, rfl⟩ | ⟨rfl, rfl⟩
  · exact ⟨'2', rfl, rfl, rfl, rfl⟩
  · exact ⟨'3', rfl, rfl, rfl, rfl⟩

/-- What is listed of an element carries its identifier. -/
theorem listing?_eq_some {tag : List Char} {attrs : Attributes} {text : List Char}
    {listing : Listing} (h : listing? tag attrs text = some listing) :
    (listedLevel? tag).isSome = true ∧ listing.id = attrs.get? .id := by
  obtain ⟨level, hlevel, h⟩ := Option.bind_eq_some_iff.1 h
  split_ifs at h with hblank
  exact ⟨by rw [hlevel]; rfl, by rw [← Option.some.inj h]⟩

/-- What is listed of raw markup carries no identifier. -/
theorem rawListing?_eq_some {markup : List Char} {listing : Listing}
    (h : rawListing? markup = some listing) : listing.id = none := by
  obtain ⟨⟨level, text⟩, -, h⟩ := Option.bind_eq_some_iff.1 h
  dsimp only at h
  split_ifs at h with hblank
  rw [← Option.some.inj h]

theorem listedLevel?_of_mayList {tag : List Char} (h : mayList tag = false) :
    listedLevel? tag = none := by
  unfold listedLevel?
  rw [if_neg, if_neg]
  · rintro rfl
    revert h
    decide
  · rintro rfl
    revert h
    decide

theorem rawHeading?_eq {level : Nat} (hlevel : level = 2 ∨ level = 3) (text : List Char) :
    rawHeading? (rawHeading level text) = some (level, text) := by
  have htake (close : List Char) (hclose : close.length = 5) :
      (text ++ close).take ((text ++ close).length - 5) = text := by
    simp [hclose]
  rcases hlevel with rfl | rfl
  · exact congrArg (fun text ↦ some (2, text)) (htake (endTag "h2".toList) rfl)
  · exact congrArg (fun text ↦ some (3, text)) (htake (endTag "h3".toList) rfl)

theorem Markup.listing?_of_isQuiet {tree : Markup} (h : tree.kind.IsQuiet) :
    tree.listing? = none := by
  obtain ⟨kind, inner⟩ := tree
  cases kind with
  | element tag attrs =>
    simp only [Markup.listing?, Markup.kind, Html.listing?, listedLevel?_of_mayList h.2.1,
      Option.bind_none]
  | raw markup => exact h.elim
  | _ => rfl

/-- Nothing in a heading is listed. -/
theorem Markup.listings_of_isInline {trees : List Markup} (h : Markup.All Markup.IsInline trees) :
    Markup.listings trees = [] :=
  List.filterMap_eq_nil_iff.2 fun tree htree ↦ Markup.listing?_of_isQuiet (h tree htree).1

/-! ### The outline of trees -/

section Scan

variable {tag id : List Char} {inner : List Markup} {level : Nat}

/-- What the scan makes of a heading: the entry for what is listed of it. -/
theorem headingsFrom_element (htag : (listedLevel? tag).isSome = true)
    (hinner : Markup.All Markup.IsInline inner) (rest : List Char) (slugger : Slugger) :
    headingsFrom 0 slugger (Markup.write (.element tag ⟨[(.id, id)]⟩ inner) ++ rest) =
      Listing.entriesThen (fun slugger ↦ headingsFrom 0 slugger rest) slugger
        (Markup.listings [.element tag ⟨[(.id, id)]⟩ inner]) := by
  obtain ⟨level, htag⟩ := Option.isSome_iff_exists.1 htag
  obtain ⟨n, hlevel, rfl, hclose, hvoid⟩ := exists_of_listedLevel? htag
  have hopen := headingOpen?_id hlevel id
    (Markup.writeAll inner ++ (headingClose level ++ rest))
  have hread := headingInner?_write (isInner_of_mem_tokensAll hinner) level rest
  rw [← Markup.writeAll_eq] at hread
  have hscan := headingsFrom_heading ('h' :: n :: (writeAttribute (.id, id) ++ ['>'])) rfl
    (by simpa using hopen) hread slugger
  have hwrite : Markup.write (.element ['h', n] ⟨[(.id, id)]⟩ inner) ++ rest =
      '<' :: ('h' :: n :: (writeAttribute (.id, id) ++ ['>'])) ++
        (Markup.writeAll inner ++ (headingClose level ++ rest)) := by
    simp [Markup.write, startTag, hvoid, hclose]
  have hlisted : Markup.listings [.element ['h', n] ⟨[(.id, id)]⟩ inner] =
      if headingText (Markup.writeAll inner) = [] then []
      else [⟨(some (Text.escapeAttribute id)).map Text.unescape,
        headingText (Markup.writeAll inner), level⟩] := by
    rw [Markup.listings_singleton, Markup.children, Markup.listings_of_isInline hinner,
      List.append_nil, headingText_writeAll hinner]
    simp only [Markup.listing?, Markup.kind, listing?, htag, Markup.text, Option.bind_some,
      Text.trim_eq_nil_iff, Option.map_some, Text.unescape_escapeAttribute]
    by_cases hblank : Text.isBlankText (Markup.textAll inner) = true
    · simp [hblank]
    · simp [hblank, Attributes.get?]
  rw [hwrite, hlisted, hscan]

/-- What the scan makes of a heading of raw markup. -/
theorem headingsFrom_raw (hlevel : level = 2 ∨ level = 3) {text : List Char} (htext : '<' ∉ text)
    (hline : IsSingleLine text) (rest : List Char) (slugger : Slugger) :
    headingsFrom 0 slugger (rawHeading level text ++ rest) =
      Listing.entriesThen (fun slugger ↦ headingsFrom 0 slugger rest) slugger
        (Markup.listings [.node (.raw (rawHeading level text)) []]) := by
  obtain ⟨n, hn, hwrite⟩ : ∃ n, outlineLevel? n = some level ∧
      rawHeading level text = '<' :: ['h', n, '>'] ++ (text ++ headingClose level) := by
    rcases hlevel with rfl | rfl
    · exact ⟨'2', rfl, rfl⟩
    · exact ⟨'3', rfl, rfl⟩
  have hopen := headingOpen?_plain hn (text ++ (headingClose level ++ rest))
  have hread := headingInner?_text htext hline level (headingClose level ++ rest)
  rw [headingInner?_close, Option.map_some, List.append_nil] at hread
  have hscan := headingsFrom_heading ['h', n, '>'] rfl hopen hread slugger
  have htitle : headingText text = Text.unescape (Text.trim text) := by
    have hstrip := stripTagsFrom_text htext []
    rw [List.append_nil] at hstrip
    simp [headingText, stripTags, hstrip, stripTagsFrom]
  have hempty : Text.unescape (Text.trim text) = [] ↔ Text.isBlankText text = true := by
    rw [← Text.trim_eq_nil_iff]
    constructor
    · intro hnil
      by_contra hne
      exact Text.unescape_ne_nil hne hnil
    · intro hnil
      rw [hnil]
      rfl
  have hlisted : Markup.listings [.node (.raw (rawHeading level text)) []] =
      if headingText text = [] then [] else [⟨none, headingText text, level⟩] := by
    rw [Markup.listings_singleton, Markup.children, Markup.listings_nil, List.append_nil]
    simp only [Markup.listing?, Markup.kind, rawListing?, rawHeading?_eq hlevel, Option.bind_some,
      htitle, hempty]
    by_cases hblank : Text.isBlankText text = true
    · simp [hblank]
    · simp [hblank]
  rw [hlisted, hwrite]
  simpa using hscan

/-- What the outline passes over leaves what is listed of the trees in it. -/
theorem headingsFrom_quiet {kind : Kind} (hquiet : kind.IsQuiet)
    (hbare : Markup.IsBare (.node kind inner))
    (hinner : ∀ (rest : List Char) (slugger : Slugger),
      headingsFrom 0 slugger (Markup.writeAll inner ++ rest) =
        Listing.entriesThen (fun slugger ↦ headingsFrom 0 slugger rest) slugger
          (Markup.listings inner)) (rest : List Char) (slugger : Slugger) :
    headingsFrom 0 slugger (Markup.write (.node kind inner) ++ rest) =
      Listing.entriesThen (fun slugger ↦ headingsFrom 0 slugger rest) slugger
        (Markup.listings inner) := by
  cases kind with
  | root => exact hinner rest slugger
  | raw markup => exact hquiet.elim
  | text value =>
    obtain rfl : inner = [] := hbare rfl
    have hclean : ∀ c ∈ Text.escapeText value, c ≠ '<' :=
      Text.forall_mem_escapeText (by simp [Text.referenceChars]) fun c _ hlt _ ↦ hlt
    exact headingsFrom_text (fun hmem ↦ hclean _ hmem rfl) rest slugger
  | element tag attrs =>
    obtain ⟨htag, hlist, hattrs⟩ := hquiet
    have hfree := isBracketFree_of_isTagName htag
    have hstart (rest : List Char) (slugger : Slugger) :
        headingsFrom 0 slugger (startTag tag attrs ++ rest) = headingsFrom 0 slugger rest := by
      have hscan := headingsFrom_tag (openTag_isClean hfree hattrs.isBracketFree) (fun rest ↦ by
        simpa using headingOpen?_openTag hlist
          (attrs.entries.flatMap writeAttribute ++ '>' :: rest)) rest slugger
      simpa [startTag] using hscan
    have hend (rest : List Char) (slugger : Slugger) :
        headingsFrom 0 slugger (endTag tag ++ rest) = headingsFrom 0 slugger rest := by
      have hscan := headingsFrom_tag (closeTag_isClean hfree) (fun rest ↦ by
        simpa using headingOpen?_closeTag tag ('>' :: rest)) rest slugger
      simpa [endTag] using hscan
    rw [Markup.write, List.append_assoc, hstart]
    cases hvoid : isVoid tag with
    | true =>
      obtain rfl : inner = [] := hbare hvoid
      rfl
    | false =>
      simp only [Bool.false_eq_true, ↓reduceIte]
      rw [List.append_assoc, hinner]
      simp only [hend]

end Scan

/-- The outline of readable trees is that of what is listed of them. -/
theorem headingsFrom_writeAll :
    ∀ trees : List Markup, Markup.All Markup.IsReadable trees → ∀ (rest : List Char)
      (slugger : Slugger), headingsFrom 0 slugger (Markup.writeAll trees ++ rest) =
        Listing.entriesThen (fun slugger ↦ headingsFrom 0 slugger rest) slugger
          (Markup.listings trees)
  | [], _, rest, slugger => rfl
  | .node kind inner :: others, h, rest, slugger => by
    rw [Markup.All.cons] at h
    have hothers := headingsFrom_writeAll others h.2 rest
    have hinner := headingsFrom_writeAll inner h.1.2
    have htop (rest : List Char) (slugger : Slugger) :
        headingsFrom 0 slugger (Markup.write (.node kind inner) ++ rest) =
          Listing.entriesThen (fun slugger ↦ headingsFrom 0 slugger rest) slugger
            (Markup.listings [.node kind inner]) := by
      cases h.1.1 with
      | heading htag hinline => exact headingsFrom_element htag hinline rest slugger
      | raw hlevel htext hline => exact headingsFrom_raw hlevel htext hline rest slugger
      | quiet hquiet hbare =>
        rw [Markup.listings_singleton, Markup.listing?_of_isQuiet hquiet, Markup.children]
        exact headingsFrom_quiet hquiet hbare (hinner · ·) rest slugger
    have hcons := Markup.listings_append [.node kind inner] others
    rw [List.singleton_append] at hcons
    rw [Markup.writeAll, List.append_assoc, htop, hcons, Listing.entriesThen_append]
    simp only [hothers]

theorem outline_writeAll {trees : List Markup} (h : Markup.All Markup.IsReadable trees) :
    outline (Markup.writeAll trees) = Listing.entries (Markup.listings trees) := by
  have hscan := headingsFrom_writeAll trees h [] .empty
  rw [List.append_nil] at hscan
  exact hscan

end Galley.Html
