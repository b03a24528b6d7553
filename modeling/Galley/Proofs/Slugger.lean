import Galley.Slug.Search
import Galley.Proofs.Slug

/-!
Names that calls on a slugger hand out. Each of them is the first that is free for its candidate
(`IsFirstFree`) with respect to all names that were handed out or reserved before. A search for it
passes over names that differ from each other and are all taken, so that it ends after no more turns
than there are taken names (`IsFirstFree.exists_endsIn`).
-/

set_option autoImplicit false
set_option relaxedAutoImplicit false

namespace Galley

variable {taken : List (List Char)} {candidate name : List Char}

/-- The first free name for a candidate: the candidate itself, or else the candidate with the least
number from two on. -/
inductive IsFirstFree (taken : List (List Char)) (candidate : List Char) : List Char → Prop
  | bare (hfree : candidate ∉ taken) : IsFirstFree taken candidate candidate
  | numbered {n : Nat} (htaken : candidate ∈ taken) (hle : 2 ≤ n)
    (hfree : numbered candidate n ∉ taken)
    (hleast : ∀ m, 2 ≤ m → m < n → Galley.numbered candidate m ∈ taken) :
    IsFirstFree taken candidate (Galley.numbered candidate n)

theorem IsFirstFree.notMem (h : IsFirstFree taken candidate name) : name ∉ taken := by
  cases h with
  | bare hfree => exact hfree
  | numbered _ _ hfree => exact hfree

/-- Which names are taken counts, not in which order. -/
theorem IsFirstFree.congr {other : List (List Char)} (hsame : ∀ id, id ∈ taken ↔ id ∈ other)
    (h : IsFirstFree taken candidate name) : IsFirstFree other candidate name := by
  cases h with
  | bare hfree => exact .bare ((hsame _).not.1 hfree)
  | numbered htaken hle hfree hleast =>
    exact .numbered ((hsame _).1 htaken) hle ((hsame _).not.1 hfree)
      fun m hm hlt ↦ (hsame _).1 (hleast m hm hlt)

theorem Slugger.nameFor_isFirstFree (slugger : Slugger) (candidate : List Char) :
    IsFirstFree slugger.used candidate (slugger.nameFor candidate) := by
  have hfree := slugger.nameFor_notMem candidate
  unfold nameFor at hfree ⊢
  split_ifs at hfree ⊢ with hused
  · obtain ⟨i, heq, hpassed⟩ := exists_firstFree slugger.isUsed candidate slugger.used.length 2
    rw [heq] at hfree ⊢
    refine .numbered (by simpa [isUsed] using hused) (Nat.le_add_right 2 i) hfree
      fun m hle hlt ↦ ?_
    obtain ⟨j, rfl⟩ := Nat.exists_eq_add_of_le hle
    simpa [isUsed] using hpassed j (Nat.lt_of_add_lt_add_left hlt)
  · exact .bare hfree

/-! ### Searches -/

/-- A search that tries a numbered name ends with the next free one. -/
theorem Search.endsIn_numbered {isTaken : List Char → Bool} {m turns : Nat}
    (htaken : ∀ i < turns, isTaken (numbered candidate (m + i)) = true)
    (hfree : isTaken (numbered candidate (m + turns)) = false) :
    EndsIn isTaken candidate turns ⟨numbered candidate m, m + 1⟩
      (numbered candidate (m + turns)) := by
  induction turns generalizing m with
  | zero => exact .free ⟨numbered candidate m, m + 1⟩ (by simpa [turn?] using hfree)
  | succ turns ih =>
    have hnow : isTaken (numbered candidate m) = true := htaken 0 (Nat.succ_pos turns)
    have hmove : m + (turns + 1) = m + 1 + turns := by omega
    rw [hmove] at hfree ⊢
    refine .turn ⟨numbered candidate (m + 1), m + 2⟩ (by simp [turn?, hnow])
      (ih (fun i hi ↦ ?_) hfree)
    rw [Nat.add_assoc, Nat.add_comm 1 i]
    exact htaken (i + 1) (Nat.succ_lt_succ hi)

/-- The names that a search passes over differ from each other. -/
theorem card_le_of_forall_numbered_mem {turns : Nat} (hcandidate : candidate ∈ taken)
    (hnumbered : ∀ i < turns, numbered candidate (2 + i) ∈ taken) :
    turns + 1 ≤ taken.toFinset.card := by
  let passed : Finset (List Char) :=
    insert candidate ((Finset.range turns).image fun i ↦ numbered candidate (2 + i))
  have hinjective : Function.Injective fun i ↦ numbered candidate (2 + i) :=
    (numbered_injective candidate).comp (add_right_injective 2)
  have hcard : passed.card = turns + 1 := by
    rw [Finset.card_insert_of_notMem, Finset.card_image_of_injective _ hinjective,
      Finset.card_range]
    simp only [Finset.mem_image, Finset.mem_range, not_exists, not_and]
    exact fun i _ ↦ numbered_ne_self candidate (2 + i)
  have hsubset : passed ⊆ taken.toFinset := by
    refine Finset.insert_subset (List.mem_toFinset.2 hcandidate) fun id hid ↦ ?_
    obtain ⟨i, hi, rfl⟩ := Finset.mem_image.1 hid
    exact List.mem_toFinset.2 (hnumbered i (Finset.mem_range.1 hi))
  exact hcard ▸ Finset.card_le_card hsubset

/-- A search ends with the first free name, after no more turns than there are taken names. -/
theorem IsFirstFree.exists_endsIn (h : IsFirstFree taken candidate name) :
    ∃ turns ≤ taken.toFinset.card,
      Search.EndsIn taken.contains candidate turns (.start candidate) name := by
  cases h with
  | bare hfree =>
    exact ⟨0, Nat.zero_le _, .free (.start candidate)
      (by simpa [Search.turn?, Search.start] using hfree)⟩
  | @numbered n htaken hle hfree hleast =>
    obtain ⟨turns, rfl⟩ := Nat.exists_eq_add_of_le hle
    have hpassed : ∀ i < turns, Galley.numbered candidate (2 + i) ∈ taken := fun i hi ↦
      hleast (2 + i) (Nat.le_add_right 2 i) (Nat.add_lt_add_left hi 2)
    refine ⟨turns + 1, card_le_of_forall_numbered_mem htaken hpassed,
      .turn ⟨Galley.numbered candidate 2, 3⟩
        (by simpa [Search.turn?, Search.start] using htaken) ?_⟩
    exact Search.endsIn_numbered (fun i hi ↦ by simpa using hpassed i hi) (by simpa using hfree)

/-! ### Runs of calls -/

namespace Slugger.Call

theorem used_run (slugger : Slugger) (call : Call) :
    (call.run slugger).1.used = (call.run slugger).2 :: slugger.used := by
  cases call <;> rfl

/-- The names that calls hand out or reserve are used from then on. -/
theorem used_runAll (slugger : Slugger) (calls : List Call) :
    (runAll slugger calls).1.used = (runAll slugger calls).2.reverse ++ slugger.used := by
  induction calls generalizing slugger with
  | nil => rfl
  | cons call rest ih => simp [runAll, ih, used_run]

theorem length_runAll (slugger : Slugger) (calls : List Call) :
    (runAll slugger calls).2.length = calls.length := by
  induction calls generalizing slugger with
  | nil => rfl
  | cons call rest ih => simp [runAll, ih]

/-- A call is made on a slugger that knows the names of the calls before it. -/
theorem getElem?_runAll (slugger : Slugger) (calls : List Call) (i : Nat) :
    (runAll slugger calls).2[i]? = calls[i]?.map fun call ↦
      (call.run ⟨((runAll slugger calls).2.take i).reverse ++ slugger.used⟩).2 := by
  induction calls generalizing slugger i with
  | nil => rfl
  | cons call rest ih =>
    cases i with
    | zero => rfl
    | succ i => simp [runAll, ih, used_run]

/-- A name is handed out as the slugger says for the candidate. -/
theorem run_eq_nameFor {call : Call} (hcandidate : call.candidate? = some candidate)
    (slugger : Slugger) : (call.run slugger).2 = slugger.nameFor candidate := by
  cases call with
  | claim c =>
    obtain rfl : c = candidate := Option.some.inj hcandidate
    rfl
  | nextId text =>
    obtain rfl : headingId text = candidate := Option.some.inj hcandidate
    rfl
  | reserve id => cases hcandidate

/-- Of calls on a fresh slugger, each that hands out a name hands out the first one that is free for
its candidate, and so none that was handed out or reserved before. The search for it tries at most
one name more than there are such names. -/
theorem runAll_hands_out_first_free_names (calls : List Call) :
    let (slugger, names) := runAll .empty calls
    names.length = calls.length ∧ (∀ id, slugger.isUsed id = true ↔ id ∈ names) ∧
      ∀ i call, calls[i]? = some call → ∃ name, names[i]? = some name ∧
        (∀ id, call = .reserve id → name = id) ∧
        ∀ candidate, call.candidate? = some candidate →
          name ∉ names.take i ∧ IsFirstFree (names.take i) candidate name ∧
            ∃ turns ≤ (names.take i).toFinset.card,
              Search.EndsIn (names.take i).contains candidate turns (.start candidate) name := by
  have hused := used_runAll .empty calls
  have hnames := getElem?_runAll .empty calls
  have hlength := length_runAll .empty calls
  generalize runAll .empty calls = after at hused hnames hlength
  obtain ⟨slugger, names⟩ := after
  simp only [Slugger.empty, List.append_nil] at hused hnames
  refine ⟨hlength, fun id ↦ by simp [isUsed, hused], fun i call hcall ↦
    ⟨_, by rw [hnames, hcall, Option.map_some], ?_, fun candidate hcandidate ↦ ?_⟩⟩
  · rintro id rfl
    rfl
  · rw [run_eq_nameFor hcandidate]
    have hfirst : IsFirstFree (names.take i) candidate
        (nameFor ⟨(names.take i).reverse⟩ candidate) :=
      (nameFor_isFirstFree ⟨(names.take i).reverse⟩ candidate).congr fun id ↦ List.mem_reverse
    exact ⟨hfirst.notMem, hfirst, hfirst.exists_endsIn⟩

example : (runAll .empty [.claim ['a'], .reserve "a-2".toList, .claim ['a'], .nextId ['A'],
    .claim "a-2".toList]).2 =
      [['a'], "a-2".toList, "a-3".toList, "a-4".toList, "a-2-2".toList] := by
  decide

end Slugger.Call

end Galley
