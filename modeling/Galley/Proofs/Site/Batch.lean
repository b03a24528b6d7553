import Mathlib
import Galley.Site.Workers

/-!
Batches that are worked off together and in turn. What a place holds depends on how often its worker
has taken a step and on nothing else (`Workroom.getElem?_places_run`), and the counters hold the
number of posts and failures among the counted results in whatever order they were raised
(`Workroom.IsTallied.run`). So a batch that is worked off together has ended exactly if every worker
has taken both of its steps, and then its results are those of the inputs, in their order; one that
is worked off in turn has of these results those up to the first failure (`batches_agree`).
-/

set_option autoImplicit false
set_option relaxedAutoImplicit false

namespace Galley.Site

/-! ### Results -/

theorem BatchResult.isSome_post? (r : BatchResult) : r.post?.isSome = !r.isFailure := by
  unfold post? isFailure
  cases r.outcome <;> rfl

theorem BatchResult.isSome_message? (r : BatchResult) : r.message?.isSome = r.isFailure := by
  unfold message? isFailure
  cases r.outcome <;> rfl

theorem untilFailure_eq_take (results : List BatchResult) :
    untilFailure results = results.take (results.findIdx (·.isFailure) + 1) := by
  induction results with
  | nil => rfl
  | cons r rest ih =>
    rw [untilFailure, List.findIdx_cons]
    cases hr : r.isFailure with
    | true => simp
    | false => simp [ih]

/-! ### Counters -/

namespace Tally

/-- The counters after the given results. -/
def ofResults (results : List BatchResult) : Tally where
  succeeded := .ofNat (results.countP (!·.isFailure))
  failed := .ofNat (results.countP (·.isFailure))

/-- The counters do not depend on where among the results a result is counted. -/
theorem count_ofResults (front back : List BatchResult) (r : BatchResult) :
    (ofResults (front ++ back)).count r = ofResults (front ++ r :: back) := by
  unfold count ofResults
  cases hr : r.isFailure with
  | true => simp [hr, ← Nat.add_assoc, UInt32.ofNat_add]
  | false => simp [hr, ← Nat.add_assoc, UInt32.ofNat_add]

end Tally

/-- The total and the counters of a batch tell of its inputs and results, and each of its results is
a post or a message and not both. -/
structure Account.IsCounted (account : Account) (inputs : List BatchInput) : Prop where
  total_eq : account.total.toNat = inputs.length
  succeeded_eq : account.tally.succeeded.toNat = account.results.countP (·.post?.isSome)
  failed_eq : account.tally.failed.toNat = account.results.countP (·.message?.isSome)
  sum_eq : account.tally.succeeded.toNat + account.tally.failed.toNat = account.results.length
  single : ∀ r ∈ account.results, r.post?.isSome = !r.message?.isSome

theorem isCounted_ofResults {inputs : List BatchInput} {results : List BatchResult}
    (hinputs : inputs.length < 2 ^ 32) (hresults : results.length ≤ inputs.length) :
    Account.IsCounted ⟨results, inputs.length.toUInt32, Tally.ofResults results⟩ inputs := by
  have hword {n : Nat} (hn : n ≤ inputs.length) : (UInt32.ofNat n).toNat = n :=
    UInt32.toNat_ofNat_of_lt' (hn.trans_lt hinputs)
  have hsucceeded := hword ((List.countP_le_length (p := (!·.isFailure))).trans hresults)
  have hfailed := hword ((List.countP_le_length (p := (·.isFailure))).trans hresults)
  refine ⟨hword le_rfl, ?_, ?_, ?_, fun r _ ↦ ?_⟩
  · simpa only [BatchResult.isSome_post?, Tally.ofResults] using hsucceeded
  · simpa only [BatchResult.isSome_message?, Tally.ofResults] using hfailed
  · simp only [Tally.ofResults, hsucceeded, hfailed]
    rw [List.length_eq_countP_add_countP (·.isFailure), Nat.add_comm]
    simp
  · rw [BatchResult.isSome_post?, BatchResult.isSome_message?]

/-! ### Places -/

namespace Place

/-- The result of a place, if it is counted. -/
def counted? : Place → Option BatchResult
  | .waiting _ => none
  | .counted result => some result
  | .finished result => some result

theorem iterate_advance_of_two_le (p : Pipeline) (input : BatchInput) {steps : Nat}
    (h : 2 ≤ steps) : (advance p)^[steps] (.waiting input) = .finished (renderInput p input) := by
  obtain ⟨more, rfl⟩ := Nat.exists_eq_add_of_le' h
  exact Function.iterate_fixed rfl more

theorem iterate_advance_of_lt_two (p : Pipeline) (input : BatchInput) {steps : Nat}
    (h : steps < 2) (result : BatchResult) :
    (advance p)^[steps] (.waiting input) ≠ .finished result := by
  interval_cases steps
  · exact Place.noConfusion
  · exact Place.noConfusion

theorem mapM_result?_eq_some {places : List Place} {results : List BatchResult} :
    places.mapM result? = some results ↔ places = results.map .finished := by
  induction places generalizing results with
  | nil => simp [eq_comm]
  | cons place places ih =>
    rw [List.mapM_cons]
    cases place with
    | waiting input => cases results <;> simp [result?]
    | counted result => cases results <;> simp [result?]
    | finished result =>
      cases results with
      | nil =>
        rw [result?, Option.bind_eq_bind, Option.bind_some, Option.bind_eq_bind]
        simp [Option.bind_eq_some_iff]
      | cons first results =>
        simp only [result?, Option.bind_eq_bind, Option.bind_some, Option.bind_eq_some_iff,
          Option.pure_def, Option.some.injEq, List.cons.injEq, List.map_cons, finished.injEq,
          ← ih]
        constructor
        · rintro ⟨rest, hrest, rfl, rfl⟩
          exact ⟨rfl, hrest⟩
        · rintro ⟨rfl, hrest⟩
          exact ⟨results, hrest, rfl, rfl⟩

end Place

/-! ### Workers -/

namespace Workroom

variable (p : Pipeline) (room : Workroom)

/-- A place after a run has come as far as its worker has taken steps. -/
theorem getElem?_places_run (schedule : List Nat) (place : Nat) :
    (room.run p schedule).places[place]? =
      room.places[place]?.map (Place.advance p)^[schedule.count place] := by
  induction schedule generalizing room with
  | nil => simp [run]
  | cons first schedule ih =>
    rw [run, List.foldl_cons, ← run, ih, step, List.getElem?_modify, List.count_cons]
    by_cases hfirst : first = place
    · simp [hfirst, Function.comp_def]
    · simp [hfirst]

variable {room}

/-- The counters hold the counted results. -/
def IsTallied (room : Workroom) : Prop :=
  room.tally = Tally.ofResults (room.places.filterMap Place.counted?)

theorem isTallied_ofInputs (inputs : List BatchInput) : (ofInputs inputs).IsTallied := by
  have hnone : (inputs.map Place.waiting).filterMap Place.counted? = [] := by
    rw [List.filterMap_map, List.filterMap_eq_nil_iff]
    exact fun _ _ ↦ rfl
  rw [IsTallied, ofInputs, hnone]
  rfl

theorem IsTallied.step (h : room.IsTallied) (place : Nat) : (room.step p place).IsTallied := by
  rw [IsTallied] at h
  by_cases hplace : place < room.places.length
  · obtain ⟨front, held, back, hplaces, rfl, hmodify⟩ :=
      List.exists_of_modify (Place.advance p) hplace
    have hget : room.places[front.length]? = some held := by simp [hplaces]
    simp only [IsTallied, Workroom.step, hget, hmodify]
    rw [h, hplaces, List.filterMap_append, List.filterMap_append]
    -- Only a result that was waited for is new among those that are counted.
    cases held with
    | waiting input => exact Tally.count_ofResults _ _ (renderInput p input)
    | counted result => rfl
    | finished result => rfl
  · have hnone : room.places[place]? = none := List.getElem?_eq_none (not_lt.1 hplace)
    simp only [IsTallied, Workroom.step, hnone, List.modify_eq_self (not_lt.1 hplace), h]

theorem IsTallied.run (h : room.IsTallied) (schedule : List Nat) :
    (room.run p schedule).IsTallied := by
  induction schedule generalizing room with
  | nil => exact h
  | cons place schedule ih => exact ih (h.step p place)

/-- Every worker has taken both of its steps. -/
def IsComplete (inputs : List BatchInput) (schedule : List Nat) : Prop :=
  ∀ place < inputs.length, 2 ≤ schedule.count place

theorem places_run_eq_iff (inputs : List BatchInput) (schedule : List Nat)
    (results : List BatchResult) :
    ((ofInputs inputs).run p schedule).places = results.map .finished ↔
      IsComplete inputs schedule ∧ results = inputs.map (renderInput p) := by
  have hplace (place : Nat) : ((ofInputs inputs).run p schedule).places[place]? =
      inputs[place]?.map fun input ↦ (Place.advance p)^[schedule.count place] (.waiting input) := by
    rw [getElem?_places_run, ofInputs, List.getElem?_map, Option.map_map]
    rfl
  constructor
  · intro heq
    have hfinished (place : Nat) (input : BatchInput) (hinput : inputs[place]? = some input) :
        2 ≤ schedule.count place ∧ results[place]? = some (renderInput p input) := by
      have hresult := hplace place
      rw [heq, List.getElem?_map, hinput, Option.map_some, Option.map_eq_some_iff] at hresult
      obtain ⟨result, hresult, hheld⟩ := hresult
      by_cases hsteps : 2 ≤ schedule.count place
      · rw [Place.iterate_advance_of_two_le p input hsteps, Place.finished.injEq] at hheld
        exact ⟨hsteps, hheld ▸ hresult⟩
      · exact absurd hheld.symm (Place.iterate_advance_of_lt_two p input (not_le.1 hsteps) result)
    refine ⟨fun place hlt ↦ (hfinished place _ (List.getElem?_eq_getElem hlt)).1, ?_⟩
    refine List.ext_getElem? fun place ↦ ?_
    rw [List.getElem?_map]
    cases hinput : inputs[place]? with
    | some input => exact (hfinished place input hinput).2
    | none =>
      have hresult := hplace place
      rw [heq, hinput, List.getElem?_map, Option.map_none, Option.map_eq_none_iff] at hresult
      exact hresult
  · rintro ⟨hcomplete, rfl⟩
    refine List.ext_getElem? fun place ↦ ?_
    rw [hplace, List.getElem?_map, List.getElem?_map, Option.map_map]
    cases hinput : inputs[place]? with
    | none => rfl
    | some input =>
      obtain ⟨hlt, -⟩ := List.getElem?_eq_some_iff.1 hinput
      exact congrArg some (Place.iterate_advance_of_two_le p input (hcomplete place hlt))

end Workroom

/-- A batch that is worked off together has ended exactly if every worker has taken both of its
steps, and what it leaves behind does not depend on their order. -/
theorem workTogether_eq_some {p : Pipeline} {inputs : List BatchInput} {schedule : List Nat}
    {account : Account} : workTogether p inputs schedule = some account ↔
      Workroom.IsComplete inputs schedule ∧ account = ⟨inputs.map (renderInput p),
        inputs.length.toUInt32, Tally.ofResults (inputs.map (renderInput p))⟩ := by
  rw [workTogether, Option.map_eq_some_iff]
  simp only [Place.mapM_result?_eq_some, Workroom.places_run_eq_iff]
  have htally (hcomplete : Workroom.IsComplete inputs schedule) :
      ((Workroom.ofInputs inputs).run p schedule).tally =
        Tally.ofResults (inputs.map (renderInput p)) := by
    rw [(Workroom.isTallied_ofInputs inputs).run p schedule,
      (Workroom.places_run_eq_iff p inputs schedule _).2 ⟨hcomplete, rfl⟩, List.filterMap_map]
    exact congrArg Tally.ofResults List.filterMap_some
  constructor
  · rintro ⟨results, ⟨hcomplete, rfl⟩, rfl⟩
    rw [htally hcomplete]
    exact ⟨hcomplete, rfl⟩
  · rintro ⟨hcomplete, rfl⟩
    refine ⟨_, ⟨hcomplete, rfl⟩, ?_⟩
    rw [htally hcomplete]

/-! ### In turn -/

theorem workFrom_eq (p : Pipeline) (inputs : List BatchInput) (results : List BatchResult) :
    workFrom p results (Tally.ofResults results) inputs =
      (results ++ untilFailure (inputs.map (renderInput p)),
        Tally.ofResults (results ++ untilFailure (inputs.map (renderInput p)))) := by
  induction inputs generalizing results with
  | nil => simp [workFrom, untilFailure]
  | cons input rest ih =>
    have hcount : (Tally.ofResults results).count (renderInput p input) =
        Tally.ofResults (results ++ [renderInput p input]) := by
      simpa using Tally.count_ofResults results [] (renderInput p input)
    rw [workFrom, List.map_cons, untilFailure, hcount]
    split_ifs with hfailure
    · rfl
    · rw [ih]
      simp

theorem workInTurn_eq (p : Pipeline) (inputs : List BatchInput) :
    workInTurn p inputs = ⟨untilFailure (inputs.map (renderInput p)), inputs.length.toUInt32,
      Tally.ofResults (untilFailure (inputs.map (renderInput p)))⟩ := by
  have hnone : ({} : Tally) = Tally.ofResults [] := rfl
  rw [workInTurn, hnone, workFrom_eq, List.nil_append]

/-! ### Agreement -/

theorem exists_isComplete (inputs : List BatchInput) (schedule : List Nat) :
    ∃ more, Workroom.IsComplete inputs (schedule ++ more) := by
  refine ⟨List.range inputs.length ++ List.range inputs.length, fun place hlt ↦ ?_⟩
  have hrange : (List.range inputs.length).count place = 1 :=
    List.count_eq_one_of_mem List.nodup_range (List.mem_range.2 hlt)
  rw [List.count_append, List.count_append, hrange]
  exact Nat.le_add_left 2 _

/-- What a batch leaves behind, without the counters. -/
def Account.report (account : Account) : BatchReport := ⟨account.results, account.total.toNat⟩

/-- Of fewer inputs than there are words, a batch that is worked off together gives the results of
the inputs in their order, whatever the order in which the workers take their steps, and one that is
worked off in turn gives those up to the first failure; the counters of both tell of their results.
A batch can be completed after any steps, and ends when every worker has taken both of its. The
result of an input depends on no other input, so that inputs chosen from a list in any order have
their results in that order. -/
theorem batches_agree (p : Pipeline) (inputs : List BatchInput)
    (hinputs : inputs.length < 2 ^ 32) :
    (∀ schedule, (workTogether p inputs schedule).isSome ↔ Workroom.IsComplete inputs schedule) ∧
    (∀ schedule, ∃ more, (workTogether p inputs (schedule ++ more)).isSome) ∧
    (∀ schedule account, workTogether p inputs schedule = some account →
      account.report = renderBatch p true inputs ∧ account.IsCounted inputs) ∧
    ((workInTurn p inputs).report = renderBatch p false inputs ∧
      (workInTurn p inputs).IsCounted inputs) ∧
    (∀ place : Nat, (renderBatch p true inputs).results[place]? =
      inputs[place]?.map (renderInput p)) ∧
    (∀ places : List Nat, (renderBatch p true (places.filterMap (inputs[·]?))).results =
      places.filterMap ((renderBatch p true inputs).results[·]?)) ∧
    (renderBatch p false inputs).results = (renderBatch p true inputs).results.take
      ((renderBatch p true inputs).results.findIdx (·.message?.isSome) + 1) := by
  have hends (schedule : List Nat) :
      (workTogether p inputs schedule).isSome ↔ Workroom.IsComplete inputs schedule := by
    rw [Option.isSome_iff_exists]
    simp only [workTogether_eq_some, exists_and_left, exists_eq, and_true]
  have htotal : inputs.length.toUInt32.toNat = inputs.length :=
    UInt32.toNat_ofNat_of_lt' hinputs
  refine ⟨hends, fun schedule ↦ ?_, fun schedule account haccount ↦ ?_, ?_, fun place ↦ ?_,
    fun places ↦ ?_, ?_⟩
  · obtain ⟨more, hmore⟩ := exists_isComplete inputs schedule
    exact ⟨more, (hends _).2 hmore⟩
  · obtain ⟨-, rfl⟩ := workTogether_eq_some.1 haccount
    refine ⟨?_, isCounted_ofResults hinputs (List.length_map _).le⟩
    rw [Account.report, htotal]
    rfl
  · have hlength : (untilFailure (inputs.map (renderInput p))).length ≤ inputs.length := by
      rw [untilFailure_eq_take]
      exact (List.length_take_le' _ _).trans (List.length_map _).le
    rw [workInTurn_eq]
    refine ⟨?_, isCounted_ofResults hinputs hlength⟩
    rw [Account.report, htotal]
    rfl
  · exact List.getElem?_map
  · simp only [renderBatch, ↓reduceIte, List.map_filterMap, List.getElem?_map]
  · simp only [BatchResult.isSome_message?]
    exact untilFailure_eq_take _

/-- Three inputs, the second of which could not be read. -/
def threeInputs : List BatchInput :=
  [⟨"first".toList, .ok "Hello".toList⟩, ⟨"second".toList, .error "gone".toList⟩,
    ⟨"third".toList, .ok "Hello".toList⟩]

theorem batches_agree_of_threeInputs :
    threeInputs.length < 2 ^ 32 ∧
      (∃ account, workTogether {} threeInputs [2, 0, 1, 1, 0, 2] = some account ∧
        account.report = renderBatch {} true threeInputs ∧ account.IsCounted threeInputs) ∧
      (workInTurn {} threeInputs).report = renderBatch {} false threeInputs := by
  have hinputs : threeInputs.length < 2 ^ 32 := by decide
  obtain ⟨hends, -, htogether, ⟨hturn, -⟩, -⟩ := batches_agree {} threeInputs hinputs
  have hcomplete : Workroom.IsComplete threeInputs [2, 0, 1, 1, 0, 2] := by
    rw [Workroom.IsComplete]
    decide
  obtain ⟨account, haccount⟩ := Option.isSome_iff_exists.1 ((hends _).2 hcomplete)
  exact ⟨hinputs, ⟨account, haccount, htogether _ account haccount⟩, hturn⟩

end Galley.Site
