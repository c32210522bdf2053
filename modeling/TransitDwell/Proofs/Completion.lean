import TransitDwell.Attempt

/-!
# Attempts complete or change nothing

An attempt goes through stages, any of which may end it. The conditions of the stages make a ladder
of facts about the request, what the sources answer and what is held: an attempt `Begins`, is
`Unanswered`, `Rated`, `Spaced`, and `Completes`. An attempt that stops short of the top does so at
a rung, which fixes its answer (`Stops`).

## What is proved

* What an ending is at each rung (`Begins.ending_eq` and so on).
* Every attempt stops at a rung or completes (`stops_or_completes`).
* One that stops leaves everything as it was; one that completes overwrites one filter error and
  one prediction, and answers with that prediction (`completes_or_changes_nothing`).
-/

namespace TransitDwell

/-! ### What is written -/

/-- One store differs from another by a value that was written at a key, whatever was there
before. -/
structure AgedStore.Overwrites {κ ν : Type} [DecidableEq κ] (after before : AgedStore κ ν)
    (now : Int) (k : κ) (v : ν) : Prop where
  /-- Values are answered for as long as before. -/
  retention : after.retention = before.retention
  /-- The value is there, and was written at this instant. -/
  here : after.rows.get? k = some ⟨v, now⟩
  /-- Everything else is as it was. -/
  elsewhere : ∀ j, j ≠ k → after.rows.get? j = before.rows.get? j

theorem AgedStore.overwrites_put {κ ν : Type} [DecidableEq κ] (s : AgedStore κ ν) (now : Int)
    (k : κ) (v : ν) : (s.put now k v).Overwrites s now k v where
  retention := rfl
  here := by rw [put, Keyed.get?_insert, if_pos rfl]
  elsewhere j hj := by rw [put, Keyed.get?_insert, if_neg hj]

/-! ### What is found -/

theorem Lookup.value?_eq_some {α : Type} {answer : Lookup α} {a : α} :
    answer.value? = some a ↔ answer = .ok (some a) := by
  cases answer with
  | ok held => simp
  | error failure => simp

theorem Lookup.value?_eq_none {α : Type} {answer : Lookup α} :
    answer.value? = none ↔ ∀ a, answer ≠ .ok (some a) := by
  simp only [Option.eq_none_iff_forall_ne_some, ne_eq, value?_eq_some]

namespace DwellConfig

variable {α : Type} [Scalar α] {c : DwellConfig α} {s : Sources α} {r : DwellRequest} {ts : Int}
  {rate : α} {headway : Int}

theorem rateFor_eq_some :
    c.rateFor s r ts = some rate ↔ s.rate r.route r.trip r.stop ts = .ok (some rate) ∨
      (∀ known, s.rate r.route r.trip r.stop ts ≠ .ok (some known)) ∧
        c.defaultRate = some rate := by
  rw [rateFor, Option.or_eq_some_iff, Lookup.value?_eq_some, Lookup.value?_eq_none]

theorem rateFor_eq_none :
    c.rateFor s r ts = none ↔
      (∀ known, s.rate r.route r.trip r.stop ts ≠ .ok (some known)) ∧ c.defaultRate = none := by
  rw [rateFor, Option.or_eq_none_iff, Lookup.value?_eq_none]

theorem headwayFor_eq_some :
    c.headwayFor s r ts = some headway ↔ ∃ ms, s.headway r.stop r.route ts = .ok (some ms) ∧
      headway = ms.tdiv msPerSecond ∧ headway ≤ c.maxHeadway := by
  simp only [headwayFor, Option.bind_eq_some_iff, Lookup.value?_eq_some,
    Option.ite_none_right_eq_some, Option.some.injEq]
  constructor
  · rintro ⟨ms, hms, hle, rfl⟩
    exact ⟨ms, hms, rfl, hle⟩
  · rintro ⟨ms, hms, rfl, hle⟩
    exact ⟨ms, hms, hle, rfl⟩

theorem headwayFor_eq_none :
    c.headwayFor s r ts = none ↔ ∀ ms, s.headway r.stop r.route ts = .ok (some ms) →
      c.maxHeadway < ms.tdiv msPerSecond := by
  rw [headwayFor, Option.bind_eq_none_iff]
  refine forall_congr' fun ms => ?_
  rw [Lookup.value?_eq_some]
  by_cases hle : ms.tdiv msPerSecond ≤ c.maxHeadway
  · simp [hle, Int.not_lt.mpr hle]
  · simp [hle, Int.not_le.mp hle]

end DwellConfig

namespace FilterStep

variable {α : Type} [Scalar α] {raw prior : α} {samples : List Int}

/-- With samples the filter takes a step. -/
theorem exists_run (raw prior : α) (h : samples ≠ []) :
    ∃ step, run raw samples prior = some step := by
  have hsome : samples.isEmpty = false := by simpa using h
  simp [run, mean, spread, hsome]

theorem error_eq {step : FilterStep α} (h : run raw samples prior = some step) :
    step.error = step.variance * step.loopGain :=
  (run_eq_some h).2.2.2.2.2

end FilterStep

namespace Ending

variable {α : Type} [Scalar α]

/-- The step of the filter, where it has run. -/
def step? : Ending α → Option (FilterStep α)
  | filtered _ _ step => some step
  | _ => none

/-- Without a step of the filter nothing is written. -/
theorem write_of_step?_eq_none {s : Sources α} {now : Int} {r : DwellRequest} {stores : Stores α}
    {ending : Ending α} (h : ending.step? = none) : ending.write s now r stores = stores := by
  cases ending with
  | filtered context daysAsked step => cases h
  | _ => rfl

end Ending

/-! ### The rungs -/

namespace Attempt

section Rungs

variable {α : Type} [Scalar α] (c : DwellConfig α) (s : Sources α) (now : Int) (stores : Stores α)
  (r : DwellRequest)

/-- The request is for a later stop of its trip, there are passenger counts, and the schedule gives
its context and, with the present deviation, the instant to ask about. -/
structure Begins (context : PredictionContext) (ts : Int) : Prop where
  /-- The stop is not the first. -/
  later : 0 < r.position
  /-- There are passenger counts. -/
  data : s.hasData = true
  /-- There is a scheduled arrival. -/
  scheduled : ∃ arrival, r.scheduledArrival = some arrival ∧
    context = ⟨r.trip, r.position, r.vehicle, c.bucketWidth.floor arrival⟩ ∧
    ts = arrival + r.deviation

/-- Also, no prediction is remembered for the context. -/
structure Unanswered (context : PredictionContext) (ts : Int) : Prop
    extends Begins c s r context ts where
  /-- What is held for the context, if anything, is no longer answered. -/
  fresh : stores.contexts.get? now context = none

/-- Also, there is a boarding rate. -/
structure Rated (context : PredictionContext) (ts : Int) (rate : α) : Prop
    extends Unanswered c s now stores r context ts where
  /-- The rate is known or, where none is, assumed. -/
  rated : s.rate r.route r.trip r.stop ts = .ok (some rate) ∨
    (∀ known, s.rate r.route r.trip r.stop ts ≠ .ok (some known)) ∧ c.defaultRate = some rate

/-- Also, there is a headway, and it is not too long to be one. -/
structure Spaced (context : PredictionContext) (ts : Int) (rate : α) (headway : Int) : Prop
    extends Rated c s now stores r context ts rate where
  /-- The headway is known, and taken in whole seconds. -/
  spaced : ∃ ms, s.headway r.stop r.route ts = .ok (some ms) ∧ headway = ms.tdiv msPerSecond ∧
    headway ≤ c.maxHeadway

/-- The historical dwells that are collected for an instant. -/
def collected (ts : Int) : List Int :=
  DaysBack.gather (DwellConfig.dwellBack s r ts) c.maxDays c.searchDays

/-- Also, enough historical dwells are collected. -/
structure Completes (context : PredictionContext) (ts : Int) (rate : α) (headway : Int) : Prop
    extends Spaced c s now stores r context ts rate headway where
  /-- There are as many as the filter needs. -/
  sampled : c.minDays ≤ (collected c s r ts).length

/-- What an attempt answers that stops at a rung. -/
inductive Stops : Outcome → Prop where
  /-- The stop is the first. -/
  | startOfTrip (first : r.position = 0) : Stops (.declined .startOfTrip)
  /-- There are no passenger counts. -/
  | noData (later : 0 < r.position) (lacking : s.hasData = false) : Stops (.declined .noData)
  /-- There is no scheduled arrival. -/
  | unscheduled (later : 0 < r.position) (data : s.hasData = true)
    (lacking : r.scheduledArrival = none) : Stops (.declined .unscheduled)
  /-- A prediction is remembered for the context. -/
  | remembered {context : PredictionContext} {ts value : Int} (begins : Begins c s r context ts)
    (held : stores.contexts.get? now context = some value) : Stops (.counted value)
  /-- No boarding rate is known or assumed. -/
  | noRate {context : PredictionContext} {ts : Int}
    (unanswered : Unanswered c s now stores r context ts)
    (lacking : ∀ known, s.rate r.route r.trip r.stop ts ≠ .ok (some known))
    (default : c.defaultRate = none) : Stops (.declined .noRate)
  /-- There is no headway, or only one that is too long. -/
  | noHeadway {context : PredictionContext} {ts : Int} {rate : α}
    (rated : Rated c s now stores r context ts rate)
    (lacking : ∀ ms, s.headway r.stop r.route ts = .ok (some ms) →
      c.maxHeadway < ms.tdiv msPerSecond) : Stops (.declined .noHeadway)
  /-- Too few historical dwells are collected. -/
  | tooFewDwells {context : PredictionContext} {ts : Int} {rate : α} {headway : Int}
    (spaced : Spaced c s now stores r context ts rate headway)
    (lacking : (collected c s r ts).length < c.minDays) :
    Stops (if c.allowEmptyDwell then .counted 0 else .declined .tooFewDwells)

end Rungs

/-! ### What an ending is at each rung -/

section Endings

variable {α : Type} [Scalar α] {c : DwellConfig α} {s : Sources α} {now : Int} {stores : Stores α}
  {r : DwellRequest} {context : PredictionContext} {ts : Int} {rate : α} {headway : Int}

theorem Begins.context?_eq (h : Begins c s r context ts) :
    r.context? c.bucketWidth = some context := by
  obtain ⟨arrival, harrival, rfl, -⟩ := h.scheduled
  rw [DwellRequest.context?, harrival, Option.map_some]

theorem Begins.adjustedArrival_eq (h : Begins c s r context ts) : r.adjustedArrival = some ts := by
  obtain ⟨arrival, harrival, -, rfl⟩ := h.scheduled
  rw [DwellRequest.adjustedArrival, harrival, Option.map_some]

theorem Begins.ending_eq (h : Begins c s r context ts) :
    c.ending s now stores r =
      match stores.contexts.get? now context with
      | some value => .remembered value
      | none =>
        match c.rateFor s r ts with
        | none => .noRate
        | some rate =>
          match c.headwayFor s r ts with
          | none => .noHeadway
          | some headway => c.endingWith s now stores r context ts rate headway := by
  have hstart : r.isStartOfTrip = false := decide_eq_false (Nat.pos_iff_ne_zero.mp h.later)
  rw [DwellConfig.ending, hstart, h.data, h.context?_eq, h.adjustedArrival_eq]
  rfl

theorem Unanswered.ending_eq (h : Unanswered c s now stores r context ts) :
    c.ending s now stores r =
      match c.rateFor s r ts with
      | none => .noRate
      | some rate =>
        match c.headwayFor s r ts with
        | none => .noHeadway
        | some headway => c.endingWith s now stores r context ts rate headway := by
  rw [h.toBegins.ending_eq, h.fresh]

theorem Rated.ending_eq (h : Rated c s now stores r context ts rate) :
    c.ending s now stores r =
      match c.headwayFor s r ts with
      | none => .noHeadway
      | some headway => c.endingWith s now stores r context ts rate headway := by
  rw [h.toUnanswered.ending_eq, DwellConfig.rateFor_eq_some.mpr h.rated]

theorem Spaced.ending_eq (h : Spaced c s now stores r context ts rate headway) :
    c.ending s now stores r = c.endingWith s now stores r context ts rate headway := by
  rw [h.toRated.ending_eq, DwellConfig.headwayFor_eq_some.mpr h.spaced]

theorem Completes.ending_eq_match (h : Completes c s now stores r context ts rate headway) :
    c.ending s now stores r =
      match FilterStep.run (c.rawDwellFor s r rate headway) (collected c s r ts)
        (c.priorFor s now stores r) with
      | none => .noSamples (DaysBack.asked (DwellConfig.dwellBack s r ts) c.maxDays c.searchDays)
      | some step =>
        .filtered context (DaysBack.asked (DwellConfig.dwellBack s r ts) c.maxDays c.searchDays)
          step := by
  rw [h.toSpaced.ending_eq, DwellConfig.endingWith]
  exact if_neg (Nat.not_lt.mpr h.sampled)

/-- The filter is never left without samples, as it is not run with fewer than one. -/
theorem Completes.ending_eq (h : Completes c s now stores r context ts rate headway)
    (hmin : 1 ≤ c.minDays) :
    ∃ daysAsked step, FilterStep.run (c.rawDwellFor s r rate headway) (collected c s r ts)
        (c.priorFor s now stores r) = some step ∧
      c.ending s now stores r = .filtered context daysAsked step := by
  have hsamples : collected c s r ts ≠ [] :=
    List.ne_nil_of_length_pos (Nat.lt_of_lt_of_le hmin h.sampled)
  obtain ⟨step, hstep⟩ := FilterStep.exists_run (c.rawDwellFor s r rate headway)
    (c.priorFor s now stores r) hsamples
  refine ⟨DaysBack.asked (DwellConfig.dwellBack s r ts) c.maxDays c.searchDays, step, hstep, ?_⟩
  rw [h.ending_eq_match, hstep]

/-! ### Stopping and completing -/

/-- Every attempt stops at a rung or completes. -/
theorem stops_or_completes (c : DwellConfig α) (s : Sources α) (now : Int) (stores : Stores α)
    (r : DwellRequest) :
    (∃ answer, Stops c s now stores r answer) ∨
      ∃ context ts rate headway, Completes c s now stores r context ts rate headway := by
  rcases Nat.eq_zero_or_pos r.position with hfirst | hlater
  · exact .inl ⟨_, .startOfTrip hfirst⟩
  rcases hdata : s.hasData with _ | _
  · exact .inl ⟨_, .noData hlater hdata⟩
  rcases harrival : r.scheduledArrival with _ | arrival
  · exact .inl ⟨_, .unscheduled hlater hdata harrival⟩
  obtain ⟨context, ts, hbegins⟩ : ∃ context ts, Begins c s r context ts :=
    ⟨_, _, hlater, hdata, arrival, harrival, rfl, rfl⟩
  by_cases hheld : ∃ value, stores.contexts.get? now context = some value
  · obtain ⟨value, hheld⟩ := hheld
    exact .inl ⟨_, .remembered hbegins hheld⟩
  have hunanswered : Unanswered c s now stores r context ts :=
    ⟨hbegins, Option.eq_none_iff_forall_ne_some.mpr fun value h => hheld ⟨value, h⟩⟩
  rcases hrate : c.rateFor s r ts with _ | rate
  · obtain ⟨hlacking, hdefault⟩ := DwellConfig.rateFor_eq_none.mp hrate
    exact .inl ⟨_, .noRate hunanswered hlacking hdefault⟩
  have hrated : Rated c s now stores r context ts rate :=
    ⟨hunanswered, DwellConfig.rateFor_eq_some.mp hrate⟩
  rcases hheadway : c.headwayFor s r ts with _ | headway
  · exact .inl ⟨_, .noHeadway hrated (DwellConfig.headwayFor_eq_none.mp hheadway)⟩
  have hspaced : Spaced c s now stores r context ts rate headway :=
    ⟨hrated, DwellConfig.headwayFor_eq_some.mp hheadway⟩
  rcases Nat.lt_or_ge (collected c s r ts).length c.minDays with hfew | hmany
  · exact .inl ⟨_, .tooFewDwells hspaced hfew⟩
  · exact .inr ⟨context, ts, rate, headway, hspaced, hmany⟩

/-- An attempt that stops does so without a step of the filter, and with the answer of its rung. -/
theorem Stops.exists_ending {answer : Outcome} (h : Stops c s now stores r answer) :
    ∃ ending, c.ending s now stores r = ending ∧ ending.outcome c.allowEmptyDwell = answer ∧
      ending.step? = none := by
  cases h with
  | startOfTrip hfirst =>
    exact ⟨.startOfTrip, by simp [DwellConfig.ending, DwellRequest.isStartOfTrip, hfirst], rfl, rfl⟩
  | noData hlater hlacking =>
    have hne := Nat.pos_iff_ne_zero.mp hlater
    exact ⟨.noData, by simp [DwellConfig.ending, DwellRequest.isStartOfTrip, hne, hlacking], rfl,
      rfl⟩
  | unscheduled hlater hdata hlacking =>
    have hne := Nat.pos_iff_ne_zero.mp hlater
    refine ⟨.unscheduled, ?_, rfl, rfl⟩
    simp [DwellConfig.ending, DwellRequest.isStartOfTrip, DwellRequest.context?, hne, hdata,
      hlacking]
  | remembered hbegins hheld => exact ⟨.remembered _, by rw [hbegins.ending_eq, hheld], rfl, rfl⟩
  | noRate hunanswered hlacking hdefault =>
    refine ⟨.noRate, ?_, rfl, rfl⟩
    rw [hunanswered.ending_eq, DwellConfig.rateFor_eq_none.mpr ⟨hlacking, hdefault⟩]
  | noHeadway hrated hlacking =>
    refine ⟨.noHeadway, ?_, rfl, rfl⟩
    rw [hrated.ending_eq, DwellConfig.headwayFor_eq_none.mpr hlacking]
  | tooFewDwells hspaced hlacking =>
    obtain ⟨daysAsked, hending⟩ : ∃ daysAsked, c.ending s now stores r = .tooFewDwells daysAsked :=
      ⟨_, by rw [hspaced.ending_eq, DwellConfig.endingWith]; exact if_pos hlacking⟩
    exact ⟨.tooFewDwells daysAsked, hending, rfl, rfl⟩

/-- An attempt that stops gives the answer of its rung and leaves what is held as it was. -/
theorem Stops.make_eq {answer : Outcome} (h : Stops c s now stores r answer) :
    (make c s now stores r).outcome = answer ∧ (make c s now stores r).stores = stores := by
  obtain ⟨ending, hending, houtcome, hstep⟩ := h.exists_ending
  simp only [make, hending]
  exact ⟨houtcome, Ending.write_of_step?_eq_none hstep⟩

/-- An attempt that completes overwrites one filter error, unless it cannot be written, and one
prediction, with which it answers. -/
theorem Completes.make_eq (h : Completes c s now stores r context ts rate headway)
    (hmin : 1 ≤ c.minDays) :
    ∃ step, FilterStep.run (c.rawDwellFor s r rate headway) (collected c s r ts)
        (c.priorFor s now stores r) = some step ∧
      (if s.writeFails r.filterKey then
        (make c s now stores r).stores.filterErrors = stores.filterErrors
      else (make c s now stores r).stores.filterErrors.Overwrites stores.filterErrors now
        r.filterKey (step.variance * step.loopGain)) ∧
      (make c s now stores r).stores.contexts.Overwrites stores.contexts now context
        (Scalar.truncate step.prediction) ∧
      (make c s now stores r).outcome = .counted (Scalar.truncate step.prediction) := by
  obtain ⟨daysAsked, step, hstep, hending⟩ := h.ending_eq hmin
  refine ⟨step, hstep, ?_, ?_, ?_⟩
  · simp only [make, hending, Ending.write, ← FilterStep.error_eq hstep]
    by_cases hfails : s.writeFails r.filterKey = true
    · rw [if_pos hfails, if_pos hfails]
    · rw [if_neg hfails, if_neg hfails]
      exact stores.filterErrors.overwrites_put now r.filterKey step.error
  · simp only [make, hending, Ending.write]
    exact stores.contexts.overwrites_put now context (Ending.valueOf step)
  · simp only [make, hending]
    rfl

end Endings

end Attempt

/-! ### Endings that do not arise -/

/-- An attempt that stops has not come to the filter, and says that it is at the start of a trip
only there. -/
theorem Attempt.Stops.answer_ne {α : Type} [Scalar α] {c : DwellConfig α} {s : Sources α}
    {now : Int} {stores : Stores α} {r : DwellRequest} {answer : Outcome}
    (h : Stops c s now stores r answer) :
    answer ≠ .declined .noSamples ∧ (answer = .declined .startOfTrip → r.position = 0) := by
  cases h with
  | startOfTrip first => exact ⟨nofun, fun _ => first⟩
  | tooFewDwells => split <;> exact ⟨nofun, nofun⟩
  | _ => exact ⟨nofun, nofun⟩

namespace DwellConfig

variable {α : Type} [Scalar α] (c : DwellConfig α) (s : Sources α) (now : Int) (stores : Stores α)
  (r : DwellRequest)

/-- The filter is not left without samples where it needs at least one. -/
theorem ending_ne_noSamples (hmin : 1 ≤ c.minDays) (daysAsked : Nat) :
    c.ending s now stores r ≠ .noSamples daysAsked := by
  intro hending
  rcases Attempt.stops_or_completes c s now stores r with
    ⟨answer, hstops⟩ | ⟨context, ts, rate, headway, hcompletes⟩
  · refine hstops.answer_ne.1 ?_
    rw [← hstops.make_eq.1, Attempt.make, hending]
    rfl
  · obtain ⟨days, step, -, hfiltered⟩ := hcompletes.ending_eq hmin
    rw [hending] at hfiltered
    cases hfiltered

end DwellConfig

/-! ### Main statement -/

namespace Attempt

/-- **An attempt completes or changes nothing.** Where it completes, the filter has run on the raw
dwell, the collected dwells and the prior error, and what is written is the new filter error at the
trip and position, and the prediction for the context, which is the answer. Where it does not,
nothing is written, and the answer is that of the rung where it stops. -/
theorem completes_or_changes_nothing {α : Type} [Scalar α] {c : DwellConfig α}
    (hmin : 1 ≤ c.minDays) (s : Sources α) (now : Int) (stores : Stores α) (r : DwellRequest) :
    (∀ context ts rate headway, Completes c s now stores r context ts rate headway →
      ∃ step, FilterStep.run (c.rawDwellFor s r rate headway) (collected c s r ts)
          (c.priorFor s now stores r) = some step ∧
        (if s.writeFails r.filterKey then
          (make c s now stores r).stores.filterErrors = stores.filterErrors
        else (make c s now stores r).stores.filterErrors.Overwrites stores.filterErrors now
          r.filterKey (step.variance * step.loopGain)) ∧
        (make c s now stores r).stores.contexts.Overwrites stores.contexts now context
          (Scalar.truncate step.prediction) ∧
        (make c s now stores r).outcome = .counted (Scalar.truncate step.prediction)) ∧
    ((¬ ∃ context ts rate headway, Completes c s now stores r context ts rate headway) →
      (make c s now stores r).stores = stores ∧
        Stops c s now stores r (make c s now stores r).outcome) := by
  constructor
  · intro context ts rate headway h
    exact h.make_eq hmin
  · intro hnone
    obtain ⟨answer, hstops⟩ := (stops_or_completes c s now stores r).resolve_right hnone
    obtain ⟨houtcome, hstores⟩ := hstops.make_eq
    exact ⟨hstores, houtcome ▸ hstops⟩

/-- Sources that have the same to say of every stop and every day, but know no vehicle. -/
def steadySources : Sources Rat where
  hasData := true
  rate _ _ _ _ := .ok (some 0.125)
  headway _ _ _ := .ok (some 600999)
  doors _ := .error (.unavailable "no vehicles")
  dwell _ _ _ := .ok (some 20000)

/-- The second stop of a trip, five minutes and ten seconds after midnight. -/
def steadyRequest : DwellRequest := ⟨"t", "r", "pier", 1, "1", some 310000, 60000, none, none⟩

/-- With default settings an attempt completes from steady sources. -/
theorem steadyRequest_completes :
    1 ≤ ({} : DwellConfig Rat).minDays ∧
      ∃ step, FilterStep.run
          (({} : DwellConfig Rat).rawDwellFor steadySources steadyRequest 0.125 600)
          (collected {} steadySources steadyRequest 370000)
          (({} : DwellConfig Rat).priorFor steadySources 7 (.empty 0) steadyRequest) = some step ∧
        (if steadySources.writeFails ⟨"t", 1⟩ then
          (make {} steadySources 7 (.empty 0) steadyRequest).stores.filterErrors = .empty 0
        else
          (make {} steadySources 7 (.empty 0) steadyRequest).stores.filterErrors.Overwrites
            (.empty 0) 7 ⟨"t", 1⟩ (step.variance * step.loopGain)) ∧
        (make {} steadySources 7 (.empty 0) steadyRequest).stores.contexts.Overwrites
          (.empty 0) 7 ⟨"t", 1, "1", 300000⟩ (Scalar.truncate step.prediction) ∧
        (make {} steadySources 7 (.empty 0) steadyRequest).outcome =
          .counted (Scalar.truncate step.prediction) := by
  refine ⟨by decide, (completes_or_changes_nothing (by decide) steadySources 7 (.empty 0)
    steadyRequest).1 ⟨"t", 1, "1", 300000⟩ 370000 0.125 600 ?_⟩
  exact {
    later := by decide
    data := rfl
    scheduled := ⟨310000, rfl, by decide, rfl⟩
    fresh := rfl
    rated := .inl rfl
    spaced := ⟨600999, rfl, by decide, by decide⟩
    sampled := by decide }

end Attempt

end TransitDwell
