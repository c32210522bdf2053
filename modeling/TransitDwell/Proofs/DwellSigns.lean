import TransitDwell.Proofs.BoardingBounds
import TransitDwell.Proofs.DailySums
import TransitDwell.Proofs.EarlierDays
import TransitDwell.Proofs.ServiceRun

/-!
# Predicted dwells are not negative

Everything that a prediction is made of has a sign. A headway goes back to an earlier arrival, and a
dwell forward to a later departure; a rate is a quotient of counts and headways; and the filter
mixes the raw dwell with the mean of the samples. What the settings add to this must not be negative
either. Some of it is checked (`DwellConfig.isValid_iff`): the initial filter error and the seconds
per boarding. The constant, the door factors and the assumed boarding rate are not.

## What is proved

* What attempts keep and answer is not negative, if the settings and what the sources say are not
  (`Attempt.make_nonneg`).
* With a configuration that passes every check, and where the three settings that are not checked
  are not negative, no run of a service predicts a negative dwell from passenger counts:
  `predicted_dwells_nonneg`.
* Each of the three settings, if it alone is negative, passes every check and may make a predicted
  dwell negative (`unchecked_settings_predict_negative_dwells`).
-/

namespace TransitDwell

/-! ### Signs of what is read off the events -/

theorem Scalar.truncate_nonneg {x : ℚ} (h : 0 ≤ x) : 0 ≤ truncate x :=
  calc (0 : Int) = truncate (0 : ℚ) := rfl
    _ ≤ truncate x := truncate_mono h

theorem meanWhole_nonneg {xs : List Int} (h : ∀ x ∈ xs, 0 ≤ x) {mean : Int}
    (hmean : meanWhole xs = some mean) : 0 ≤ mean := by
  unfold meanWhole at hmean
  split at hmean
  · cases hmean
  · rw [← Option.some.inj hmean]
    exact Int.tdiv_nonneg (List.sum_nonneg h) (Int.natCast_nonneg _)

theorem DailyTotals.rate_nonneg {t : DailyTotals ℚ} {rate : ℚ} (h : t.rate = some rate) :
    0 ≤ rate := by
  rw [rate_rat, Option.ite_none_right_eq_some] at h
  obtain ⟨hpos, hrate⟩ := h
  rw [← Option.some.inj hrate]
  exact div_nonneg (Nat.cast_nonneg _) hpos.le

namespace PassengerHistory

variable {events : EventStore} {now ts : Int} {stop route : String}

theorem dwellOn_nonneg {retention : Int} {zone : Zone} {log : List StopEvent}
    (hholds : events.Holds retention zone log) {dwell : Int}
    (h : dwellOn events now route stop ts = some dwell) : 0 ≤ dwell :=
  meanWhole_nonneg (StopEvent.dwells_nonneg (hholds.sortedFrom_get now _).ordered route)
    (dwellOn_eq_some h)

theorem rateBefore_nonneg {history : PassengerHistory ℚ} {rate : ℚ}
    (h : history.rateBefore events route stop ts = some rate) : 0 ≤ rate := by
  obtain ⟨back, total, -, -, -, hrate⟩ := rateBefore_eq_some h
  exact DailyTotals.rate_nonneg hrate

end PassengerHistory

/-! ### Attempts -/

/-- What is answered is the value of a row. -/
theorem AgedStore.exists_row_of_get? {κ ν : Type} [DecidableEq κ] {s : AgedStore κ ν} {now : Int}
    {k : κ} {v : ν} (h : s.get? now k = some v) : ∃ d, s.rows.get? k = some d ∧ d.value = v := by
  unfold get? at h
  split at h
  · next d hd =>
    rw [Option.ite_none_right_eq_some] at h
    exact ⟨d, hd, Option.some.inj h.2⟩
  · cases h

/-- Nothing that attempts keep is negative. -/
structure Stores.Nonneg (stores : Stores ℚ) : Prop where
  /-- No filter error is negative. -/
  filterErrors : stores.filterErrors.rows.Each fun _ d => 0 ≤ d.value
  /-- No remembered prediction is negative. -/
  contexts : stores.contexts.rows.Each fun _ d => 0 ≤ d.value

/-- Nothing that an attempt is told is negative. -/
structure Sources.Nonneg (s : Sources ℚ) : Prop where
  /-- No boarding rate is negative. -/
  rate : ∀ {route trip stop ts rate}, s.rate route trip stop ts = .ok (some rate) → 0 ≤ rate
  /-- No headway is negative. -/
  headway : ∀ {stop route ts ms}, s.headway stop route ts = .ok (some ms) → 0 ≤ ms
  /-- No dwell is negative. -/
  dwell : ∀ {route stop ts ms}, s.dwell route stop ts = .ok (some ms) → 0 ≤ ms
  /-- No filter error is negative, if none is that the store holds. -/
  readError : ∀ {key held error}, (∀ e ∈ held, 0 ≤ e) →
    s.readError key held = .ok (some error) → 0 ≤ error

/-- No setting that goes into a prediction is negative. -/
structure DwellConfig.Nonneg (c : DwellConfig ℚ) : Prop extends c.BoardingNonneg where
  /-- The boarding rate that is assumed, if there is one, is not negative. -/
  defaultRate : ∀ rate ∈ c.defaultRate, 0 ≤ rate
  /-- The initial filter error is not negative. -/
  initialError : 0 ≤ c.initialError

section Attempts

variable {c : DwellConfig ℚ} {s : Sources ℚ} {now : Int} {stores : Stores ℚ} {r : DwellRequest}

theorem DwellConfig.priorFor_nonneg (hc : c.Nonneg) (hs : s.Nonneg) (hstores : stores.Nonneg) :
    0 ≤ c.priorFor s now stores r := by
  unfold priorFor
  cases hread : (s.readError r.filterKey (stores.filterErrors.get? now r.filterKey)).value? with
  | none => exact hc.initialError
  | some error =>
    refine hs.readError (fun held hheld => ?_) (Lookup.value?_eq_some.mp hread)
    obtain ⟨d, hd, rfl⟩ := AgedStore.exists_row_of_get? hheld
    exact hstores.filterErrors _ d hd

namespace Attempt

theorem collected_nonneg (c : DwellConfig ℚ) (hs : s.Nonneg) (ts : Int) :
    ∀ dwell ∈ collected c s r ts, 0 ≤ dwell := by
  intro dwell hdwell
  rw [collected, DaysBack.gather_eq_take] at hdwell
  obtain ⟨back, -, hback⟩ := List.mem_filterMap.mp (List.mem_of_mem_take hdwell)
  exact hs.dwell (Lookup.value?_eq_some.mp hback)

theorem Spaced.rawDwellFor_nonneg {context : PredictionContext} {ts headway : Int} {rate : ℚ}
    (h : Spaced c s now stores r context ts rate headway) (hc : c.Nonneg) (hs : s.Nonneg) :
    0 ≤ c.rawDwellFor s r rate headway := by
  have hrate : 0 ≤ rate := by
    rcases h.rated with hknown | ⟨-, hdefault⟩
    · exact hs.rate hknown
    · exact hc.defaultRate rate hdefault
  have hheadway : 0 ≤ headway := by
    obtain ⟨ms, hms, rfl, -⟩ := h.spaced
    exact Int.tdiv_nonneg (hs.headway hms) (by decide)
  exact hc.rawDwell_nonneg hrate (Int.cast_nonneg hheadway) r.boardingType _

end Attempt

theorem FilterStep.mean_nonneg {samples : List Int} (h : ∀ x ∈ samples, 0 ≤ x) {average : ℚ}
    (haverage : mean samples = some average) : 0 ≤ average := by
  unfold mean at haverage
  split at haverage
  · cases haverage
  · rw [← Option.some.inj haverage, Scalar.sum_rat]
    refine div_nonneg (List.sum_nonneg fun x hx => ?_) (Int.cast_nonneg (Int.natCast_nonneg _))
    obtain ⟨sample, hsample, rfl⟩ := List.mem_map.mp hx
    exact Int.cast_nonneg (h sample hsample)

/-- A step of the filter on numbers that are not negative is made of such numbers. -/
theorem FilterStep.prediction_nonneg {raw prior : ℚ} {samples : List Int} {step : FilterStep ℚ}
    (hraw : 0 ≤ raw) (hsamples : ∀ x ∈ samples, 0 ≤ x) (hprior : 0 ≤ prior)
    (h : run raw samples prior = some step) : 0 ≤ step.prediction := by
  have hbounded := bounded hprior h
  exact (le_min hraw (mean_nonneg hsamples hbounded.average)).trans hbounded.le_prediction

theorem Attempt.Stops.answer_nonneg {answer : Outcome} (h : Stops c s now stores r answer)
    (hstores : stores.Nonneg) {value : Int} (hvalue : answer = .counted value) : 0 ≤ value := by
  cases h with
  | remembered _ hheld =>
    cases hvalue
    obtain ⟨d, hd, rfl⟩ := AgedStore.exists_row_of_get? hheld
    exact hstores.contexts _ d hd
  | tooFewDwells =>
    split at hvalue <;> cases hvalue
    exact Int.le_refl 0
  | _ => cases hvalue

/-- Attempts keep and answer nothing that is negative. -/
theorem Attempt.make_nonneg (hc : c.Nonneg) (hs : s.Nonneg) (hstores : stores.Nonneg) :
    (make c s now stores r).stores.Nonneg ∧
      ∀ value, (make c s now stores r).outcome = .counted value → 0 ≤ value := by
  rcases stops_or_completes c s now stores r with
    ⟨answer, hstops⟩ | ⟨context, ts, rate, headway, hcompletes⟩
  · obtain ⟨houtcome, hsame⟩ := hstops.make_eq
    rw [houtcome, hsame]
    exact ⟨hstores, fun value => hstops.answer_nonneg hstores⟩
  · have hending := hcompletes.ending_eq_match
    split at hending
    · simp only [make, hending, Ending.write, Ending.outcome]
      exact ⟨hstores, fun value hvalue => by cases hvalue⟩
    · next step hstep =>
      have hprior : 0 ≤ c.priorFor s now stores r := c.priorFor_nonneg hc hs hstores
      have hvalue : 0 ≤ Ending.valueOf step := Scalar.truncate_nonneg
        (FilterStep.prediction_nonneg (hcompletes.rawDwellFor_nonneg hc hs)
          (collected_nonneg c hs ts) hprior hstep)
      simp only [make, hending, Ending.write, Ending.outcome]
      refine ⟨⟨?_, hstores.contexts.insert hvalue⟩, fun value hcounted => ?_⟩
      · split
        · exact hstores.filterErrors
        · exact hstores.filterErrors.insert (FilterStep.bounded hprior hstep).error_nonneg
      · cases hcounted
        exact hvalue

end Attempts

/-! ### Services -/

namespace Service

variable {c : DwellConfig ℚ} {s : Service ℚ}

/-- Nothing that a service tells its attempts is negative. -/
theorem sources_nonneg {retention : Int} {zone : Zone} {log : List StopEvent}
    (hholds : s.events.Holds retention zone log) (now : Int) : (s.sources now).Nonneg where
  rate h := PassengerHistory.rateBefore_nonneg (Except.ok.inj h)
  headway h := (PassengerHistory.lastHeadway_pos (Except.ok.inj h)).le
  dwell h := PassengerHistory.dwellOn_nonneg hholds (Except.ok.inj h)
  readError hheld h := hheld _ (Except.ok.inj h)

/-- What holds of a service over every run: the settings are as they were, the event store holds a
log, and nothing that attempts have kept is negative. -/
structure Signed (c : DwellConfig ℚ) (s : Service ℚ) : Prop where
  /-- The settings are as they were. -/
  config : s.config = c
  /-- The event store holds a log. -/
  events : ∃ log, s.events.Holds c.retentionMs c.zone log
  /-- Nothing that attempts have kept is negative. -/
  stores : s.stores.Nonneg

theorem signed_new (c : DwellConfig ℚ) : Signed c (new c) where
  config := rfl
  events := ⟨[], EventStore.holds_empty _ _⟩
  stores := ⟨.empty, .empty⟩

theorem Signed.attempt_nonneg (h : Signed c s) (hc : c.Nonneg) (now : Int) (r : DwellRequest) :
    let attempt := Attempt.make s.config (s.sources now) now s.stores r
    attempt.stores.Nonneg ∧ ∀ value, attempt.outcome = .counted value → 0 ≤ value := by
  obtain ⟨log, hholds⟩ := h.events
  exact Attempt.make_nonneg (h.config ▸ hc) (sources_nonneg hholds now) h.stores

theorem Signed.act (h : Signed c s) (hc : c.Nonneg) (action : Int × Action) :
    Signed c (s.act action).2 := by
  refine ⟨(act_config s action).trans h.config, act_events_hold h.events action, ?_⟩
  rcases s.act_stores action with hsame | hswept | ⟨r, hmade⟩
  · rw [hsame]
    exact h.stores
  · rw [hswept]
    exact ⟨h.stores.filterErrors.filter _, h.stores.contexts.filter _⟩
  · rw [hmade]
    exact (h.attempt_nonneg hc action.1 r).1

theorem Signed.predict_nonneg (h : Signed c s) (hc : c.Nonneg) {now value : Int}
    {r : DwellRequest} (hvalue : (s.predict now r).1 = ⟨value, .passengerCounts⟩) : 0 ≤ value := by
  rw [predict_fst] at hvalue
  split at hvalue
  · next prediction houtcome =>
    subst hvalue
    exact (h.attempt_nonneg hc now r).2 value houtcome
  · cases hvalue

end Service

/-- **Predicted dwells are not negative.** Take a configuration that passes every check, and in
which the constant, the door factors and the assumed boarding rate, which are not checked, are not
negative. Whatever is done with a service that is set up with it, at any instants, no dwell that is
predicted from passenger counts is negative. -/
theorem predicted_dwells_nonneg {c : DwellConfig ℚ} (hvalid : c.isValid = true)
    (hconstant : 0 ≤ c.boardingConstant)
    (hfactors : ∀ m ∈ c.doorFactors, ∀ row ∈ m.rows, ∀ factor ∈ row, 0 ≤ factor)
    (hrate : ∀ rate ∈ c.defaultRate, 0 ≤ rate) (actions : List (Int × Service.Action)) {value : Int}
    (h : .predicted ⟨value, .passengerCounts⟩ ∈ Run.answers Service.act (Service.new c) actions) :
    0 ≤ value := by
  have hc : c.Nonneg :=
    { DwellConfig.boardingNonneg_of_isValid hvalid hconstant hfactors with
      defaultRate := hrate
      initialError := Scalar.isSize_rat.mp (c.isValid_iff.mp hvalid).2.2.2.1 }
  obtain ⟨before, ⟨now, action⟩, later, -, hanswer⟩ := (Run.mem_answers_iff Service.act).mp h
  have hbefore : Service.Signed c (Run.after Service.act (Service.new c) before) :=
    Run.invariant (fun s action hs => hs.act hc action) (Service.signed_new c) before
  cases action with
  | predict r => exact hbefore.predict_nonneg hc (Service.Reply.predicted.inj hanswer).symm
  | _ => cases hanswer

namespace Service

/-- Two historical dwells are enough for the filter, which begins without an error. Boarding takes
four seconds for each passenger, and opening and closing the doors takes a hundred. -/
def wharfConfig : DwellConfig ℚ :=
  { zone := .utc, minDays := 2, initialError := 0, boardingConstant := 100,
    secondsPerBoarding := [4], doorFactors := some ⟨[[1, 1]]⟩, defaultRate := some 0.0078125 }

/-- A ferry lies at a wharf for ten seconds on the first day and for thirty on the second. On the
third it has come and is counted, and the doors of another are told. -/
def threeDaysAtWharf : List (Int × Action) :=
  [(0, .ingestEvent ⟨"1", "wharf", "t", "r", 0, true, 0⟩),
    (10000, .ingestEvent ⟨"1", "wharf", "t", "r", 10000, false, 0⟩),
    (86400000, .ingestEvent ⟨"1", "wharf", "t", "r", 86400000, true, 0⟩),
    (86430000, .ingestEvent ⟨"1", "wharf", "t", "r", 86430000, false, 0⟩),
    (172800000, .ingestEvent ⟨"1", "wharf", "t", "r", 172800000, true, 0⟩),
    (172800000, .ingestCounts .entered
      [⟨"1", 172800000, 3, 0, none, none⟩, ⟨"2", 172800000, 0, 0, some 1, none⟩])]

/-- The other is due at the wharf. -/
def wharfApproach : DwellRequest :=
  ⟨"t2", "r", "wharf", 1, "2", some 173440000, 0, some 0, none⟩

/-- It is predicted to stay for more than five minutes. -/
theorem wharfApproach_nonneg :
    wharfConfig.isValid = true ∧ 0 ≤ wharfConfig.boardingConstant ∧
      .predicted ⟨310000, .passengerCounts⟩ ∈ Run.answers act (new wharfConfig)
        (threeDaysAtWharf ++ [(173440000, .predict wharfApproach)]) ∧
      (0 : Int) ≤ 310000 := by
  have hvalid : wharfConfig.isValid = true := by decide +kernel
  have hconstant : 0 ≤ wharfConfig.boardingConstant := by decide
  have hfactors : ∀ m ∈ wharfConfig.doorFactors, ∀ row ∈ m.rows, ∀ factor ∈ row, 0 ≤ factor := by
    decide
  have hrate : ∀ rate ∈ wharfConfig.defaultRate, 0 ≤ rate := by decide +kernel
  have hanswer : ((Run.after act (new wharfConfig) threeDaysAtWharf).predict 173440000
      wharfApproach).1 = ⟨310000, .passengerCounts⟩ := by decide +kernel
  have hmem : .predicted ⟨310000, .passengerCounts⟩ ∈ Run.answers act (new wharfConfig)
      (threeDaysAtWharf ++ [(173440000, .predict wharfApproach)]) :=
    (Run.mem_answers_iff act).mpr ⟨threeDaysAtWharf, _, [], rfl, by rw [act, hanswer]⟩
  exact ⟨hvalid, hconstant, hmem,
    predicted_dwells_nonneg hvalid hconstant hfactors hrate _ hmem⟩

/-- A negative constant, a negative door factor and a negative assumed rate pass every check, and
with each of them a dwell that is predicted for it is negative. -/
theorem unchecked_settings_predict_negative_dwells :
    let answer := fun c : DwellConfig ℚ =>
      (c.isValid, ((afterRun c threeDaysAtWharf).predict 173440000 wharfApproach).1)
    answer { wharfConfig with boardingConstant := -100 } = (true, ⟨-190000, .passengerCounts⟩) ∧
      answer { wharfConfig with doorFactors := some ⟨[[1, -8]]⟩ } =
        (true, ⟨-140000, .passengerCounts⟩) ∧
      answer { wharfConfig with defaultRate := some (-0.03125) } =
        (true, ⟨-190000, .passengerCounts⟩) := by
  decide +kernel

end Service

end TransitDwell
