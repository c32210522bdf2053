import TransitDwell.Proofs.Completion
import TransitDwell.Proofs.FilterBounds
import TransitDwell.Proofs.Run

/-!
# The filter error over a run

The filter is recursive: the error that a step leaves is the prior error of the next step at the
same trip and position, as long as it is not past retention. Between the two the error lies in a
store that other places write to, that is swept, and that forgets. Here the store is watched under
a clock that only goes forwards, beside a plain list of the filter runs that were completed
(`FilterRun`), so that it can be said which run a prior error comes from.

Filter errors are held in memory, where reading and writing do not fail. Everything else that
attempts are told may be anything.

## What is proved

* `FilterWatch.Faithful` is what every action preserves: a reader of the store is shown, at a
  place, the error of the latest run there, unless it is past retention.
* A prior error is therefore never negative, and every step keeps to the bounds of
  `FilterStep.Bounded`: `filter_state_invariant`.
-/

namespace TransitDwell

/-! ### Completed runs -/

/-- A run of the filter that was completed. -/
structure FilterRun (α : Type) where
  /-- When it was. -/
  time : Int
  /-- Where it was. -/
  key : FilterKey
  /-- The raw dwell. -/
  raw : α
  /-- The historical dwells. -/
  samples : List Int
  /-- The prior error. -/
  prior : α
  /-- What the step came to. -/
  step : FilterStep α

namespace FilterRun

variable {α : Type}

/-- The latest run at a place, among runs in their order. -/
def latest? (runs : List (FilterRun α)) (key : FilterKey) : Option (FilterRun α) :=
  runs.reverse.find? fun run => run.key = key

theorem latest?_snoc (runs : List (FilterRun α)) (run : FilterRun α) (key : FilterKey) :
    latest? (runs ++ [run]) key = if run.key = key then some run else latest? runs key := by
  by_cases h : run.key = key <;> simp [latest?, h]

theorem mem_of_latest? {runs : List (FilterRun α)} {key : FilterKey} {run : FilterRun α}
    (h : latest? runs key = some run) : run ∈ runs ∧ run.key = key := by
  refine ⟨List.mem_reverse.mp (List.mem_of_find?_eq_some h), ?_⟩
  simpa using List.find?_some h

variable [Scalar α]

/-- The prior error that runs leave for a place at an instant: the error of the latest of them
there, if it is at most the retention old, and otherwise the initial one. -/
def priorAfter (c : DwellConfig α) (runs : List (FilterRun α)) (now : Int) (key : FilterKey) : α :=
  match latest? runs key with
  | some run => if now - run.time ≤ c.retentionMs then run.step.error else c.initialError
  | none => c.initialError

/-- The run of the filter in an attempt, if the attempt completes one. -/
def ofAttempt? (c : DwellConfig α) (s : Sources α) (now : Int) (stores : Stores α)
    (r : DwellRequest) : Option (FilterRun α) := do
  let step ← (c.ending s now stores r).step?
  let ts ← r.adjustedArrival
  let rate ← c.rateFor s r ts
  let headway ← c.headwayFor s r ts
  return {
    time := now
    key := r.filterKey
    raw := c.rawDwellFor s r rate headway
    samples := Attempt.collected c s r ts
    prior := c.priorFor s now stores r
    step := step }

section OfAttempt

variable {c : DwellConfig α} {s : Sources α} {now : Int} {stores : Stores α} {r : DwellRequest}

/-- An attempt that stops has no run of the filter, and one that completes has one. -/
theorem ofAttempt?_of_stops {answer : Outcome} (h : Attempt.Stops c s now stores r answer) :
    ofAttempt? c s now stores r = none := by
  obtain ⟨ending, hending, -, hstep⟩ := h.exists_ending
  simp [ofAttempt?, hending, hstep]

theorem ofAttempt?_of_completes {context : PredictionContext} {ts : Int} {rate : α} {headway : Int}
    (h : Attempt.Completes c s now stores r context ts rate headway) (hmin : 1 ≤ c.minDays) :
    ∃ step, FilterStep.run (c.rawDwellFor s r rate headway) (Attempt.collected c s r ts)
        (c.priorFor s now stores r) = some step ∧
      ofAttempt? c s now stores r = some ⟨now, r.filterKey, c.rawDwellFor s r rate headway,
        Attempt.collected c s r ts, c.priorFor s now stores r, step⟩ := by
  obtain ⟨daysAsked, step, hstep, hending⟩ := h.ending_eq hmin
  obtain ⟨arrival, harrival, -, rfl⟩ := h.scheduled
  have hts : r.adjustedArrival = some (arrival + r.deviation) := by
    rw [DwellRequest.adjustedArrival, harrival, Option.map_some]
  refine ⟨step, hstep, ?_⟩
  simp [ofAttempt?, hending, Ending.step?, hts, DwellConfig.rateFor_eq_some.mpr h.rated,
    DwellConfig.headwayFor_eq_some.mpr h.spaced]

/-- What an attempt has to do with filter errors: nothing, or it completes a run of the filter with
the prior error at its place, and writes what this leaves. -/
theorem ofAttempt?_cases (hmin : 1 ≤ c.minDays) (s : Sources α) (now : Int) (stores : Stores α)
    (r : DwellRequest) (hwrites : s.writeFails r.filterKey = false) :
    (ofAttempt? c s now stores r = none ∧ (Attempt.make c s now stores r).stores = stores) ∨
      ∃ run, ofAttempt? c s now stores r = some run ∧ run.time = now ∧ run.key = r.filterKey ∧
        run.prior = c.priorFor s now stores r ∧
        FilterStep.run run.raw run.samples run.prior = some run.step ∧
        (Attempt.make c s now stores r).stores.filterErrors =
          stores.filterErrors.put now run.key run.step.error := by
  rcases Attempt.stops_or_completes c s now stores r with
    ⟨answer, hstops⟩ | ⟨context, ts, rate, headway, hcompletes⟩
  · exact .inl ⟨ofAttempt?_of_stops hstops, hstops.make_eq.2⟩
  · obtain ⟨step, hstep, hrun⟩ := ofAttempt?_of_completes hcompletes hmin
    obtain ⟨daysAsked, step', hstep', hending⟩ := hcompletes.ending_eq hmin
    obtain rfl : step = step' := Option.some.inj (hstep.symm.trans hstep')
    refine .inr ⟨_, hrun, rfl, rfl, rfl, hstep, ?_⟩
    simp [Attempt.make, hending, Ending.write, hwrites]

end OfAttempt

end FilterRun

/-! ### Watching the store -/

/-- Sources where filter errors are held in memory: what is held is read, and writing does not
fail. -/
def Sources.inMemory {α : Type} (s : Sources α) : Sources α :=
  { s with readError := fun _ held => .ok held, writeFails := fun _ => false }

/-- What attempts keep, under a clock, and the filter runs that were completed, in their order. -/
structure FilterWatch (α : Type) where
  /-- The present instant. -/
  clock : Int
  /-- What attempts keep. -/
  stores : Stores α
  /-- The completed runs. -/
  runs : List (FilterRun α)

namespace FilterWatch

variable {α : Type} [Scalar α]

/-- What may happen to the stores. -/
inductive Action (α : Type) where
  /-- Time goes by. -/
  | wait (ms : Nat)
  /-- A prediction is attempted, with facts from any sources. -/
  | attempt (s : Sources α) (r : DwellRequest)
  /-- Filter errors are swept. -/
  | evictErrors
  /-- Predictions are swept. -/
  | evictContexts

/-- At an instant, before any filter error is held. -/
def start (c : DwellConfig α) (clock : Int) (contexts : AgedStore PredictionContext Int) :
    FilterWatch α :=
  ⟨clock, ⟨.empty c.retentionMs, contexts⟩, []⟩

/-- Carries out an action. An attempt is answered with its outcome. -/
def act (c : DwellConfig α) (w : FilterWatch α) : Action α → Option Outcome × FilterWatch α
  | .wait ms => (none, { w with clock := w.clock + ms })
  | .attempt s r =>
    let attempt := Attempt.make c s.inMemory w.clock w.stores r
    (some attempt.outcome,
      { w with
        stores := attempt.stores
        runs := w.runs ++ (FilterRun.ofAttempt? c s.inMemory w.clock w.stores r).toList })
  | .evictErrors =>
    (none,
      { w with
        stores := { w.stores with filterErrors := (w.stores.filterErrors.evict w.clock).2 } })
  | .evictContexts =>
    (none, { w with stores := { w.stores with contexts := (w.stores.contexts.evict w.clock).2 } })

/-! ### What every action preserves -/

/-- What holds of the runs so far and of the errors that are held. -/
structure Sound (c : DwellConfig ℚ) (w : FilterWatch ℚ) : Prop where
  /-- Every run had the prior error that the runs before it left. -/
  prior : ∀ earlier run later, w.runs = earlier ++ run :: later →
    run.prior = FilterRun.priorAfter c earlier run.time run.key
  /-- Every run took a step of the filter, which kept to its bounds. -/
  stepped : ∀ run ∈ w.runs, FilterStep.run run.raw run.samples run.prior = some run.step ∧
    run.step.Bounded run.raw run.prior run.samples
  /-- Every error held was left by a run, is not negative, and is at most half its variance. -/
  held : ∀ key error, w.stores.filterErrors.rows.get? key = some error →
    ∃ run ∈ w.runs, run.key = key ∧ run.time = error.writtenAt ∧ run.step.error = error.value ∧
      0 ≤ error.value ∧ error.value ≤ run.step.variance / 2

/-- Also, a reader of the store is shown what the runs have left. -/
structure Faithful (c : DwellConfig ℚ) (w : FilterWatch ℚ) : Prop extends Sound c w where
  /-- Errors are answered for as long as the settings say. -/
  retention : w.stores.filterErrors.retention = c.retentionMs
  /-- From now on, a place is answered with the error of the latest run there, unless it is past
  retention. -/
  answers : ∀ now key, w.clock ≤ now → w.stores.filterErrors.get? now key =
    (FilterRun.latest? w.runs key).bind fun run =>
      if now - c.retentionMs ≤ run.time then some run.step.error else none

variable {c : DwellConfig ℚ} {w : FilterWatch ℚ}

theorem faithful_start (c : DwellConfig ℚ) (clock : Int)
    (contexts : AgedStore PredictionContext Int) : (start c clock contexts).Faithful c where
  prior earlier run later h := by simp [start] at h
  stepped run h := by cases h
  held key error h := by cases h
  retention := rfl
  answers now key h := rfl

/-- A reader takes the prior error that the runs leave. -/
theorem Faithful.getD_get? (h : w.Faithful c) (key : FilterKey) :
    (w.stores.filterErrors.get? w.clock key).getD c.initialError =
      FilterRun.priorAfter c w.runs w.clock key := by
  rw [h.answers w.clock key (Int.le_refl _), FilterRun.priorAfter]
  cases FilterRun.latest? w.runs key with
  | none => rfl
  | some run =>
    have hage : w.clock - c.retentionMs ≤ run.time ↔ w.clock - run.time ≤ c.retentionMs := by
      omega
    simp only [Option.bind_some, hage]
    split <;> rfl

/-- What runs leave is not negative. -/
theorem Faithful.priorAfter_nonneg (h : w.Faithful c) (hinitial : 0 ≤ c.initialError) (now : Int)
    (key : FilterKey) : 0 ≤ FilterRun.priorAfter c w.runs now key := by
  unfold FilterRun.priorAfter
  cases hlatest : FilterRun.latest? w.runs key with
  | none => exact hinitial
  | some run =>
    simp only
    split
    · exact (h.stepped run (FilterRun.mem_of_latest? hlatest).1).2.error_nonneg
    · exact hinitial

theorem Faithful.wait (h : w.Faithful c) (ms : Nat) :
    ({ w with clock := w.clock + ms } : FilterWatch ℚ).Faithful c where
  toSound := ⟨h.prior, h.stepped, h.held⟩
  retention := h.retention
  answers now key hnow := h.answers now key (by simp only at hnow; omega)

/-- Sweeping takes away nothing that would be answered from now on. -/
theorem Faithful.evictErrors (h : w.Faithful c) :
    ({ w with
      stores := { w.stores with
        filterErrors := (w.stores.filterErrors.evict w.clock).2 } } :
        FilterWatch ℚ).Faithful c where
  prior := h.prior
  stepped := h.stepped
  held key error herror := by
    simp only [AgedStore.evict, Keyed.get?_filter, Option.filter_eq_some_iff] at herror
    exact h.held key error herror.1
  retention := h.retention
  answers now key hnow := by
    rw [AgedStore.get?_evict _ _ _ _ hnow]
    exact h.answers now key hnow

/-- A run that begins with what is held at its place, and whose error is written there. -/
theorem Faithful.snoc (h : w.Faithful c) (hinitial : 0 ≤ c.initialError) {run : FilterRun ℚ}
    (htime : run.time = w.clock)
    (hprior : run.prior = (w.stores.filterErrors.get? w.clock run.key).getD c.initialError)
    (hstep : FilterStep.run run.raw run.samples run.prior = some run.step) {stores : Stores ℚ}
    (hstores : stores.filterErrors = w.stores.filterErrors.put w.clock run.key run.step.error) :
    ({ w with stores := stores, runs := w.runs ++ [run] } : FilterWatch ℚ).Faithful c := by
  rw [h.getD_get?] at hprior
  have hbounded := FilterStep.bounded (hprior ▸ h.priorAfter_nonneg hinitial _ _) hstep
  refine ⟨⟨?prior, ?stepped, ?held⟩, ?retention, ?answers⟩
  case prior =>
    intro earlier run' later hsplit
    -- the run is the new one, or it stands among those before
    rcases List.eq_nil_or_concat later with rfl | ⟨later, last, rfl⟩
    · obtain ⟨rfl, hrun⟩ := List.append_inj' hsplit rfl
      obtain rfl := List.singleton_inj.mp hrun
      rw [hprior, htime]
    · have hsnoc : w.runs ++ [run] = (earlier ++ run' :: later) ++ [last] := by simpa using hsplit
      exact h.prior earlier run' later (List.append_inj' hsnoc rfl).1
  case stepped =>
    intro run' hrun'
    rcases List.mem_append.mp hrun' with hrun' | hrun'
    · exact h.stepped run' hrun'
    · obtain rfl := List.mem_singleton.mp hrun'
      exact ⟨hstep, hbounded⟩
  case held =>
    intro key error herror
    rw [hstores, AgedStore.put, Keyed.get?_insert] at herror
    split at herror
    · next hkey =>
      obtain rfl := Option.some.inj herror
      exact ⟨run, by simp, hkey.symm, htime, rfl, hbounded.error_nonneg, hbounded.error_le⟩
    · obtain ⟨writer, hwriter, hwrote⟩ := h.held key error herror
      exact ⟨writer, List.mem_append_left _ hwriter, hwrote⟩
  case retention =>
    rw [hstores]
    exact h.retention
  case answers =>
    intro now key hnow
    rw [hstores, AgedStore.get?_put, h.retention, h.answers now key hnow, FilterRun.latest?_snoc]
    by_cases hkey : key = run.key
    · simp [hkey, htime]
    · simp [hkey, Ne.symm hkey]

/-- Whatever happens, a store and its runs go on belonging together. -/
theorem Faithful.act (h : w.Faithful c) (hmin : 1 ≤ c.minDays) (hinitial : 0 ≤ c.initialError)
    (action : Action ℚ) : (FilterWatch.act c w action).2.Faithful c := by
  cases action with
  | wait ms => exact h.wait ms
  | attempt s r =>
    rcases FilterRun.ofAttempt?_cases hmin s.inMemory w.clock w.stores r rfl with
      ⟨hnone, hstores⟩ | ⟨run, hrun, htime, hkey, hprior, hstep, hstores⟩
    · simp only [FilterWatch.act, hnone, hstores, Option.toList_none, List.append_nil]
      exact h
    · simp only [FilterWatch.act, hrun, Option.toList_some]
      rw [DwellConfig.priorFor, ← hkey] at hprior
      exact h.snoc hinitial htime hprior hstep hstores
  | evictErrors => exact h.evictErrors
  | evictContexts => exact ⟨⟨h.prior, h.stepped, h.held⟩, h.retention, h.answers⟩

end FilterWatch

/-- **The filter error over a run.** Whatever is attempted from whatever sources, whatever is swept
and however much time goes by, beginning without filter errors: every run of the filter that is
completed has the prior error that the runs before it leave at its place, and its step keeps to its
bounds; and every error that is held is that of a run, not negative, and at most half the variance
of this run. -/
theorem filter_state_invariant {c : DwellConfig ℚ} (hc : c.isValid = true) (clock : Int)
    (contexts : AgedStore PredictionContext Int) (actions : List (FilterWatch.Action ℚ)) :
    (Run.after (FilterWatch.act c) (.start c clock contexts) actions).Sound c := by
  obtain ⟨hmin, -, -, hinitial, -⟩ := c.isValid_iff.mp hc
  rw [Scalar.isSize_rat] at hinitial
  have h : (Run.after (FilterWatch.act c) (.start c clock contexts) actions).Faithful c :=
    Run.invariant (P := FilterWatch.Faithful c) (fun w action h => h.act hmin hinitial action)
      (FilterWatch.faithful_start c clock contexts) actions
  exact h.toSound

/-- Sources that know a rate and a headway, and dwells that vary from day to day. -/
def unevenSources : Sources ℚ where
  hasData := true
  rate _ _ _ _ := .ok (some 0.125)
  headway _ _ _ := .ok (some 600000)
  doors _ := .ok none
  dwell _ _ ts := .ok (some (20000 + ts / msPerDay % 3 * 1000))

/-- The second stop of a trip on some day. -/
def requestOn (day : Int) : DwellRequest :=
  ⟨"t", "r", "pier", 1, "1", some (day * msPerDay), 0, none, none⟩

/-- Three attempts at one place, with a day between the first two and a sweep before the third,
which is past retention of the others. -/
def threeAttempts : List (FilterWatch.Action ℚ) :=
  [.attempt unevenSources (requestOn 0), .wait 86400000, .attempt unevenSources (requestOn 1),
    .wait 345600001, .evictErrors, .attempt unevenSources (requestOn 6)]

/-- With default settings each of the three attempts completes a run of the filter. -/
theorem threeAttempts_sound :
    ({} : DwellConfig ℚ).isValid = true ∧
      (Run.after (FilterWatch.act {}) (.start {} 0 (.empty 345600000)) threeAttempts).runs.length
        = 3 ∧
      (Run.after (FilterWatch.act {}) (.start {} 0 (.empty 345600000)) threeAttempts).Sound {} :=
  ⟨DwellConfig.isValid_default, by decide +kernel,
    filter_state_invariant DwellConfig.isValid_default 0 (.empty 345600000) threeAttempts⟩

end TransitDwell
