import TransitDwell.Proofs.AttemptRun

/-!
# Failed lookups

A source that fails is asked no differently from one that has nothing to say. What an attempt takes
from an answer is its value (`Lookup.value?`), and at each of the places where it asks it goes on
without one: with an assumed boarding rate or a first filter error, without the doors of the
vehicle, with the next day back, or not at all.

Two sources agree up to failure if every answer is the same in both, except that one may fail where
the other says that there is nothing (`Sources.AgreesUpToFailure`). It may be now the one and now
the other that fails, and on any questions.

## What is proved

* An attempt ends alike on sources that agree up to failure, and comes to the same (`make_eq`).
* So it is over runs, at any instants, with any settings and any stores to begin with. Where a
  filter error cannot be written, the prediction is answered and remembered all the same:
  `failures_are_missing_data`.
-/

namespace TransitDwell

/-! ### Agreement up to failure -/

/-- Two answers are the same, or one is a failure where the other says that there is no value. -/
inductive Lookup.AgreesUpToFailure {α : Type} : Lookup α → Lookup α → Prop where
  /-- They are the same. -/
  | same (answer : Lookup α) : AgreesUpToFailure answer answer
  /-- The first fails. -/
  | first (failure : LookupFailure) : AgreesUpToFailure (.error failure) (.ok none)
  /-- The second fails. -/
  | second (failure : LookupFailure) : AgreesUpToFailure (.ok none) (.error failure)

theorem Lookup.AgreesUpToFailure.value?_eq {α : Type} {a b : Lookup α}
    (h : a.AgreesUpToFailure b) : a.value? = b.value? := by
  cases h <;> rfl

/-- Two sources agree up to failure on every question, and what they do besides answering is the
same. -/
structure Sources.AgreesUpToFailure {α : Type} (s t : Sources α) : Prop where
  /-- Both have passenger counts to predict from, or none does. -/
  hasData : s.hasData = t.hasData
  /-- They agree on boarding rates. -/
  rate : ∀ route trip stop ts, (s.rate route trip stop ts).AgreesUpToFailure
    (t.rate route trip stop ts)
  /-- They agree on headways. -/
  headway : ∀ stop route ts, (s.headway stop route ts).AgreesUpToFailure (t.headway stop route ts)
  /-- They agree on the doors of vehicles. -/
  doors : ∀ vehicle, (s.doors vehicle).AgreesUpToFailure (t.doors vehicle)
  /-- They agree on the dwells of every day. -/
  dwell : ∀ route stop ts, (s.dwell route stop ts).AgreesUpToFailure (t.dwell route stop ts)
  /-- They agree on filter errors, whatever the store holds. -/
  readError : ∀ key held, (s.readError key held).AgreesUpToFailure (t.readError key held)
  /-- The same filter errors cannot be written. -/
  writeFails : ∀ key, s.writeFails key = t.writeFails key

/-- Two calls are at the same instant and for the same request, and their sources agree up to
failure. -/
structure AttemptCall.AgreesUpToFailure {α : Type} (a b : AttemptCall α) : Prop where
  /-- The instant is the same. -/
  now : a.now = b.now
  /-- The sources agree. -/
  sources : a.sources.AgreesUpToFailure b.sources
  /-- The request is the same. -/
  request : a.request = b.request

/-! ### What the stages take from the sources -/

namespace Sources.AgreesUpToFailure

variable {α : Type} [Scalar α] {s t : Sources α} (h : s.AgreesUpToFailure t) (c : DwellConfig α)
  (now : Int) (stores : Stores α) (r : DwellRequest)
include h

theorem rateFor_eq (ts : Int) : c.rateFor s r ts = c.rateFor t r ts := by
  rw [DwellConfig.rateFor, DwellConfig.rateFor, (h.rate _ _ _ _).value?_eq]

theorem headwayFor_eq (ts : Int) : c.headwayFor s r ts = c.headwayFor t r ts := by
  rw [DwellConfig.headwayFor, DwellConfig.headwayFor, (h.headway _ _ _).value?_eq]

theorem rawDwellFor_eq (rate : α) (headway : Int) :
    c.rawDwellFor s r rate headway = c.rawDwellFor t r rate headway := by
  rw [DwellConfig.rawDwellFor, DwellConfig.rawDwellFor, (h.doors _).value?_eq]

omit [Scalar α] in
/-- A day whose dwell is not answered counts as a day without one, and the search goes on. -/
theorem dwellBack_eq (ts : Int) : DwellConfig.dwellBack s r ts = DwellConfig.dwellBack t r ts := by
  funext back
  rw [DwellConfig.dwellBack, DwellConfig.dwellBack, (h.dwell _ _ _).value?_eq]

theorem priorFor_eq : c.priorFor s now stores r = c.priorFor t now stores r := by
  rw [DwellConfig.priorFor, DwellConfig.priorFor, (h.readError _ _).value?_eq]

/-- An attempt ends alike. -/
theorem ending_eq : c.ending s now stores r = c.ending t now stores r := by
  simp only [DwellConfig.ending, DwellConfig.endingWith, h.hasData, h.rateFor_eq c,
    h.headwayFor_eq c, h.rawDwellFor_eq c, h.dwellBack_eq, h.priorFor_eq c]

theorem write_eq (ending : Ending α) :
    ending.write s now r stores = ending.write t now r stores := by
  cases ending with
  | filtered context daysAsked step => simp only [Ending.write, h.writeFails]
  | _ => rfl

/-- An attempt comes to the same. -/
theorem make_eq : Attempt.make c s now stores r = Attempt.make c t now stores r := by
  rw [Attempt.make, Attempt.make, h.ending_eq, h.write_eq]

end Sources.AgreesUpToFailure

/-! ### Filter errors that cannot be written -/

namespace Ending

variable {α : Type} [Scalar α] (s t : Sources α) (now : Int) (r : DwellRequest) (stores : Stores α)
  (ending : Ending α)

/-- What is remembered for contexts does not hang on where the facts are from. -/
theorem contexts_write :
    (ending.write s now r stores).contexts = (ending.write t now r stores).contexts := by
  cases ending <;> rfl

variable {s}

/-- A filter error that cannot be written is lost. -/
theorem filterErrors_write (hfails : s.writeFails r.filterKey = true) :
    (ending.write s now r stores).filterErrors = stores.filterErrors := by
  cases ending with
  | filtered context daysAsked step => exact if_pos hfails
  | _ => rfl

end Ending

/-- The same call, but other filter errors cannot be written. -/
def AttemptCall.withWriteFailures {α : Type} (call : AttemptCall α) (fails : FilterKey → Bool) :
    AttemptCall α :=
  { call with sources := { call.sources with writeFails := fails } }

/-! ### Runs -/

namespace Aftermath

variable {α : Type} [Scalar α] (c : DwellConfig α) (a : Aftermath α)

/-- A call is answered alike, and leaves the same behind. -/
theorem act_eq {call call' : AttemptCall α} (h : call.AgreesUpToFailure call') :
    a.act c call = a.act c call' := by
  rw [act, act, h.now, h.request, h.sources.make_eq]

/-- Whether a filter error can be written shows in the filter errors alone. -/
theorem act_withWriteFailures (call : AttemptCall α) (fails : FilterKey → Bool) :
    let unwritten := a.act c (call.withWriteFailures fails)
    unwritten.1.outcome = (a.act c call).1.outcome ∧
      unwritten.2.stores.contexts = (a.act c call).2.stores.contexts ∧
      unwritten.2.metrics = (a.act c call).2.metrics ∧
      (fails call.request.filterKey = true →
        unwritten.2.stores.filterErrors = a.stores.filterErrors) := by
  -- The ending is the same, as nothing is written before it is known.
  have hending : c.ending (call.withWriteFailures fails).sources call.now a.stores call.request =
      c.ending call.sources call.now a.stores call.request := rfl
  refine ⟨congrArg (Ending.outcome c.allowEmptyDwell) hending, Ending.contexts_write _ _ _ _ _ _,
    congrArg (fun ending : Ending α => a.metrics.noteAll ending.marks) hending, fun hfails => ?_⟩
  exact Ending.filterErrors_write _ _ _ _ hfails

end Aftermath

/-- **Failures are missing data.** Take two runs of attempts, whose sources answer the same, except
that now the one and now the other fails where the other says that there is nothing. They are
answered alike, and keep and report the same. Where a filter error cannot be written, it is lost,
but the answer and what is remembered for the context are what they would be. -/
theorem failures_are_missing_data {α : Type} [Scalar α] (c : DwellConfig α) (start : Aftermath α)
    {calls calls' : List (AttemptCall α)}
    (h : List.Forall₂ AttemptCall.AgreesUpToFailure calls calls') :
    Run.answers (Aftermath.act c) start calls = Run.answers (Aftermath.act c) start calls' ∧
      Run.after (Aftermath.act c) start calls = Run.after (Aftermath.act c) start calls' ∧
      ∀ (a : Aftermath α) (call : AttemptCall α) (fails : FilterKey → Bool),
        let unwritten := a.act c (call.withWriteFailures fails)
        unwritten.1.outcome = (a.act c call).1.outcome ∧
          unwritten.2.stores.contexts = (a.act c call).2.stores.contexts ∧
          unwritten.2.metrics = (a.act c call).2.metrics ∧
          (fails call.request.filterKey = true →
            unwritten.2.stores.filterErrors = a.stores.filterErrors) := by
  have hstep : ∀ (a b : Aftermath α) (call call' : AttemptCall α), a = b →
      call.AgreesUpToFailure call' →
      (a.act c call).1 = (b.act c call').1 ∧ (a.act c call).2 = (b.act c call').2 := by
    rintro a _ call call' rfl hcalls
    rw [a.act_eq c hcalls]
    exact ⟨rfl, rfl⟩
  obtain ⟨hanswers, hafter⟩ := Run.simulation hstep rfl h
  exact ⟨hanswers, hafter, fun a => a.act_withWriteFailures c⟩

/-- Sources that fail now and then: on boarding rates, on the doors of vehicles, on every other day,
and on filter errors. -/
def brokenSources : Sources Rat :=
  let failure := LookupFailure.backend "connection reset"
  { Attempt.steadySources with
    rate := fun _ _ _ _ => .error failure
    doors := fun _ => .error failure
    dwell := fun _ _ ts => if ts / 86400000 % 2 = 0 then .ok (some 20000) else .error failure
    readError := fun _ _ => .error failure }

/-- Sources that have no more to say, but say so. -/
def silentSources : Sources Rat :=
  { Attempt.steadySources with
    rate := fun _ _ _ _ => .ok none
    doors := fun _ => .ok none
    dwell := fun _ _ ts => if ts / 86400000 % 2 = 0 then .ok (some 20000) else .ok none
    readError := fun _ _ => .ok none }

theorem brokenSources_agreesUpToFailure : brokenSources.AgreesUpToFailure silentSources where
  hasData := rfl
  rate _ _ _ _ := .first _
  headway _ _ _ := .same _
  doors _ := .first _
  dwell _ _ ts := by
    simp only [brokenSources, silentSources]
    split
    · exact .same _
    · exact .first _
  readError _ _ := .first _
  writeFails _ := rfl

/-- Sources that fail are answered from as silent ones are: with an assumed boarding rate and the
first filter error, the filter runs on the dwells of every other day. -/
theorem brokenSources_answered_alike :
    let c : DwellConfig Rat := { defaultRate := some 0.125 }
    let start : Aftermath Rat := ⟨.empty 1000, .empty⟩
    let calls (s : Sources Rat) : List (AttemptCall Rat) :=
      [⟨7, s, Attempt.steadyRequest⟩, ⟨9, s, { Attempt.steadyRequest with vehicle := "2" }⟩]
    List.Forall₂ AttemptCall.AgreesUpToFailure (calls brokenSources) (calls silentSources) ∧
      (Run.answers (Aftermath.act c) start (calls brokenSources)).map Attempt.outcome =
        [.counted 20000, .counted 20000] ∧
      (Run.answers (Aftermath.act c) start (calls brokenSources)).map Attempt.outcome =
        (Run.answers (Aftermath.act c) start (calls silentSources)).map Attempt.outcome := by
  intro c start calls
  have hcalls : List.Forall₂ AttemptCall.AgreesUpToFailure (calls brokenSources)
      (calls silentSources) :=
    .cons ⟨rfl, brokenSources_agreesUpToFailure, rfl⟩
      (.cons ⟨rfl, brokenSources_agreesUpToFailure, rfl⟩ .nil)
  obtain ⟨hanswers, -⟩ := failures_are_missing_data c start hcalls
  exact ⟨hcalls, by decide +kernel, by rw [hanswers]⟩

end TransitDwell
