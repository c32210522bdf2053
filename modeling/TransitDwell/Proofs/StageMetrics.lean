import TransitDwell.Proofs.AttemptRun

/-!
# The metrics of the stages

Every attempt reports at each stage that it comes to whether it found what the stage is for, and the
stages that it passes are timed. The counts are kept by name in tables (`Metrics.countOf`). Read as
counts of marks they are sums over the attempts, and an attempt that passes a stage comes to the
next. So the counts make a funnel, in which what goes into a stage is what comes out of it
(`Funnel`), as long as the filter is never left without samples.

What comes out at the end is told by more than marks. The filter errors that a run writes, or tries
to write, are listed with the instants and the keys (`Aftermath.filterWrites`), and by
`Aftermath.after_filterErrors` the list accounts for the whole store.

## What is proved

* Each mark is counted once, and under its own name (`Metrics.countOf_noteAll`).
* The marks of one attempt make a funnel (`Ending.funnel`), and funnels add up (`Funnel.add`).
* The metrics of every run make a funnel, at whose ends are the filter errors that are written and
  the answers that are counted: `stage_metrics_form_a_funnel`.
-/

namespace TransitDwell

/-! ### Counting marks -/

theorem AttemptOutcome.name_inj {a b : AttemptOutcome} : a.name = b.name ↔ a = b := by
  cases a <;> cases b <;> decide

theorem TimedStage.name_inj {a b : TimedStage} : a.name = b.name ↔ a = b := by
  cases a <;> cases b <;> decide

/-- A number that a table has at each key, none being as good as zero, grows at the key of a change
that adds to it and at no other. -/
theorem Keyed.number_upsert {κ ν : Type} [DecidableEq κ] (t : Keyed κ ν) (k j : κ) (fresh : ν)
    {change : ν → ν} {number : ν → Nat} (h : ∀ v, number (change v) = number v + number fresh) :
    (((t.upsert k fresh change).get? j).map number).getD 0 =
      ((t.get? j).map number).getD 0 + if j = k then number fresh else 0 := by
  rw [get?_upsert]
  by_cases hkey : j = k
  · subst hkey
    cases t.get? j <;> simp [h]
  · simp [hkey]

namespace Metrics

/-- How often a mark was counted. -/
def countOf (m : Metrics) : Mark → Nat
  | .hit outcome => m.hits outcome.name
  | .miss outcome => m.misses outcome.name
  | .timed stage => m.samples stage.name

@[simp] theorem countOf_empty (mark : Mark) : empty.countOf mark = 0 := by cases mark <;> rfl

theorem hits_recordOutcome (m : Metrics) (name other : String) (hit : Bool) :
    (m.recordOutcome name hit).hits other =
      m.hits other + if other = name then if hit then 1 else 0 else 0 := by
  refine (m.outcomes.number_upsert name other _ fun _ => rfl).trans ?_
  cases hit <;> rfl

theorem misses_recordOutcome (m : Metrics) (name other : String) (hit : Bool) :
    (m.recordOutcome name hit).misses other =
      m.misses other + if other = name then if hit then 0 else 1 else 0 := by
  refine (m.outcomes.number_upsert name other _ fun _ => rfl).trans ?_
  cases hit <;> rfl

theorem samples_recordDuration (m : Metrics) (name other : String) (nanos : Nat) :
    (m.recordDuration name nanos).samples other =
      m.samples other + if other = name then 1 else 0 :=
  m.durations.number_upsert name other _ fun _ => rfl

/-- A mark is counted as itself and as nothing else. -/
theorem countOf_note (m : Metrics) (mark other : Mark) :
    (m.note mark).countOf other = m.countOf other + if mark = other then 1 else 0 := by
  cases mark with
  | hit outcome =>
    cases other with
    | hit asked =>
      simp [countOf, note, hits_recordOutcome, AttemptOutcome.name_inj, eq_comm]
    | miss asked => simp [countOf, note, misses_recordOutcome]
    | timed asked => rfl
  | miss outcome =>
    cases other with
    | hit asked => simp [countOf, note, hits_recordOutcome]
    | miss asked =>
      simp [countOf, note, misses_recordOutcome, AttemptOutcome.name_inj, eq_comm]
    | timed asked => rfl
  | timed stage =>
    cases other with
    | hit asked => rfl
    | miss asked => rfl
    | timed asked =>
      simp [countOf, note, samples_recordDuration, TimedStage.name_inj, eq_comm]

theorem countOf_noteAll (m : Metrics) (marks : List Mark) (mark : Mark) :
    (m.noteAll marks).countOf mark = m.countOf mark + marks.count mark := by
  unfold noteAll
  induction marks generalizing m with
  | nil => rfl
  | cons first rest ih =>
    rw [List.foldl_cons, ih, countOf_note, List.count_cons]
    simp only [beq_iff_eq]
    omega

end Metrics

/-! ### Funnels -/

/-- An answer that is predicted from passenger counts. -/
def Outcome.isCounted : Outcome → Bool
  | .predicted prediction => prediction.method = .passengerCounts
  | .declined _ => false

/-- The outcome that a stage is timed for. -/
def TimedStage.outcome : TimedStage → AttemptOutcome
  | processing => .dwell
  | rate => .rate
  | headway => .headway
  | boarding => .headway
  | history => .history
  | filter => .dwell

/-- What goes into a stage comes out of it. -/
structure Funnel (count : Mark → Nat) (allowEmptyDwell : Bool) (writes answers : Nat) : Prop where
  /-- Where no prediction is remembered for the context, a rate is asked for. -/
  rate : count (.miss .processing) = count (.hit .rate) + count (.miss .rate)
  /-- Where there is a rate, a headway is asked for. -/
  headway : count (.hit .rate) = count (.hit .headway) + count (.miss .headway)
  /-- Where there is a headway, historical dwells are asked for. -/
  history : count (.hit .headway) = count (.hit .history) + count (.miss .history)
  /-- Where there are enough of them, a dwell is predicted. -/
  dwell : count (.hit .history) = count (.hit .dwell)
  /-- A stage is timed whenever it is passed. -/
  timed (stage : TimedStage) : count (.timed stage) = count (.hit stage.outcome)
  /-- A filter error is written whenever a dwell is predicted. -/
  written : writes = count (.hit .dwell)
  /-- An answer is predicted or remembered, or else assumed for want of historical dwells. -/
  answered : answers = count (.hit .dwell) + count (.hit .processing) +
    if allowEmptyDwell then count (.miss .history) else 0

namespace Funnel

variable {m n : Mark → Nat} {allowEmptyDwell : Bool} {writes writes' answers answers' : Nat}

theorem zero : Funnel (fun _ => 0) allowEmptyDwell 0 0 where
  rate := rfl
  headway := rfl
  history := rfl
  dwell := rfl
  timed _ := rfl
  written := rfl
  answered := by cases allowEmptyDwell <;> rfl

theorem add (h : Funnel m allowEmptyDwell writes answers)
    (h' : Funnel n allowEmptyDwell writes' answers') :
    Funnel (fun mark => m mark + n mark) allowEmptyDwell (writes + writes')
      (answers + answers') where
  rate := by rw [h.rate, h'.rate]; omega
  headway := by rw [h.headway, h'.headway]; omega
  history := by rw [h.history, h'.history]; omega
  dwell := by rw [h.dwell, h'.dwell]
  timed stage := by rw [h.timed, h'.timed]
  written := by rw [h.written, h'.written]
  answered := by
    rw [h.answered, h'.answered]
    cases allowEmptyDwell
    · simp only [Bool.false_eq_true, if_false]
      omega
    · simp only [if_true]
      omega

end Funnel

namespace Ending

variable {α : Type} [Scalar α]

/-- The marks of an attempt make a funnel, unless the filter was left without samples. -/
theorem funnel (ending : Ending α) (allowEmptyDwell : Bool)
    (h : ∀ daysAsked, ending ≠ .noSamples daysAsked) :
    Funnel (fun mark => ending.marks.count mark) allowEmptyDwell ending.step?.toList.length
      (if (ending.outcome allowEmptyDwell).isCounted then 1 else 0) := by
  cases ending with
  | noSamples daysAsked => exact absurd rfl (h daysAsked)
  | _ =>
    constructor
    case timed => rintro (_ | _ | _ | _ | _ | _) <;> rfl
    case answered => cases allowEmptyDwell <;> rfl
    all_goals rfl

omit [Scalar α] in
/-- An attempt that is not at the start of a trip reports once what came of it. -/
theorem count_result (ending : Ending α) (h : ending ≠ .startOfTrip) :
    ending.marks.count (.hit .dwell) + ending.marks.count (.miss .dwell) +
      ending.marks.count (.hit .processing) = 1 := by
  cases ending with
  | startOfTrip => exact absurd rfl h
  | _ => rfl

end Ending

namespace DwellConfig

variable {α : Type} [Scalar α] (c : DwellConfig α) (s : Sources α) (now : Int) (stores : Stores α)
  (r : DwellRequest)

theorem ending_eq_startOfTrip (hstart : r.isStartOfTrip = true) :
    c.ending s now stores r = .startOfTrip :=
  if_pos hstart

theorem ending_ne_startOfTrip (hstart : r.isStartOfTrip = false) :
    c.ending s now stores r ≠ .startOfTrip := by
  intro hending
  rcases Attempt.stops_or_completes c s now stores r with
    ⟨answer, hstops⟩ | ⟨context, ts, rate, headway, hcompletes⟩
  · have hanswer : answer = .declined .startOfTrip := by
      rw [← hstops.make_eq.1, Attempt.make, hending]
      rfl
    exact of_decide_eq_false hstart (hstops.answer_ne.2 hanswer)
  · have hmatch := hcompletes.ending_eq_match
    rw [hending] at hmatch
    split at hmatch <;> cases hmatch

end DwellConfig

/-! ### What a run writes -/

/-- A filter error that an attempt writes, or tries to write. -/
structure FilterWrite (α : Type) where
  /-- The instant. -/
  time : Int
  /-- Where the filter has run. -/
  key : FilterKey
  /-- The filter error. -/
  error : α
  /-- Whether writing it fails. -/
  fails : Bool

/-- What a write makes of a store. -/
def FilterWrite.applyTo {α : Type} (w : FilterWrite α) (store : AgedStore FilterKey α) :
    AgedStore FilterKey α :=
  if w.fails then store else store.put w.time w.key w.error

namespace Aftermath

variable {α : Type} [Scalar α] (c : DwellConfig α)

/-- The filter error that an attempt writes, if the filter has run. -/
def filterWrite? (a : Aftermath α) (call : AttemptCall α) : Option (FilterWrite α) :=
  (c.ending call.sources call.now a.stores call.request).step?.map fun step =>
    { time := call.now
      key := call.request.filterKey
      error := step.error
      fails := call.sources.writeFails call.request.filterKey }

/-- The filter errors that a run writes, in their order. -/
def filterWrites : Aftermath α → List (AttemptCall α) → List (FilterWrite α)
  | _, [] => []
  | a, call :: calls => (a.filterWrite? c call).toList ++ filterWrites (a.act c call).2 calls

/-- An attempt does to the filter errors what it writes. -/
theorem act_filterErrors (a : Aftermath α) (call : AttemptCall α) :
    (a.act c call).2.stores.filterErrors =
      (a.filterWrite? c call).toList.foldl (fun store w => w.applyTo store)
        a.stores.filterErrors := by
  simp only [act, Attempt.make, filterWrite?]
  cases c.ending call.sources call.now a.stores call.request with
  | filtered context daysAsked step => rfl
  | _ => rfl

/-- A run does to the filter errors what it writes. -/
theorem after_filterErrors (a : Aftermath α) (calls : List (AttemptCall α)) :
    (Run.after (act c) a calls).stores.filterErrors =
      (a.filterWrites c calls).foldl (fun store w => w.applyTo store) a.stores.filterErrors := by
  induction calls generalizing a with
  | nil => rfl
  | cons call calls ih => rw [Run.after_cons, ih, act_filterErrors, filterWrites, List.foldl_append]

/-! ### The metrics of a run -/

/-- The metrics of a run count the marks of its attempts. -/
theorem after_countOf (a : Aftermath α) (calls : List (AttemptCall α)) (mark : Mark) :
    (Run.after (act c) a calls).metrics.countOf mark =
      a.metrics.countOf mark +
        ((Run.answers (act c) a calls).flatMap Attempt.marks).count mark := by
  induction calls generalizing a with
  | nil => rfl
  | cons call calls ih =>
    rw [Run.after_cons, ih, Run.answers_cons, List.flatMap_cons, List.count_append, ← Nat.add_assoc]
    congr 1
    exact a.metrics.countOf_noteAll _ mark

variable {c}

/-- The marks of an attempt make a funnel. -/
theorem act_funnel (hmin : 1 ≤ c.minDays) (a : Aftermath α) (call : AttemptCall α) :
    Funnel (fun mark => (a.act c call).1.marks.count mark) c.allowEmptyDwell
      (a.filterWrite? c call).toList.length
      (if (a.act c call).1.outcome.isCounted then 1 else 0) := by
  rw [filterWrite?, Option.toList_map, List.length_map]
  exact Ending.funnel _ c.allowEmptyDwell (c.ending_ne_noSamples _ _ _ _ hmin)

/-- So do those of a run. -/
theorem answers_funnel (hmin : 1 ≤ c.minDays) (a : Aftermath α) (calls : List (AttemptCall α)) :
    Funnel (fun mark => ((Run.answers (act c) a calls).flatMap Attempt.marks).count mark)
      c.allowEmptyDwell (a.filterWrites c calls).length
      ((Run.answers (act c) a calls).countP fun attempt => attempt.outcome.isCounted) := by
  induction calls generalizing a with
  | nil => exact .zero
  | cons call calls ih =>
    have hsum := (act_funnel hmin a call).add (ih (a.act c call).2)
    simp only [Run.answers_cons, List.flatMap_cons, List.count_append, filterWrites,
      List.length_append, List.countP_cons]
    rwa [Nat.add_comm (List.countP _ _)]

variable (c)

/-- At the start of a trip an attempt reports nothing. -/
theorem act_metrics_of_startOfTrip (a : Aftermath α) {call : AttemptCall α}
    (hstart : call.request.isStartOfTrip = true) : (a.act c call).2.metrics = a.metrics := by
  simp only [act, Attempt.make, c.ending_eq_startOfTrip _ _ _ _ hstart]
  rfl

/-- Anywhere else it reports once what came of it. -/
theorem act_countOf_result (a : Aftermath α) {call : AttemptCall α}
    (hlater : call.request.isStartOfTrip = false) :
    let after := (a.act c call).2.metrics
    after.countOf (.hit .dwell) + after.countOf (.miss .dwell) + after.countOf (.hit .processing) =
      a.metrics.countOf (.hit .dwell) + a.metrics.countOf (.miss .dwell) +
        a.metrics.countOf (.hit .processing) + 1 := by
  have hresult := Ending.count_result _ (c.ending_ne_startOfTrip call.sources call.now a.stores
    call.request hlater)
  simp only [act, Attempt.make, Metrics.countOf_noteAll]
  omega

end Aftermath

/-- **The metrics of the stages make a funnel.** Where the filter needs at least one sample, the
metrics of every run of attempts make one, and at its ends are the filter errors that the run writes
and the answers that are predicted from passenger counts. An attempt at the start of a trip changes
no metrics, and any other reports once what came of it. -/
theorem stage_metrics_form_a_funnel {α : Type} [Scalar α] {c : DwellConfig α} (hmin : 1 ≤ c.minDays)
    (stores : Stores α) (calls : List (AttemptCall α)) :
    let start : Aftermath α := ⟨stores, .empty⟩
    let after := Run.after (Aftermath.act c) start calls
    Funnel after.metrics.countOf c.allowEmptyDwell (start.filterWrites c calls).length
        ((Run.answers (Aftermath.act c) start calls).countP fun a => a.outcome.isCounted) ∧
      after.stores.filterErrors =
        (start.filterWrites c calls).foldl (fun store w => w.applyTo store) stores.filterErrors ∧
      ∀ (a : Aftermath α) (call : AttemptCall α),
        let next := (a.act c call).2.metrics
        (call.request.isStartOfTrip = true → next = a.metrics) ∧
        (call.request.isStartOfTrip = false →
          next.countOf (.hit .dwell) + next.countOf (.miss .dwell) +
              next.countOf (.hit .processing) =
            a.metrics.countOf (.hit .dwell) + a.metrics.countOf (.miss .dwell) +
              a.metrics.countOf (.hit .processing) + 1) := by
  intro start after
  have hcount : after.metrics.countOf = fun mark =>
      ((Run.answers (Aftermath.act c) start calls).flatMap Attempt.marks).count mark := by
    funext mark
    exact (start.after_countOf c calls mark).trans (by rw [Metrics.countOf_empty, Nat.zero_add])
  refine ⟨?_, start.after_filterErrors c calls, fun a call => ⟨?_, ?_⟩⟩
  · rw [hcount]
    exact start.answers_funnel hmin calls
  · exact a.act_metrics_of_startOfTrip c
  · exact a.act_countOf_result c

/-- Attempts at the start of a trip, without passenger counts, through the filter, with what it said
a moment ago, without a headway, without historical dwells, and through the filter again, but
without being able to write. -/
def mixedAttempts : List (AttemptCall Rat) :=
  let sources := Attempt.steadySources
  let request := Attempt.steadyRequest
  [⟨7, sources, { request with position := 0 }⟩,
    ⟨7, { sources with hasData := false }, request⟩,
    ⟨7, sources, request⟩,
    ⟨8, sources, request⟩,
    ⟨8, { sources with headway := fun _ _ _ => .ok none }, { request with vehicle := "2" }⟩,
    ⟨8, { sources with dwell := fun _ _ _ => .ok none }, { request with vehicle := "3" }⟩,
    ⟨9, { sources with writeFails := fun _ => true }, { request with vehicle := "4" }⟩]

/-- Four of them ask for a rate, two write a filter error, and four are answered. -/
theorem mixedAttempts_funnel :
    1 ≤ ({} : DwellConfig Rat).minDays ∧
      let after := Run.after (Aftermath.act {}) ⟨.empty 1000, .empty⟩ mixedAttempts
      Funnel after.metrics.countOf true 2 4 ∧ after.metrics.hits "PredictionDwellApcHit" = 4 := by
  refine ⟨by decide, ?_, by decide +kernel⟩
  obtain ⟨hfunnel, -⟩ := stage_metrics_form_a_funnel (c := ({} : DwellConfig Rat)) (by decide)
    (.empty 1000) mixedAttempts
  have hwrites : (Aftermath.filterWrites {} ⟨.empty 1000, .empty⟩ mixedAttempts).length = 2 := by
    decide +kernel
  have hanswers : (Run.answers (Aftermath.act {}) ⟨.empty 1000, .empty⟩ mixedAttempts).countP
      (fun a => a.outcome.isCounted) = 4 := by
    decide +kernel
  rwa [hwrites, hanswers] at hfunnel

end TransitDwell
