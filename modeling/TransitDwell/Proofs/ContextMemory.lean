import TransitDwell.Proofs.Completion
import TransitDwell.Proofs.ServiceRun

/-!
# What is remembered for a context

A prediction that the filter has made is remembered for its context. As long as it is not past
retention, requests in that context are answered with it, and the filter is not run there again:
one approach of a vehicle to a stop must not push the filter error on twice.

In the meantime anything may happen to the service. Only three things happen to the predictions
that it remembers: they are left as they are, they are swept, or one is written in a context where
none was answered (`Service.act_contexts`). None of these touches a prediction that is not past
retention (`AgedStore.HeldSince`).

## What is proved

* A request in a context with a remembered prediction writes nothing, and while there are passenger
  counts it is answered with that prediction (`Attempt.make_of_remembered`).
* Over every run of the service whose clock goes forwards, once the filter has run in a context it
  does not run there again within the retention: `context_filtered_once`.
-/

namespace TransitDwell

/-! ### Values that are held -/

namespace AgedStore

variable {κ ν : Type} [DecidableEq κ] {s : AgedStore κ ν} {k j : κ} {v : ν} {since now : Int}

/-- A value is held at a key and was written there at an instant. -/
def HeldSince (s : AgedStore κ ν) (k : κ) (v : ν) (since : Int) : Prop :=
  s.rows.get? k = some ⟨v, since⟩

/-- It is answered until it is past retention. -/
theorem HeldSince.get?_eq (h : s.HeldSince k v since) (hage : now ≤ since + s.retention) :
    s.get? now k = some v := by
  have hcurrent : now - s.retention ≤ since := by omega
  rw [get?, h]
  exact if_pos (decide_eq_true hcurrent)

/-- Sweeping before it is past retention leaves it. -/
theorem HeldSince.evict (h : s.HeldSince k v since) (hage : now ≤ since + s.retention) :
    (s.evict now).2.HeldSince k v since := by
  have hcurrent : now - s.retention ≤ since := by omega
  rw [HeldSince, AgedStore.evict, Keyed.get?_filter, h, Option.filter_some]
  exact if_pos (decide_eq_true hcurrent)

/-- Writing where nothing is answered leaves it, as something is answered at its key. -/
theorem HeldSince.put (h : s.HeldSince k v since) (hage : now ≤ since + s.retention)
    (hnone : s.get? now j = none) (w : ν) : (s.put now j w).HeldSince k v since := by
  have hne : k ≠ j := by
    rintro rfl
    rw [h.get?_eq hage] at hnone
    cases hnone
  rw [HeldSince, AgedStore.put, Keyed.get?_insert, if_neg hne]
  exact h

end AgedStore

/-! ### Attempts -/

namespace Attempt

variable {α : Type} [Scalar α]

/-- An attempt leaves the predictions that are remembered as they were, or writes one in a context
where none was answered. -/
theorem make_contexts (c : DwellConfig α) (s : Sources α) (now : Int) (stores : Stores α)
    (r : DwellRequest) :
    (make c s now stores r).stores.contexts = stores.contexts ∨
      ∃ context value, stores.contexts.get? now context = none ∧
        (make c s now stores r).stores.contexts = stores.contexts.put now context value := by
  rcases stops_or_completes c s now stores r with
    ⟨answer, hstops⟩ | ⟨context, ts, rate, headway, hcompletes⟩
  · exact .inl (by rw [hstops.make_eq.2])
  · have hending := hcompletes.ending_eq_match
    split at hending
    · exact .inl (by simp only [make, hending, Ending.write])
    · next step _ =>
      exact .inr ⟨context, Ending.valueOf step, hcompletes.fresh,
        by simp only [make, hending, Ending.write]⟩

/-- A request in a context with a remembered prediction writes nothing. While there are passenger
counts, it is answered with that prediction. -/
theorem make_of_remembered {c : DwellConfig α} {s : Sources α} {now : Int} {stores : Stores α}
    {r : DwellRequest} {context : PredictionContext} {value : Int} (hlater : 0 < context.position)
    (hcontext : r.context? c.bucketWidth = some context)
    (hheld : stores.contexts.get? now context = some value) :
    (make c s now stores r).stores = stores ∧
      (s.hasData = true → (make c s now stores r).outcome = .counted value) := by
  obtain ⟨arrival, harrival, rfl⟩ := Option.map_eq_some_iff.mp hcontext
  cases hdata : s.hasData with
  | false =>
    refine ⟨(Stops.noData hlater hdata).make_eq.2, fun h => ?_⟩
    cases h
  | true =>
    have hbegins : Begins c s r _ (arrival + r.deviation) :=
      ⟨hlater, hdata, arrival, harrival, rfl, rfl⟩
    obtain ⟨houtcome, hstores⟩ := (Stops.remembered hbegins hheld).make_eq
    exact ⟨hstores, fun _ => houtcome⟩

end Attempt

namespace Service

variable {α : Type} [Scalar α]

/-! ### What an action does to the predictions that are remembered -/

/-- They are left as they were, they are swept, or one is written in a context where none was
answered. -/
theorem act_contexts (s : Service α) (action : Int × Action) :
    (s.act action).2.stores.contexts = s.stores.contexts ∨
      (s.act action).2.stores.contexts = (s.stores.contexts.evict action.1).2 ∨
      ∃ context value, s.stores.contexts.get? action.1 context = none ∧
        (s.act action).2.stores.contexts = s.stores.contexts.put action.1 context value := by
  rcases s.act_stores action with hsame | hswept | ⟨r, hmade⟩
  · exact .inl (congrArg Stores.contexts hsame)
  · exact .inr (.inl (congrArg Stores.contexts hswept))
  · rw [hmade]
    exact (Attempt.make_contexts s.config (s.sources action.1) action.1 s.stores r).imp_right .inr

theorem act_contexts_retention (s : Service α) (action : Int × Action) :
    (s.act action).2.stores.contexts.retention = s.stores.contexts.retention := by
  rcases s.act_contexts action with h | h | ⟨context, value, -, h⟩ <;> rw [h] <;> rfl

theorem afterRun_contexts_retention (c : DwellConfig α) (actions : List (Int × Action)) :
    (afterRun c actions).stores.contexts.retention = c.retentionMs :=
  Run.invariant (P := fun s : Service α => s.stores.contexts.retention = c.retentionMs)
    (fun s action h => (s.act_contexts_retention action).trans h) rfl actions

/-- A prediction that is not past retention stays where it is. -/
theorem act_heldSince {s : Service α} {context : PredictionContext} {value since : Int}
    (h : s.stores.contexts.HeldSince context value since) (action : Int × Action)
    (hage : action.1 ≤ since + s.stores.contexts.retention) :
    (s.act action).2.stores.contexts.HeldSince context value since := by
  rcases s.act_contexts action with hsame | hswept | ⟨written, other, hnone, hput⟩
  · rw [hsame]
    exact h
  · rw [hswept]
    exact h.evict hage
  · rw [hput]
    exact h.put hage hnone other

/-- So it does over a run that is over before it is past retention. -/
theorem after_heldSince {s : Service α} {context : PredictionContext} {value since : Int}
    (h : s.stores.contexts.HeldSince context value since) {actions : List (Int × Action)}
    (hage : ∀ action ∈ actions, action.1 ≤ since + s.stores.contexts.retention) :
    (Run.after act s actions).stores.contexts.HeldSince context value since := by
  refine (Run.invariant_of_forall (P := fun t : Service α =>
    t.stores.contexts.retention = s.stores.contexts.retention ∧
      t.stores.contexts.HeldSince context value since) (fun t action hage' ht => ?_)
    ⟨rfl, h⟩ hage).2
  exact ⟨(t.act_contexts_retention action).trans ht.1,
    act_heldSince ht.2 action (by rw [ht.1]; exact hage')⟩

/-! ### Running the filter -/

/-- A request at an instant goes through the filter in a context, and the filter makes a
prediction. -/
def Filters (s : Service α) (now : Int) (r : DwellRequest) (context : PredictionContext)
    (value : Int) : Prop :=
  ∃ ts rate headway step,
    Attempt.Completes s.config (s.sources now) now s.stores r context ts rate headway ∧
      FilterStep.run (s.config.rawDwellFor (s.sources now) r rate headway)
        (Attempt.collected s.config (s.sources now) r ts)
        (s.config.priorFor (s.sources now) now s.stores r) = some step ∧
      value = Scalar.truncate step.prediction

variable {s : Service α} {now : Int} {r : DwellRequest} {context : PredictionContext} {value : Int}

/-- The prediction is then the answer, and is remembered for the context. -/
theorem Filters.predict_eq (h : s.Filters now r context value) :
    (s.predict now r).1 = ⟨value, .passengerCounts⟩ ∧
      (s.predict now r).2.stores.contexts.HeldSince context value now := by
  obtain ⟨ts, rate, headway, step, hcompletes, hstep, rfl⟩ := h
  have hending := hcompletes.ending_eq_match
  rw [hstep] at hending
  constructor
  · simp only [predict_fst, Attempt.make, hending, Ending.outcome, Outcome.counted]
    rfl
  · simp only [predict_snd, Attempt.make, hending, Ending.write]
    exact (s.stores.contexts.overwrites_put now context _).here

theorem Filters.later (h : s.Filters now r context value) : 0 < context.position := by
  obtain ⟨ts, rate, headway, step, hcompletes, -⟩ := h
  obtain ⟨arrival, -, rfl, -⟩ := hcompletes.scheduled
  exact hcompletes.later

/-- Nothing was answered for the context before. -/
theorem Filters.fresh (h : s.Filters now r context value) :
    s.stores.contexts.get? now context = none := by
  obtain ⟨ts, rate, headway, step, hcompletes, -⟩ := h
  exact hcompletes.fresh

/-- The clock goes forwards over a run. -/
def IsForward (actions : List (Int × Action)) : Prop := actions.Pairwise fun a b => a.1 ≤ b.1

/-- **A context is filtered once within the retention.** Take a run of a service whose clock goes
forwards. When a request goes through the filter, the prediction is the answer. Whatever happens
then, a request in the same context that comes before the prediction is past retention is answered
with it as long as there are passenger counts, writes neither a filter error nor a prediction, and
does not go through the filter. -/
theorem context_filtered_once {c : DwellConfig α} {before between : List (Int × Action)}
    {start now : Int} {r again : DwellRequest} {context : PredictionContext} {value : Int}
    (hforward : IsForward
      (before ++ (start, .predict r) :: (between ++ [(now, .predict again)])))
    (hfilters : (afterRun c before).Filters start r context value)
    (hsame : again.context? c.bucketWidth = some context) (hage : now ≤ start + c.retentionMs) :
    let s := afterRun c (before ++ (start, .predict r) :: between)
    ((afterRun c before).predict start r).1 = ⟨value, .passengerCounts⟩ ∧
      (s.history.hasData = true → (s.predict now again).1 = ⟨value, .passengerCounts⟩) ∧
      (s.predict now again).2.stores = s.stores ∧
      ∀ other, ¬ s.Filters now again context other := by
  intro s
  obtain ⟨hanswer, hwritten⟩ := hfilters.predict_eq
  have hsplit : s = Run.after act ((afterRun c before).predict start r).2 between := by
    simp only [s, afterRun, Run.after_append, Run.after_cons]
    rfl
  have hretention : ((afterRun c before).predict start r).2.stores.contexts.retention =
      c.retentionMs :=
    ((afterRun c before).act_contexts_retention (start, .predict r)).trans
      (afterRun_contexts_retention c before)
  have hbetween : ∀ action ∈ between, action.1 ≤ start + c.retentionMs := by
    intro action haction
    have hlast := (List.pairwise_cons.mp (List.pairwise_append.mp hforward).2.1).2
    have hle := (List.pairwise_append.mp hlast).2.2 action haction _ (List.mem_singleton_self _)
    exact Int.le_trans hle hage
  have hheld : s.stores.contexts.get? now context = some value := by
    rw [hsplit]
    refine (after_heldSince hwritten (by rwa [hretention])).get?_eq ?_
    rw [← hsplit, afterRun_contexts_retention]
    exact hage
  have hconfig : s.config = c := afterRun_config c _
  obtain ⟨hstores, houtcome⟩ := Attempt.make_of_remembered (c := s.config) (s := s.sources now)
    hfilters.later (by rwa [hconfig]) hheld
  refine ⟨hanswer, fun hdata => ?_, ?_, fun other h => ?_⟩
  · rw [predict_fst, houtcome hdata]
    rfl
  · rw [predict_snd]
    exact hstores
  · rw [h.fresh] at hheld
    cases hheld

/-- One historical dwell is enough for the filter. -/
def pierConfig : DwellConfig Rat := { zone := .utc, minDays := 1 }

/-- Two vehicles come to a pier ten minutes apart, and the second is counted. On the next day
another arrives there. -/
def twoMornings : List (Int × Action) :=
  [(0, .ingestEvent ⟨"1", "pier", "t1", "r", 0, true, 0⟩),
    (600000, .ingestEvent ⟨"2", "pier", "t2", "r", 600000, true, 0⟩),
    (600000, .ingestCounts .entered [⟨"2", 600000, 6, 1, none, none⟩]),
    (620000, .ingestEvent ⟨"2", "pier", "t2", "r", 620000, false, 0⟩),
    (86400000, .ingestEvent ⟨"1", "pier", "t1", "r", 86400000, true, 0⟩)]

/-- A vehicle will come to the pier ten minutes later. -/
def approach : DwellRequest := ⟨"t3", "r", "pier", 1, "3", some 87000000, 0, none, none⟩

/-- It is asked about again under another route and stop, with a delay and another way to board. -/
def sameApproach : DwellRequest := ⟨"t3", "s", "mole", 1, "3", some 87299999, 60000, some 2, none⟩

/-- In between another vehicle is asked about, the stores are swept, and the feed is switched off
for some time. -/
def inBetween : List (Int × Action) :=
  [(86800000, .predict { approach with vehicle := "4" }), (86800000, .evictAll),
    (90000000, .setEnabled false), (90000000, .predict sameApproach), (99000000, .setEnabled true)]

/-- The filter runs for the vehicle, in the five minutes that begin with its arrival. -/
theorem filters_approach :
    (afterRun pierConfig twoMornings).Filters 86700000 approach ⟨"t3", 1, "3", 87000000⟩ 20000 := by
  have hsampled : Attempt.collected pierConfig ((afterRun pierConfig twoMornings).sources 86700000)
      approach 87000000 = [20000] := by decide +kernel
  have hvalue : (FilterStep.run (pierConfig.rawDwellFor
      ((afterRun pierConfig twoMornings).sources 86700000) approach (1 / 100) 600) [20000]
      (pierConfig.priorFor ((afterRun pierConfig twoMornings).sources 86700000) 86700000
        (afterRun pierConfig twoMornings).stores approach)).map
      (fun step => Scalar.truncate step.prediction) = some 20000 := by decide +kernel
  obtain ⟨step, hstep, hprediction⟩ := Option.map_eq_some_iff.mp hvalue
  refine ⟨87000000, 1 / 100, 600, step, ?_, ?_, hprediction.symm⟩
  · rw [afterRun_config]
    exact {
      later := by decide
      data := by decide +kernel
      scheduled := ⟨87000000, rfl, by decide +kernel, rfl⟩
      fresh := by decide +kernel
      rated := .inl (by decide +kernel)
      spaced := ⟨600000, by decide +kernel, by decide, by decide⟩
      sampled := by rw [hsampled]; decide }
  · rw [afterRun_config, hsampled]
    exact hstep

/-- Four days after it was asked about first, the vehicle is answered what it was answered then. -/
theorem sameApproach_answered_alike :
    let s := afterRun pierConfig (twoMornings ++ (86700000, .predict approach) :: inBetween)
    (afterRun pierConfig twoMornings).Filters 86700000 approach ⟨"t3", 1, "3", 87000000⟩ 20000 ∧
      sameApproach.context? pierConfig.bucketWidth = some ⟨"t3", 1, "3", 87000000⟩ ∧
      s.history.hasData = true ∧ (s.predict 432300000 sameApproach).1 = ⟨20000, .passengerCounts⟩ ∧
      (s.predict 432300000 sameApproach).2.stores = s.stores := by
  intro s
  have hsame : sameApproach.context? pierConfig.bucketWidth = some ⟨"t3", 1, "3", 87000000⟩ := by
    decide
  have hforward : IsForward
      (twoMornings ++ (86700000, .predict approach) ::
        (inBetween ++ [(432300000, .predict sameApproach)])) := by
    unfold IsForward
    decide
  have hdata : s.history.hasData = true := by decide +kernel
  obtain ⟨-, hanswer, hstores, -⟩ :=
    context_filtered_once hforward filters_approach hsame (by decide)
  exact ⟨filters_approach, hsame, hdata, hanswer hdata, hstores⟩

end Service

end TransitDwell
