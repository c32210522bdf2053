import TransitDwell.Proofs.BatchCuts
import Mathlib.Data.List.Induction

/-!
# How far the doors of a vehicle reach

What a service has learned of the doors of a vehicle goes into the raw dwells of that vehicle, from
there into its predictions, and from these into what is remembered for its contexts. It goes no
further. The filter error, which other vehicles on the same trip begin from, comes of the historical
dwells and of the error before; the metrics count stages; and a sweep goes by when something was
written and not by what.

Two services are alike for some vehicles if they differ in nothing but the doors of other vehicles
and the values remembered for their contexts (`Service.AlikeFor`). Any action keeps them alike, and
they answer it the same unless it asks about one of those other vehicles
(`Service.AlikeFor.act`). So it is after any run: `doors_reach_only_their_vehicle`.
-/

namespace TransitDwell

/-! ### Tables with the same keys -/

/-- Two tables have the same keys in the same order, and related values. -/
def Keyed.Related {κ ν : Type} (R : κ → ν → ν → Prop) (t u : Keyed κ ν) : Prop :=
  List.Forall₂ (fun a b => a.1 = b.1 ∧ R a.1 a.2 b.2) t.entries u.entries

namespace Keyed.Related

variable {κ ν : Type} {R : κ → ν → ν → Prop} {t u : Keyed κ ν}

theorem refl (hR : ∀ k v, R k v v) (t : Keyed κ ν) : Related R t t :=
  List.forall₂_same.mpr fun row _ => ⟨rfl, hR row.1 row.2⟩

theorem size_eq (h : Related R t u) : t.size = u.size := h.length_eq

theorem filter (h : Related R t u) {p q : κ → ν → Bool} (hpq : ∀ k v w, R k v w → p k v = q k w) :
    Related R (t.filter p) (u.filter q) := by
  refine List.rel_filterMap (fun a b hrow => ?_) h
  obtain ⟨hkey, hvalue⟩ := hrow
  simp only [hpq _ _ _ hvalue]
  rw [← hkey]
  split
  · exact .some ⟨rfl, hvalue⟩
  · exact .none

variable [DecidableEq κ]

theorem get?_rel (h : Related R t u) (k : κ) : Option.Rel (R k) (t.get? k) (u.get? k) := by
  unfold Related at h
  unfold get?
  generalize t.entries = rows at h ⊢
  generalize u.entries = rows' at h ⊢
  induction h with
  | nil => exact .none
  | @cons a b rows rows' hrow _ ih =>
    obtain ⟨hkey, hvalue⟩ := hrow
    by_cases hk : a.1 = k
    · rw [List.find?_cons_of_pos (by simpa using hk),
        List.find?_cons_of_pos (by simpa [hkey] using hk)]
      exact .some (hk ▸ hvalue)
    · rw [List.find?_cons_of_neg (by simpa using hk),
        List.find?_cons_of_neg (by simpa [hkey] using hk)]
      exact ih

theorem insert (h : Related R t u) {k : κ} {v w : ν} (hR : R k v w) :
    Related R (t.insert k v) (u.insert k w) := by
  unfold Related at h
  change List.Forall₂ _ (upsertRows k v (fun _ => v) t.entries)
    (upsertRows k w (fun _ => w) u.entries)
  generalize t.entries = rows at h ⊢
  generalize u.entries = rows' at h ⊢
  induction h with
  | nil => exact .cons ⟨rfl, hR⟩ .nil
  | @cons a b rows rows' hrow hrows ih =>
    obtain ⟨hkey, hvalue⟩ := hrow
    simp only [upsertRows, ← hkey]
    by_cases hk : a.1 = k
    · rw [if_pos hk, if_pos hk]
      exact .cons ⟨rfl, hk ▸ hR⟩ hrows
    · rw [if_neg hk, if_neg hk]
      exact .cons ⟨rfl, hvalue⟩ ih

end Keyed.Related

/-- Two stores hold values at the same keys, which were written at the same instants and, at keys of
some kind, are the same. -/
structure AgedStore.AlikeAt {κ ν : Type} (same : κ → Prop) (s t : AgedStore κ ν) : Prop where
  /-- Values are answered for as long. -/
  retention : s.retention = t.retention
  /-- The values, and when they were written. -/
  rows : s.rows.Related (fun k d e => d.writtenAt = e.writtenAt ∧ (same k → d.value = e.value))
    t.rows

namespace AgedStore.AlikeAt

variable {κ ν : Type} {same : κ → Prop} {s t : AgedStore κ ν}

theorem refl (same : κ → Prop) (s : AgedStore κ ν) : AlikeAt same s s :=
  ⟨rfl, .refl (fun _ _ => ⟨rfl, fun _ => rfl⟩) s.rows⟩

variable [DecidableEq κ]

theorem get?_rel (h : AlikeAt same s t) (now : Int) (k : κ) :
    Option.Rel (fun v w => same k → v = w) (s.get? now k) (t.get? now k) := by
  unfold get? isCurrent
  rw [h.retention]
  have hrows := h.rows.get?_rel k
  generalize s.rows.get? k = d at hrows ⊢
  generalize t.rows.get? k = e at hrows ⊢
  cases hrows with
  | none => exact .none
  | some hrow =>
    simp only [hrow.1]
    split
    · exact .some hrow.2
    · exact .none

theorem put (h : AlikeAt same s t) (now : Int) {k : κ} {v w : ν} (hsame : same k → v = w) :
    AlikeAt same (s.put now k v) (t.put now k w) :=
  ⟨h.retention, h.rows.insert ⟨rfl, hsame⟩⟩

omit [DecidableEq κ] in
/-- A sweep removes as much from both. -/
theorem evict (h : AlikeAt same s t) (now : Int) :
    (s.evict now).1 = (t.evict now).1 ∧ AlikeAt same (s.evict now).2 (t.evict now).2 := by
  have hrows : (s.evict now).2.rows.Related
      (fun k d e => d.writtenAt = e.writtenAt ∧ (same k → d.value = e.value))
      (t.evict now).2.rows :=
    h.rows.filter fun k d e hde => by rw [isCurrent, isCurrent, h.retention, hde.1]
  refine ⟨?_, h.retention, hrows⟩
  change s.rows.size - (s.evict now).2.rows.size = t.rows.size - (t.evict now).2.rows.size
  rw [h.rows.size_eq, hrows.size_eq]

end AgedStore.AlikeAt

/-! ### Attempts -/

/-- The raw dwell does not show in the error of a step of the filter. -/
theorem FilterStep.map_error_run {α : Type} [Scalar α] (raw raw' : α) (samples : List Int)
    (prior : α) : (run raw samples prior).map error = (run raw' samples prior).map error := by
  unfold run
  cases (mean samples : Option α) with
  | none => rfl
  | some average =>
    simp only [Option.bind_eq_bind, Option.bind_some]
    cases spread samples average <;> rfl

/-- What two rows of attempts have kept: the same, but for the predictions that are remembered for
vehicles that are not known. -/
structure Stores.AlikeFor {α : Type} (known : String → Prop) (s t : Stores α) : Prop where
  /-- The filter errors are the same. -/
  filterErrors : s.filterErrors = t.filterErrors
  /-- So are the predictions for known vehicles. -/
  contexts : s.contexts.AlikeAt (fun context => known context.vehicle) t.contexts

/-- Two attempts about a vehicle end at the same stage. What they come to there is the same if the
vehicle is known; a filter error is the same in any case. -/
inductive Ending.SameStage {α : Type} (known : String → Prop) (vehicle : String) :
    Ending α → Ending α → Prop where
  /-- They end alike. -/
  | refl (ending : Ending α) : SameStage known vehicle ending ending
  /-- Both remember a prediction. -/
  | remembered {v w : Int} (hvalue : known vehicle → v = w) :
    SameStage known vehicle (.remembered v) (.remembered w)
  /-- The filter has run in both. -/
  | filtered {context : PredictionContext} {daysAsked : Nat} {step step' : FilterStep α}
    (hvehicle : context.vehicle = vehicle) (herror : step.error = step'.error)
    (hstep : known vehicle → step = step') :
    SameStage known vehicle (.filtered context daysAsked step) (.filtered context daysAsked step')

/-- The same sources, but the doors of vehicles are answered otherwise. -/
def Sources.withDoors {α : Type} (s : Sources α) (doors : String → Lookup Nat) : Sources α :=
  { s with doors := doors }

section Attempts

variable {α : Type} [Scalar α] {known : String → Prop} {c : DwellConfig α} {s : Sources α}
  {doors : String → Lookup Nat} {now : Int} {stores stores' : Stores α} {r : DwellRequest}
  {vehicle : String} {e e' : Ending α}

namespace Ending.SameStage

omit [Scalar α] in
theorem marks_eq (h : SameStage known vehicle e e') : e.marks = e'.marks := by
  cases h <;> rfl

theorem outcome_eq (h : SameStage known vehicle e e') (hknown : known vehicle)
    (allowEmptyDwell : Bool) : e.outcome allowEmptyDwell = e'.outcome allowEmptyDwell := by
  cases h with
  | refl => rfl
  | remembered hvalue => rw [hvalue hknown]
  | filtered _ _ hstep => rw [hstep hknown]

theorem write_alike (h : SameStage known vehicle e e') (hstores : stores.AlikeFor known stores') :
    (e.write s now r stores).AlikeFor known (e'.write (s.withDoors doors) now r stores') := by
  have hfiltered {context : PredictionContext} {days : Nat} {step step' : FilterStep α}
      (herror : step.error = step'.error) (hstep : known context.vehicle → step = step') :
      ((Ending.filtered context days step).write s now r stores).AlikeFor known
        ((Ending.filtered context days step').write (s.withDoors doors) now r stores') :=
    ⟨by rw [write, write, hstores.filterErrors, herror]; rfl,
      hstores.contexts.put now fun hknown => by rw [hstep hknown]⟩
  cases h with
  | refl =>
    cases e with
    | filtered context days step => exact hfiltered rfl fun _ => rfl
    | _ => exact hstores
  | remembered _ => exact hstores
  | filtered hvehicle herror hstep => exact hfiltered herror (hvehicle ▸ hstep)

end Ending.SameStage

namespace DwellConfig

theorem endingWith_sameStage (hdoors : known r.vehicle → s.doors r.vehicle = doors r.vehicle)
    (hstores : stores.AlikeFor known stores') {context : PredictionContext}
    (hvehicle : context.vehicle = r.vehicle) (ts : Int) (rate : α) (headway : Int) :
    Ending.SameStage known r.vehicle (c.endingWith s now stores r context ts rate headway)
      (c.endingWith (s.withDoors doors) now stores' r context ts rate headway) := by
  have hprior : c.priorFor (s.withDoors doors) now stores' r = c.priorFor s now stores r := by
    simp only [priorFor, Sources.withDoors, hstores.filterErrors]
  have hraw : known r.vehicle →
      c.rawDwellFor (s.withDoors doors) r rate headway = c.rawDwellFor s r rate headway := by
    intro hknown
    simp only [rawDwellFor, Sources.withDoors, hdoors hknown]
  have hback : dwellBack (s.withDoors doors) r ts = dwellBack s r ts := rfl
  simp only [endingWith, hprior, hback]
  generalize DaysBack.gather (dwellBack s r ts) c.maxDays c.searchDays = dwells
  split
  · exact .refl _
  · have herror := FilterStep.map_error_run (c.rawDwellFor s r rate headway)
      (c.rawDwellFor (s.withDoors doors) r rate headway) dwells (c.priorFor s now stores r)
    generalize c.rawDwellFor (s.withDoors doors) r rate headway = raw' at hraw herror
    cases hrun : FilterStep.run (c.rawDwellFor s r rate headway) dwells (c.priorFor s now stores r)
      <;> cases hrun' : FilterStep.run raw' dwells (c.priorFor s now stores r)
      <;> rw [hrun, hrun'] at herror
    · exact .refl _
    · cases herror
    · cases herror
    · refine .filtered hvehicle (Option.some.inj herror) fun hknown => ?_
      rw [hraw hknown, hrun] at hrun'
      exact Option.some.inj hrun'

/-- Attempts that are told other doors of vehicles end at the same stage. -/
theorem ending_sameStage (hdoors : known r.vehicle → s.doors r.vehicle = doors r.vehicle)
    (hstores : stores.AlikeFor known stores') :
    Ending.SameStage known r.vehicle (c.ending s now stores r)
      (c.ending (s.withDoors doors) now stores' r) := by
  have hdata : (s.withDoors doors).hasData = s.hasData := rfl
  have hrate : c.rateFor (s.withDoors doors) r = c.rateFor s r := rfl
  have hheadway : c.headwayFor (s.withDoors doors) r = c.headwayFor s r := rfl
  unfold ending
  rw [hdata, hrate, hheadway]
  split
  · exact .refl _
  split
  · exact .refl _
  split
  · next context ts hcontext _ =>
    have hvehicle : context.vehicle = r.vehicle := by
      obtain ⟨arrival, -, rfl⟩ := Option.map_eq_some_iff.mp hcontext
      rfl
    have hheld := hstores.contexts.get?_rel now context
    generalize stores.contexts.get? now context = held at hheld ⊢
    generalize stores'.contexts.get? now context = held' at hheld ⊢
    cases hheld with
    | some hvalue => exact .remembered (hvehicle ▸ hvalue)
    | none =>
      cases c.rateFor s r ts with
      | none => exact .refl _
      | some rate =>
        cases c.headwayFor s r ts with
        | none => exact .refl _
        | some headway => exact endingWith_sameStage hdoors hstores hvehicle ts rate headway
  · exact .refl _

end DwellConfig

variable (c doors now) in
/-- Attempts that are told other doors of vehicles report the same to the metrics and keep the same
but for predictions about vehicles that are not known, and about a known vehicle they are answered
the same. -/
theorem Attempt.make_alike (hdoors : known r.vehicle → s.doors r.vehicle = doors r.vehicle)
    (hstores : stores.AlikeFor known stores') :
    let attempt := Attempt.make c s now stores r
    let attempt' := Attempt.make c (s.withDoors doors) now stores' r
    attempt.marks = attempt'.marks ∧ attempt.stores.AlikeFor known attempt'.stores ∧
      (known r.vehicle → attempt.outcome = attempt'.outcome) := by
  have hstage : Ending.SameStage known r.vehicle (c.ending s now stores r)
      (c.ending (s.withDoors doors) now stores' r) := DwellConfig.ending_sameStage hdoors hstores
  exact ⟨hstage.marks_eq, hstage.write_alike hstores, fun hknown => hstage.outcome_eq hknown _⟩

end Attempts

/-! ### Services -/

namespace Service

variable {α : Type} [Scalar α]

/-- The vehicle that an action asks about. -/
def Action.asksAbout? : Action → Option String
  | predict r => some r.vehicle
  | _ => none

/-- Two services differ in nothing but the doors of vehicles that are not known, and the predictions
that are remembered for them. -/
structure AlikeFor (known : String → Prop) (s t : Service α) : Prop where
  /-- The settings are the same. -/
  config : s.config = t.config
  /-- So are the events. -/
  events : s.events = t.events
  /-- So is what is known of passengers. -/
  history : s.history = t.history
  /-- So are the doors of known vehicles. -/
  doors : ∀ vehicle, known vehicle → s.doors.get? vehicle = t.doors.get? vehicle
  /-- So is what attempts keep, but for predictions about other vehicles. -/
  stores : s.stores.AlikeFor known t.stores
  /-- So are the metrics. -/
  metrics : s.metrics = t.metrics

/-- The last word of some observations on the doors of a vehicle. -/
def lastDoors? (batch : List Observation) (vehicle : String) : Option Nat :=
  (batch.filterMap fun o => if o.vehicle = vehicle then o.doors else none).getLast?

theorem get?_foldl_learnDoors (doors : Keyed String Nat) (batch : List Observation)
    (vehicle : String) :
    (batch.foldl learnDoors doors).get? vehicle =
      (lastDoors? batch vehicle).or (doors.get? vehicle) := by
  unfold lastDoors?
  induction batch using List.reverseRecOn with
  | nil => rfl
  | append_singleton batch o ih =>
    rw [List.foldl_concat, List.filterMap_append, List.getLast?_append, learnDoors, Option.or_assoc,
      ← ih]
    cases hdoors : o.doors with
    | none => simp [hdoors]
    | some count =>
      by_cases hvehicle : o.vehicle = vehicle
      · simp [Keyed.get?_insert, hdoors, hvehicle]
      · simp [Keyed.get?_insert, hvehicle, Ne.symm hvehicle]

namespace AlikeFor

variable {known : String → Prop} {s t : Service α}

theorem predict (h : AlikeFor known s t) (now : Int) (r : DwellRequest) :
    (known r.vehicle → (s.predict now r).1 = (t.predict now r).1) ∧
      AlikeFor known (s.predict now r).2 (t.predict now r).2 := by
  have hsources : t.sources now = (s.sources now).withDoors (t.sources now).doors := by
    simp only [sources, Sources.withDoors, h.history, h.events]
  have hdoors : known r.vehicle →
      (s.sources now).doors r.vehicle = (t.sources now).doors r.vehicle := by
    intro hknown
    simp only [sources, h.doors r.vehicle hknown]
  obtain ⟨hmarks, hstores, houtcome⟩ :=
    Attempt.make_alike s.config (t.sources now).doors now hdoors h.stores
  rw [← hsources, h.config] at hmarks hstores houtcome
  rw [predict_fst, predict_fst, predict_snd, predict_snd, h.config]
  refine ⟨fun hknown => by rw [houtcome hknown], ?_⟩
  exact ⟨rfl, h.events, h.history, h.doors, hstores, by rw [h.metrics, hmarks]⟩

/-- An action keeps them alike. It is answered the same unless it asks about a vehicle that is not
known. -/
theorem act (h : AlikeFor known s t) (action : Int × Action) :
    ((∀ vehicle ∈ action.2.asksAbout?, known vehicle) → (s.act action).1 = (t.act action).1) ∧
      AlikeFor known (s.act action).2 (t.act action).2 := by
  obtain ⟨now, action⟩ := action
  cases action with
  | ingestEvent e =>
    cases hmissing : e.missing? with
    | some name =>
      simp only [Service.act, ingestEvent, hmissing]
      exact ⟨fun _ => trivial, h⟩
    | none =>
      simp only [Service.act, ingestEvent, hmissing, h.events]
      exact ⟨fun _ => trivial, { h with events := rfl }⟩
  | ingestCounts scan batch =>
    have hmatched := matchBatch_congr h.config h.events scan now batch
    simp only [Service.act, ingestCounts, hmatched]
    refine ⟨fun _ => trivial, { h with history := ?_, doors := ?_ }⟩
    · rw [h.history, h.events]
    · intro vehicle hknown
      simp only [get?_foldl_learnDoors, h.doors vehicle hknown]
  | predict r =>
    obtain ⟨hanswer, hafter⟩ := h.predict now r
    exact ⟨fun hknown => by rw [Service.act, Service.act, hanswer (hknown r.vehicle rfl)], hafter⟩
  | setEnabled enabled =>
    exact ⟨fun _ => rfl, { h with history := by simp only [Service.act, setEnabled, h.history] }⟩
  | evictAll =>
    obtain ⟨hremoved, hcontexts⟩ := h.stores.contexts.evict now
    simp only [Service.act, evictAll, h.events, h.history, h.stores.filterErrors, hremoved]
    exact ⟨fun _ => trivial, { h with events := rfl, history := rfl, stores := ⟨rfl, hcontexts⟩ }⟩
  | onEvents change =>
    exact ⟨fun _ => by simp only [Service.act, h.events],
      { h with events := by simp only [Service.act, h.events] }⟩

theorem after (h : AlikeFor known s t) (run : List (Int × Action)) :
    AlikeFor known (Run.after Service.act s run) (Run.after Service.act t run) := by
  induction run generalizing s t with
  | nil => exact h
  | cons action run ih => exact ih (h.act action).2

end AlikeFor

end Service

/-- **The doors of a vehicle reach its own predictions and nothing else.** Take the same run of two
services that differ in the doors of some vehicles. Afterwards they differ in nothing but the doors
of those vehicles and what is remembered for their contexts, and any action is answered the same
unless it asks about one of those vehicles. -/
theorem doors_reach_only_their_vehicle {α : Type} [Scalar α] {known : String → Prop}
    (s : Service α) {doors : Keyed String Nat}
    (hdoors : ∀ vehicle, known vehicle → s.doors.get? vehicle = doors.get? vehicle)
    (run : List (Int × Service.Action)) :
    let told := Run.after Service.act s run
    let told' := Run.after Service.act { s with doors := doors } run
    told.AlikeFor known told' ∧
      ∀ action : Int × Service.Action, (∀ vehicle ∈ action.2.asksAbout?, known vehicle) →
        (told.act action).1 = (told'.act action).1 := by
  intro told told'
  have hstart : s.AlikeFor known { s with doors := doors } :=
    ⟨rfl, rfl, rfl, hdoors, ⟨rfl, .refl _ _⟩, rfl⟩
  have hafter : told.AlikeFor known told' := hstart.after run
  exact ⟨hafter, fun action => (hafter.act action).1⟩

end TransitDwell
