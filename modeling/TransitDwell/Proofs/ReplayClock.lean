import TransitDwell.Proofs.ArrivalOrder
import TransitDwell.Replay

/-!
# The clock of a replay

A replay takes in events that are *complete*, that is those that leave no name empty, and drops the
others. Its clock is set before, at the newest event of all, so that an event that is dropped may
still move it. All that the clock decides is which events are past retention.

## What is proved

* Dropped events change nothing else: taking in events is taking in the complete ones
  (`Replay.ingestEvents_complete`).
* Two services that hold the same events and whose clocks put the same of these past retention,
  answer alike (`Service.AlikeAt.predict`).
* So a replay predicts what the complete events alone predict, unless a dropped one is so new that
  some complete event gets past retention by it: `dropped_events_move_only_the_clock`.
* It may be that new (`dropped_event_puts_arrival_past_retention`).
-/

namespace TransitDwell

/-! ### Instants that show the same -/

namespace EventStore

/-- Two instants at which the same of the events held are current. -/
def SameAge (s : EventStore) (now later : Int) : Prop :=
  ∀ e ∈ s.all, s.isCurrent now e = s.isCurrent later e

namespace SameAge

variable {s : EventStore} {now later : Int}

theorem get_eq (h : s.SameAge now later) (day : StopDay) : s.get now day = s.get later day :=
  List.filter_congr fun e he => h e ((s.mem_all_iff e).mpr ⟨day, he⟩)

theorem getForTime_eq (h : s.SameAge now later) (stop : String) (ts : Int) :
    s.getForTime now stop ts = s.getForTime later stop ts := by
  unfold getForTime
  cases s.dayOf stop ts with
  | none => rfl
  | some day => exact h.get_eq day

theorem current_eq (h : s.SameAge now later) (scan : ScanOrder) :
    s.current scan now = s.current scan later := by
  refine congrArg (·.mergeSort StopEvent.notAfter) (List.filter_congr fun e he => h e ?_)
  obtain ⟨row, hrow, he⟩ := List.mem_flatMap.mp he
  exact List.mem_flatMap.mpr ⟨row, (scan.perm _).mem_iff.mp hrow, he⟩

variable {α : Type}

theorem headwayBefore_eq (h : s.SameAge now later) (history : PassengerHistory α)
    (e : StopEvent) : history.headwayBefore s now e = history.headwayBefore s later e := by
  simp only [PassengerHistory.headwayBefore, h.getForTime_eq]

variable [Scalar α]

theorem record_eq (h : s.SameAge now later) (history : PassengerHistory α) (m : CountMatch) :
    history.record s now m = history.record s later m := by
  simp only [PassengerHistory.record, h.headwayBefore_eq]

theorem recordAll_eq (h : s.SameAge now later) (history : PassengerHistory α)
    (ms : List CountMatch) : history.recordAll s now ms = history.recordAll s later ms := by
  simp only [PassengerHistory.recordAll, h.record_eq]

end SameAge

/-- What becomes of an event depends on whether it is current. -/
theorem put_congr {s : EventStore} {now later : Int} {e : StopEvent}
    (h : s.isCurrent now e = s.isCurrent later e) : s.put now e = s.put later e := by
  unfold put
  rw [h]

theorem put_retention (s : EventStore) (now : Int) (e : StopEvent) :
    (s.put now e).2.retention = s.retention := by
  unfold put
  split
  · rfl
  · split <;> rfl

end EventStore

/-! ### Stores that answer the same -/

/-- Two stores that answer the same, each at its own instant. -/
structure AgedStore.AnswersAlike {κ ν : Type} [DecidableEq κ] (s t : AgedStore κ ν)
    (now later : Int) : Prop where
  /-- Values are answered for as long. -/
  retention : s.retention = t.retention
  /-- The same values are answered. -/
  get? : ∀ k, s.get? now k = t.get? later k

/-- What is written at its own instant is as old at either. -/
theorem AgedStore.AnswersAlike.put {κ ν : Type} [DecidableEq κ] {s t : AgedStore κ ν}
    {now later : Int} (h : s.AnswersAlike t now later) (k : κ) (v : ν) :
    (s.put now k v).AnswersAlike (t.put later k v) now later where
  retention := h.retention
  get? j := by
    have hage : now - s.retention ≤ now ↔ later - t.retention ≤ later := by
      rw [h.retention]
      omega
    rw [get?_put, get?_put, h.get?]
    simp only [hage]

/-- The same for what attempts keep. -/
structure Stores.AnswerAlike {α : Type} (s t : Stores α) (now later : Int) : Prop where
  /-- The filter errors. -/
  filterErrors : s.filterErrors.AnswersAlike t.filterErrors now later
  /-- The predictions. -/
  contexts : s.contexts.AnswersAlike t.contexts now later

namespace Stores.AnswerAlike

variable {α : Type} [Scalar α] {stores stores' : Stores α} {now later : Int}

/-- An attempt ends alike with stores that answer the same. -/
theorem ending_eq (h : stores.AnswerAlike stores' now later) (c : DwellConfig α) (s : Sources α)
    (r : DwellRequest) : c.ending s now stores r = c.ending s later stores' r := by
  simp only [DwellConfig.ending, DwellConfig.endingWith, DwellConfig.priorFor, h.contexts.get?,
    h.filterErrors.get?]

/-- What an attempt writes leaves stores that answer the same. -/
theorem write (h : stores.AnswerAlike stores' now later) (s : Sources α) (r : DwellRequest)
    (ending : Ending α) :
    (ending.write s now r stores).AnswerAlike (ending.write s later r stores') now later := by
  cases ending with
  | filtered context daysAsked step =>
    refine ⟨?_, h.contexts.put context _⟩
    simp only [Ending.write]
    split
    · exact h.filterErrors
    · exact h.filterErrors.put _ _
  | _ => exact h

end Stores.AnswerAlike

/-! ### Services that answer the same -/

namespace Service

variable {α : Type} [Scalar α]

/-- Two services that are asked at instants of their own and know the same. -/
structure AlikeAt (s t : Service α) (now later : Int) : Prop where
  /-- The settings are the same. -/
  config : s.config = t.config
  /-- The sources say the same. -/
  sources : s.sources now = t.sources later
  /-- What attempts keep is answered the same. -/
  stores : s.stores.AnswerAlike t.stores now later

/-- What a request is answered, and what the service knows afterwards, is the same. -/
theorem AlikeAt.predict {s t : Service α} {now later : Int} (h : s.AlikeAt t now later)
    (r : DwellRequest) :
    (s.predict now r).1 = (t.predict later r).1 ∧
      (s.predict now r).2.AlikeAt (t.predict later r).2 now later := by
  have hending : s.config.ending (s.sources now) now s.stores r =
      t.config.ending (t.sources later) later t.stores r := by
    rw [h.config, h.sources, h.stores.ending_eq]
  constructor
  · rw [predict_fst, predict_fst]
    simp only [Attempt.make, hending]
    rw [h.config]
  · rw [predict_snd, predict_snd]
    refine ⟨h.config, h.sources, ?_⟩
    simp only [Attempt.make, hending]
    rw [h.sources]
    exact h.stores.write _ r _

/-- A service knows the same at instants that show the same events. -/
theorem alikeAt_self {s : Service α} {now later : Int} (h : s.events.SameAge now later)
    (hstores : s.stores.AnswerAlike s.stores now later) : s.AlikeAt s now later where
  config := rfl
  sources := by
    simp only [sources, PassengerHistory.lastHeadway, PassengerHistory.dwellOn, h.getForTime_eq]
  stores := hstores

/-- A batch is taken in alike at instants that show the same events. -/
theorem ingestCounts_congr {s : Service α} {now later : Int} (h : s.events.SameAge now later)
    (scan : ScanOrder) (batch : List Observation) :
    s.ingestCounts scan now batch = s.ingestCounts scan later batch := by
  have hmatched : s.matchBatch scan now batch = s.matchBatch scan later batch := by
    rw [matchBatch_eq_filter, matchBatch_eq_filter, h.current_eq]
  simp only [ingestCounts, hmatched, h.recordAll_eq]

theorem ingestEvent_retention (s : Service α) (now : Int) (e : StopEvent) :
    (s.ingestEvent now e).2.events.retention = s.events.retention := by
  unfold ingestEvent
  split
  · rfl
  · exact EventStore.put_retention _ _ _

end Service

/-! ### Replays -/

/-- Whether an event leaves no name empty. -/
def StopEvent.isComplete (e : StopEvent) : Bool := e.missing?.isNone

namespace Replay

variable {α : Type} [Scalar α]

/-- The predictions of a replay whose clock stands at an instant. -/
def predictionsAt (c : DwellConfig α) (scan : ScanOrder) (now : Int) (events : List StopEvent)
    (observations : List Observation) (requests : List DwellRequest) :
    List (DwellRequest × Prediction) :=
  predictAll now requests
    ((ingestEvents now events (Service.new c)).ingestCounts scan now observations).2

theorem predictions_eq (c : DwellConfig α) (scan : ScanOrder) (events : List StopEvent)
    (observations : List Observation) (requests : List DwellRequest) :
    predictions c scan events observations requests =
      predictionsAt c scan (clock events) events observations requests := rfl

/-! #### The clock -/

theorem clock_le_iff {events : List StopEvent} {ts : Int} :
    clock events ≤ ts ↔ 0 ≤ ts ∧ ∀ e ∈ events, e.time ≤ ts := by
  -- the clock may stand anywhere before
  suffices ∀ start : Int, events.foldl (fun now e => max now e.time) start ≤ ts ↔
      start ≤ ts ∧ ∀ e ∈ events, e.time ≤ ts from this 0
  induction events with
  | nil => simp
  | cons e es ih =>
    intro start
    rw [List.foldl_cons, ih, List.forall_mem_cons, Int.max_le, and_assoc]

theorem clock_nonneg (events : List StopEvent) : 0 ≤ clock events :=
  (clock_le_iff.mp (Int.le_refl _)).1

theorem time_le_clock {events : List StopEvent} {e : StopEvent} (h : e ∈ events) :
    e.time ≤ clock events :=
  (clock_le_iff.mp (Int.le_refl _)).2 e h

theorem clock_filter_le (events : List StopEvent) (p : StopEvent → Bool) :
    clock (events.filter p) ≤ clock events :=
  clock_le_iff.mpr ⟨clock_nonneg events, fun _ he => time_le_clock (List.mem_of_mem_filter he)⟩

/-- Without some of the events the clock stands where it did if and only if none of these is newer
than all others. -/
theorem clock_filter_eq_iff (events : List StopEvent) (p : StopEvent → Bool) :
    clock (events.filter p) = clock events ↔
      ∀ e ∈ events, p e = false → e.time ≤ clock (events.filter p) := by
  constructor
  · intro h e he _
    rw [h]
    exact time_le_clock he
  · intro h
    refine Int.le_antisymm (clock_filter_le events p)
      (clock_le_iff.mpr ⟨clock_nonneg _, fun e he => ?_⟩)
    cases hp : p e with
    | true => exact time_le_clock (List.mem_filter.mpr ⟨he, hp⟩)
    | false => exact h e he hp

/-! #### Taking in events -/

/-- To take in events is to take in the complete ones. -/
theorem ingestEvents_complete (now : Int) (events : List StopEvent) (s : Service α) :
    ingestEvents now (events.filter StopEvent.isComplete) s = ingestEvents now events s := by
  have hdrop : ∀ (s : Service α) (e : StopEvent),
      (if e.isComplete then (s.ingestEvent now e).2 else s) = (s.ingestEvent now e).2 := by
    intro s e
    cases h : e.missing? <;> simp [StopEvent.isComplete, Service.ingestEvent, h]
  simp only [ingestEvents, List.foldl_filter, hdrop]

/-- Events are taken in alike at instants at which the same of them are current. -/
theorem ingestEvents_congr {now later : Int} {events : List StopEvent} {s : Service α}
    (h : ∀ e ∈ events, now - s.events.retention ≤ e.time ↔ later - s.events.retention ≤ e.time) :
    ingestEvents now events s = ingestEvents later events s := by
  induction events generalizing s with
  | nil => rfl
  | cons e es ih =>
    have hcurrent : s.events.isCurrent now e = s.events.isCurrent later e := by
      rw [Bool.eq_iff_iff, EventStore.isCurrent_iff, EventStore.isCurrent_iff]
      exact h e List.mem_cons_self
    have hone : s.ingestEvent now e = s.ingestEvent later e := by
      simp only [Service.ingestEvent, EventStore.put_congr hcurrent]
    change ingestEvents now es (s.ingestEvent now e).2 = ingestEvents later es _
    rw [hone]
    refine ih fun d hd => ?_
    rw [Service.ingestEvent_retention]
    exact h d (List.mem_cons_of_mem _ hd)

theorem ingestEvents_new (c : DwellConfig α) (now : Int) (events : List StopEvent) :
    ingestEvents now events (Service.new c) = Service.afterEvents c now events := by
  rw [Service.afterEvents, Service.afterRun, Run.after, List.foldl_map]
  rfl

/-! #### Predictions -/

theorem predictAll_eq {s t : Service α} {now later : Int} (h : s.AlikeAt t now later)
    (requests : List DwellRequest) : predictAll now requests s = predictAll later requests t := by
  induction requests generalizing s t with
  | nil => rfl
  | cons r rs ih =>
    obtain ⟨hprediction, hafter⟩ := h.predict r
    simp only [predictAll, hprediction, ih hafter]

/-- The clock decides nothing but which events are past retention. -/
theorem predictionsAt_congr {c : DwellConfig α} {now later : Int} {events : List StopEvent}
    (h : ∀ e ∈ events, now - c.retentionMs ≤ e.time ↔ later - c.retentionMs ≤ e.time)
    (scan : ScanOrder) (observations : List Observation) (requests : List DwellRequest) :
    predictionsAt c scan now events observations requests =
      predictionsAt c scan later events observations requests := by
  have hloaded : ingestEvents now events (Service.new c) =
      ingestEvents later events (Service.new c) := ingestEvents_congr h
  obtain ⟨store, log, hafter, hholds, hmem⟩ := Service.afterEvents_spec c later events
  rw [← ingestEvents_new] at hafter
  have hage : store.SameAge now later := by
    intro e he
    rw [Bool.eq_iff_iff, EventStore.isCurrent_iff, EventStore.isCurrent_iff, hholds.retention_eq]
    exact h e ((hmem e).mp (hholds.all_perm.mem_iff.mp he)).1
  unfold predictionsAt
  rw [hloaded, hafter, Service.ingestCounts_congr hage]
  refine predictAll_eq (Service.alikeAt_self hage ?_) requests
  exact ⟨⟨rfl, fun _ => rfl⟩, ⟨rfl, fun _ => rfl⟩⟩

/-- **What a dropped event does to a replay.** A replay predicts what it would predict from the
complete events with the clock where it stands. The clock stands where they would have set it if and
only if no dropped event is newer than they are. Even if one is, the predictions are those of a
replay of the complete events, unless one of these is past retention by it. -/
theorem dropped_events_move_only_the_clock (c : DwellConfig α) (scan : ScanOrder)
    (events : List StopEvent) (observations : List Observation) (requests : List DwellRequest) :
    let complete := events.filter StopEvent.isComplete
    predictions c scan events observations requests =
        predictionsAt c scan (clock events) complete observations requests ∧
      (clock complete = clock events ↔
        ∀ e ∈ events, e.isComplete = false → e.time ≤ clock complete) ∧
      ((∀ e ∈ complete, clock complete - c.retentionMs ≤ e.time →
          clock events - c.retentionMs ≤ e.time) →
        predictions c scan events observations requests =
          predictions c scan complete observations requests) := by
  intro complete
  have hdropped : predictions c scan events observations requests =
      predictionsAt c scan (clock events) complete observations requests := by
    rw [predictions_eq, predictionsAt, predictionsAt, ingestEvents_complete]
  refine ⟨hdropped, clock_filter_eq_iff events StopEvent.isComplete, fun hkept => ?_⟩
  have hclock : clock complete ≤ clock events := clock_filter_le events StopEvent.isComplete
  rw [hdropped, predictions_eq]
  refine predictionsAt_congr (fun e he => ⟨fun h => ?_, hkept e he⟩) scan observations requests
  omega

/-- An arrival at a pier, and later an event that does not tell its route. -/
def arrivalAndNameless (later : Int) : List StopEvent :=
  [⟨"1", "pier", "t1", "r", 0, true, 0⟩, ⟨"2", "pier", "t2", "", later, true, 0⟩]

/-- What a replay of events predicts for a vehicle ten minutes after that arrival, given that some
passengers boarded then. -/
def predictionsAfterArrival (events : List StopEvent) : List (DwellRequest × Prediction) :=
  predictions ({ zone := .utc, defaultRate := some 0.125 } : DwellConfig Rat) .entered events
    [⟨"1", 0, 3, 1, none, none⟩]
    [⟨"t3", "r", "pier", 1, "2", some 600000, 0, none, none⟩]

/-- A day later the event moves the clock, and changes no prediction. -/
theorem nameless_event_within_retention :
    clock ((arrivalAndNameless 86400000).filter StopEvent.isComplete) = 0 ∧
      clock (arrivalAndNameless 86400000) = 86400000 ∧
      predictionsAfterArrival (arrivalAndNameless 86400000) =
        predictionsAfterArrival ((arrivalAndNameless 86400000).filter StopEvent.isComplete) := by
  refine ⟨by decide, by decide, ?_⟩
  exact (dropped_events_move_only_the_clock _ _ (arrivalAndNameless 86400000) _ _).2.2 (by decide)

/-- Ten days later it puts the arrival past retention: the passengers who boarded then are not
counted, and the prediction is left to the schedule. -/
theorem dropped_event_puts_arrival_past_retention :
    (predictionsAfterArrival (arrivalAndNameless 864000000)).map Prod.snd = [⟨10000, .baseline⟩] ∧
      (predictionsAfterArrival
          ((arrivalAndNameless 864000000).filter StopEvent.isComplete)).map Prod.snd =
        [⟨0, .passengerCounts⟩] := by
  decide +kernel

end Replay

end TransitDwell
