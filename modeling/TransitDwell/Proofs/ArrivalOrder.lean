import TransitDwell.Proofs.BatchWindow
import TransitDwell.Proofs.StopHistory

/-!
# The order in which events come

Events of different vehicles come over different ways, and which of them comes first is chance. Two
stores that were given the same events in different orders list ties differently, and differ in
nothing else as long as no two events of one vehicle tie (`Untied`). Such stores are `Alike`, and
this module follows what is read off them:

* An observation is joined to events of one vehicle, and these stand in one order only
  (`EventStore.Alike.matchOne_eq`).
* Headways and dwells do not hang on ties at all (`StopHistory`), so that rates and totals do not
  either.

So services that were given the same events in different orders cannot be told apart by batches of
passenger counts and requests, in whatever order stop-days are visited
(`arrival_order_is_invisible`).
-/

namespace TransitDwell

open StopEvent

/-- No two different events of one vehicle tie. -/
def Untied (log : List StopEvent) : Prop :=
  ∀ d ∈ log, ∀ e ∈ log, d.vehicle = e.vehicle → d.ties e = true → d = e

/-! ### Stores with the same events -/

namespace EventStore

/-- Two stores that hold the same events, in whatever order they came, none of one vehicle
tying. -/
def Alike (s t : EventStore) : Prop :=
  ∃ retention zone log log', s.Holds retention zone log ∧ t.Holds retention zone log' ∧
    log.Perm log' ∧ Untied log

namespace Alike

variable {s t : EventStore}

theorem zone_eq (h : s.Alike t) : s.zone = t.zone := by
  obtain ⟨retention, zone, log, log', hs, ht, -, -⟩ := h
  rw [hs.zone_eq, ht.zone_eq]

/-- Readers of a stop-day are shown the same events, ties apart. -/
theorem getForTime_perm (h : s.Alike t) (now : Int) (stop : String) (ts : Int) :
    InOrder (s.getForTime now stop ts) ∧ InOrder (t.getForTime now stop ts) ∧
      (s.getForTime now stop ts).Perm (t.getForTime now stop ts) := by
  obtain ⟨retention, zone, log, log', hs, ht, hperm, -⟩ := h
  exact ⟨(hs.sortedFrom_getForTime now stop ts).ordered,
    (ht.sortedFrom_getForTime now stop ts).ordered,
    hs.getForTime_perm ht (fun e => hperm.mem_iff) now stop ts⟩

/-! ### What is read off stores -/

theorem dayOf_eq (h : s.Alike t) (route stop : String) (ts : Int) :
    PassengerHistory.dayOf s route stop ts = PassengerHistory.dayOf t route stop ts := by
  simp only [PassengerHistory.dayOf, h.zone_eq]

theorem lastHeadway_eq (h : s.Alike t) (now : Int) (stop route : String) (ts : Int) :
    PassengerHistory.lastHeadway s now stop route ts =
      PassengerHistory.lastHeadway t now stop route ts := by
  obtain ⟨hs, ht, hperm⟩ := h.getForTime_perm now stop ts
  exact PassengerHistory.lastHeadway_perm hs ht hperm route

theorem dwellOn_eq (h : s.Alike t) (now : Int) (route stop : String) (ts : Int) :
    PassengerHistory.dwellOn s now route stop ts =
      PassengerHistory.dwellOn t now route stop ts := by
  obtain ⟨hs, ht, hperm⟩ := h.getForTime_perm now stop ts
  exact meanWhole_perm (dwells_perm route hs ht hperm)

variable {α : Type}

theorem headwayBefore_eq (h : s.Alike t) (history : PassengerHistory α) (now : Int)
    (e : StopEvent) : history.headwayBefore s now e = history.headwayBefore t now e := by
  obtain ⟨hs, ht, hperm⟩ := h.getForTime_perm now e.stop e.time
  exact history.headwayBefore_perm hs ht hperm

theorem totalsAt_eq (h : s.Alike t) (history : PassengerHistory α) (route stop : String)
    (ts : Int) : history.totalsAt s route stop ts = history.totalsAt t route stop ts := by
  simp only [PassengerHistory.totalsAt, h.dayOf_eq]

variable [Scalar α]

theorem rateBefore_eq (h : s.Alike t) (history : PassengerHistory α) (route stop : String)
    (ts : Int) : history.rateBefore s route stop ts = history.rateBefore t route stop ts := by
  simp only [PassengerHistory.rateBefore, h.totalsAt_eq]

theorem record_eq (h : s.Alike t) (history : PassengerHistory α) (now : Int) (m : CountMatch) :
    history.record s now m = history.record t now m := by
  simp only [PassengerHistory.record, h.dayOf_eq, h.headwayBefore_eq]

theorem recordAll_eq (h : s.Alike t) (history : PassengerHistory α) (now : Int)
    (ms : List CountMatch) : history.recordAll s now ms = history.recordAll t now ms := by
  simp only [PassengerHistory.recordAll, h.record_eq]

/-- The events that an observation may be joined to are of one vehicle, and stand in one order. -/
theorem matchOne_eq (h : s.Alike t) (scan scan' : ScanOrder) (now : Int) (rule : MatchRule)
    (o : Observation) :
    EventIndex.matchOne rule (.build rule (s.current scan now)) o =
      EventIndex.matchOne rule (.build rule (t.current scan' now)) o := by
  obtain ⟨retention, zone, log, log', hs, ht, hperm, huntied⟩ := h
  have hcurrent : s.isCurrent now = t.isCurrent now := by
    rw [isCurrent_eq, isCurrent_eq, hs.retention_eq, ht.retention_eq]
  have hxs := hs.current_perm scan now
  have hys := ht.current_perm scan' now
  rw [← hcurrent] at hys
  unfold EventIndex.matchOne
  split
  · rfl
  · refine congrArg (CountMatch.mk o) (List.flatMap_congr fun key _ => ?_)
    rw [EventIndex.eventsAt_build, EventIndex.eventsAt_build]
    refine List.Perm.eq_of_pairwise (fun a b ha hb hab hba => ?_)
      ((hs.isSnapshot_current scan now).ordered.filter _)
      ((ht.isSnapshot_current scan' now).ordered.filter _)
      ((hxs.trans ((hperm.filter _).trans hys.symm)).filter _)
    obtain ⟨ha, hkey⟩ := List.mem_filter.mp ha
    obtain ⟨hb, hkey'⟩ := List.mem_filter.mp hb
    have hvehicle : a.vehicle = b.vehicle := by
      simp only [Bool.and_eq_true, beq_iff_eq] at hkey hkey'
      exact congrArg BucketKey.owner (hkey.2.trans hkey'.2.symm)
    have hmem := List.mem_of_mem_filter (hxs.mem_iff.mp ha)
    have hmem' := hperm.mem_iff.mpr (List.mem_of_mem_filter (hys.mem_iff.mp hb))
    exact huntied a hmem b hmem' hvehicle (ties_iff_notAfter.mpr ⟨hab, hba⟩)

end Alike

end EventStore

/-! ### Services with the same events -/

namespace Service

variable {α : Type} [Scalar α]

/-- Two services that differ in nothing but the order in which events came. -/
structure Alike (s t : Service α) : Prop where
  /-- The settings are the same. -/
  config : s.config = t.config
  /-- The events are the same. -/
  events : s.events.Alike t.events
  /-- The daily totals are the same. -/
  history : s.history = t.history
  /-- The doors of vehicles are the same. -/
  doors : s.doors = t.doors
  /-- What attempts keep is the same. -/
  stores : s.stores = t.stores
  /-- What attempts reported is the same. -/
  metrics : s.metrics = t.metrics

/-- Actions that are the same batch, in whatever order stop-days are visited, or the same
request. -/
inductive SameInquiry : Int × Action → Int × Action → Prop where
  /-- The same batch. -/
  | counts (now : Int) (scan scan' : ScanOrder) (batch : List Observation) :
    SameInquiry (now, .ingestCounts scan batch) (now, .ingestCounts scan' batch)
  /-- The same request. -/
  | predict (now : Int) (r : DwellRequest) : SameInquiry (now, .predict r) (now, .predict r)

/-- Whatever is asked of two services, the answers are the same. -/
structure SameReadings (s t : Service α) : Prop where
  /-- So are the daily totals. -/
  totals : ∀ route stop ts,
    s.history.totalsAt s.events route stop ts = t.history.totalsAt t.events route stop ts
  /-- So are rates, headways, historical dwells, doors, and whether there is data at all. -/
  sources : ∀ now, s.sources now = t.sources now
  /-- So is what attempts keep. -/
  stores : s.stores = t.stores

namespace Alike

variable {s t : Service α}

theorem sources_eq (h : s.Alike t) (now : Int) : s.sources now = t.sources now := by
  simp only [sources, h.history, h.doors, h.events.rateBefore_eq, h.events.lastHeadway_eq,
    h.events.dwellOn_eq]

theorem matchBatch_eq (h : s.Alike t) (scan scan' : ScanOrder) (now : Int)
    (batch : List Observation) : s.matchBatch scan now batch = t.matchBatch scan' now batch := by
  rw [Service.matchBatch_eq_filter, Service.matchBatch_eq_filter, h.config]
  simp only [h.events.matchOne_eq scan scan' now]

/-- What one asks of either is answered alike and leaves them alike. -/
theorem act (h : s.Alike t) {a b : Int × Action} (hab : SameInquiry a b) :
    (s.act a).1 = (t.act b).1 ∧ (s.act a).2.Alike (t.act b).2 := by
  cases hab with
  | counts now scan scan' batch =>
    have hmatched := h.matchBatch_eq scan scan' now batch
    refine ⟨congrArg Reply.matched hmatched, h.config, h.events, ?_, ?_, h.stores, h.metrics⟩
    · simp only [Service.act, ingestCounts, hmatched, h.history, h.events.recordAll_eq]
    · simp only [Service.act, ingestCounts, h.doors]
  | predict now r =>
    have hattempt : Attempt.make s.config (s.sources now) now s.stores r =
        Attempt.make t.config (t.sources now) now t.stores r := by
      rw [h.config, h.sources_eq now, h.stores]
    constructor
    · rw [Service.act, Service.act, predict_fst, predict_fst, hattempt, h.config]
    · simp only [Service.act, predict_snd, hattempt]
      exact ⟨h.config, h.events, h.history, h.doors, rfl, by rw [h.metrics]⟩

theorem sameReadings (h : s.Alike t) : s.SameReadings t where
  totals route stop ts := by rw [h.history, h.events.totalsAt_eq]
  sources := h.sources_eq
  stores := h.stores

end Alike

/-! ### Taking in events -/

/-- Whether a service takes in an event: no name is missing, and its store accepts it. -/
def accepts (c : DwellConfig α) (now : Int) (e : StopEvent) : Bool :=
  e.missing?.isNone && EventLog.accepts c.retentionMs c.zone now e

/-- The service after events have come one after the other at one instant. -/
def afterEvents (c : DwellConfig α) (now : Int) (events : List StopEvent) : Service α :=
  afterRun c (events.map fun e => (now, .ingestEvent e))

/-- An event changes the log of a service by itself at most, and nothing else of the service. -/
theorem ingestEvent_spec {s : Service α} {c : DwellConfig α} {log : List StopEvent}
    (h : s.events.Holds c.retentionMs c.zone log) (now : Int) (e : StopEvent) :
    (s.ingestEvent now e).1.isSome = accepts c now e ∧
      ∃ events log', (s.ingestEvent now e).2 = { s with events := events } ∧
        events.Holds c.retentionMs c.zone log' ∧
        ∀ d, d ∈ log' ↔ d ∈ log ∨ accepts c now e = true ∧ d = e := by
  unfold ingestEvent accepts
  cases e.missing? with
  | some name => exact ⟨rfl, s.events, log, rfl, h, by simp⟩
  | none =>
    refine ⟨?_, _, _, rfl, h.put now e, fun d => ?_⟩
    · rw [Option.isNone_none, Bool.true_and, ← h.retention_eq, ← h.zone_eq]
      exact EventStore.put_isSome s.events now e
    · rw [EventLog.mem_enter, Option.isNone_none, Bool.true_and]

/-- What came is what is held: the accepted events, each once, and nothing else has changed. -/
theorem afterEvents_spec (c : DwellConfig α) (now : Int) (events : List StopEvent) :
    ∃ store log, afterEvents c now events = { new c with events := store } ∧
      store.Holds c.retentionMs c.zone log ∧
      ∀ d, d ∈ log ↔ d ∈ events ∧ accepts c now d = true := by
  -- events come upon a store that holds a log already
  suffices ∀ store log, EventStore.Holds c.retentionMs c.zone store log →
      ∃ store' log', Run.after act { new c with events := store }
          (events.map fun e => (now, .ingestEvent e)) = { new c with events := store' } ∧
        store'.Holds c.retentionMs c.zone log' ∧
        ∀ d, d ∈ log' ↔ d ∈ log ∨ d ∈ events ∧ accepts c now d = true by
    obtain ⟨store, log, hafter, hholds, hmem⟩ := this _ _ (EventStore.holds_empty _ _)
    exact ⟨store, log, hafter, hholds, by simpa using hmem⟩
  induction events with
  | nil => exact fun store log h => ⟨store, log, rfl, h, by simp⟩
  | cons e es ih =>
    intro store log h
    obtain ⟨-, store₁, log₁, hone, hholds, hmem₁⟩ :=
      ingestEvent_spec (s := { new c with events := store }) h now e
    obtain ⟨store', log', hafter, hholds', hmem'⟩ := ih store₁ log₁ hholds
    refine ⟨store', log', ?_, hholds', fun d => ?_⟩
    · rw [List.map_cons, Run.after_cons]
      change Run.after act (ingestEvent _ now e).2 _ = _
      rw [hone]
      exact hafter
    · rw [hmem', hmem₁, List.mem_cons]
      constructor
      · rintro ((hd | ⟨haccept, rfl⟩) | ⟨hd, haccept⟩)
        · exact .inl hd
        · exact .inr ⟨.inl rfl, haccept⟩
        · exact .inr ⟨.inr hd, haccept⟩
      · rintro (hd | ⟨rfl | hd, haccept⟩)
        · exact .inl (.inl hd)
        · exact .inl (.inr ⟨haccept, rfl⟩)
        · exact .inr ⟨hd, haccept⟩

/-- Services that were given the same events in different orders are alike. -/
theorem afterEvents_alike {c : DwellConfig α} {now : Int} {events events' : List StopEvent}
    (hperm : events.Perm events') (huntied : Untied (events.filter (accepts c now))) :
    (afterEvents c now events).Alike (afterEvents c now events') := by
  obtain ⟨store, log, hafter, hholds, hmem⟩ := afterEvents_spec c now events
  obtain ⟨store', log', hafter', hholds', hmem'⟩ := afterEvents_spec c now events'
  rw [hafter, hafter']
  refine ⟨rfl, ⟨_, _, log, log', hholds, hholds', ?_, fun d hd e he => ?_⟩, rfl, rfl, rfl, rfl⟩
  · refine (List.perm_ext_iff_of_nodup hholds.once hholds'.once).mpr fun d => ?_
    rw [hmem, hmem', hperm.mem_iff]
  · exact huntied d (List.mem_filter.mpr ((hmem d).mp hd)) e (List.mem_filter.mpr ((hmem e).mp he))

end Service

/-- **The order in which events come is invisible.** Let events come to a new service at one
instant, no two accepted ones of one vehicle being different and at one instant in one direction.
In whatever order they come, and in whatever order stop-days are visited afterwards, batches and
requests are answered alike, and leave the same totals and the same answers to every question. -/
theorem arrival_order_is_invisible {α : Type} [Scalar α] {c : DwellConfig α} {now : Int}
    {events events' : List StopEvent} (hperm : events.Perm events')
    (huntied : ∀ d ∈ events, ∀ e ∈ events, Service.accepts c now d → Service.accepts c now e →
      d.vehicle = e.vehicle → d.time = e.time → d.isArrival = e.isArrival → d = e)
    {later later' : List (Int × Service.Action)}
    (hlater : List.Forall₂ Service.SameInquiry later later') :
    Run.answers Service.act (Service.afterEvents c now events) later =
        Run.answers Service.act (Service.afterEvents c now events') later' ∧
      (Run.after Service.act (Service.afterEvents c now events) later).SameReadings
        (Run.after Service.act (Service.afterEvents c now events') later') := by
  have hlog : Untied (events.filter (Service.accepts c now)) := by
    intro d hd e he hv hties
    obtain ⟨hd, hd'⟩ := List.mem_filter.mp hd
    obtain ⟨he, he'⟩ := List.mem_filter.mp he
    obtain ⟨ht, hdir⟩ := ties_eq_true.mp hties
    exact huntied d hd e he hd' he' hv ht hdir
  have halike := Service.afterEvents_alike hperm hlog
  obtain ⟨hanswers, hafter⟩ :=
    Run.simulation (fun _ _ _ _ h hab => Service.Alike.act h hab) halike hlater
  exact ⟨hanswers, hafter.sameReadings⟩

/-- Three events at one instant: a vehicle arrives and departs, and another one arrives. -/
def simultaneousEvents : List StopEvent :=
  [⟨"1", "pier", "t1", "r", 0, true, 0⟩, ⟨"1", "pier", "t1", "r", 0, false, 0⟩,
    ⟨"2", "mall", "t2", "r", 0, true, 0⟩]

/-- A batch of passenger counts and a request. -/
def inquiries (scan : ScanOrder) : List (Int × Service.Action) :=
  [(1, .ingestCounts scan [⟨"1", 0, 3, 1, none, none⟩, ⟨"2", 0, 2, 0, none, none⟩]),
    (2, .predict ⟨"t3", "r", "pier", 1, "2", some 90000000, 0, none, none⟩)]

/-- The default settings in a zone without transitions. -/
def utcConfig : DwellConfig Rat := { zone := Zone.utc }

/-- The rows of the stop-day that was entered last come first. -/
def ScanOrder.backwards : ScanOrder := ⟨List.reverse, List.reverse_perm⟩

/-- Events of two vehicles at one instant are all taken in, and may come in either order. -/
theorem simultaneousEvents_either_way :
    (∀ e ∈ simultaneousEvents, Service.accepts utcConfig 0 e) ∧
      Run.answers Service.act (Service.afterEvents utcConfig 0 simultaneousEvents)
          (inquiries .entered) =
        Run.answers Service.act (Service.afterEvents utcConfig 0 simultaneousEvents.reverse)
          (inquiries .backwards) ∧
      (Run.after Service.act (Service.afterEvents utcConfig 0 simultaneousEvents)
          (inquiries .entered)).SameReadings
        (Run.after Service.act (Service.afterEvents utcConfig 0 simultaneousEvents.reverse)
          (inquiries .backwards)) := by
  refine ⟨by decide, arrival_order_is_invisible simultaneousEvents.reverse_perm.symm ?_ ?_⟩
  · decide
  · exact .cons (.counts 1 _ _ _) (.cons (.predict 2 _) .nil)

end TransitDwell
