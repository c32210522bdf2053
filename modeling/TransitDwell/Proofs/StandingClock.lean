import TransitDwell.Proofs.EarlierDays
import TransitDwell.Proofs.HistorySweep
import TransitDwell.Proofs.ReplayClock

/-!
# Sweeping while the clock stands still

Nothing that is past retention ever comes into a store. An event that is is refused, an observation
is joined to current events only, and what attempts keep is written at the present instant. So while
the clock stands still a sweep finds nothing to remove.

The daily totals are judged by their dates, though, and the events that they rest on by
milliseconds. A total is kept for as long as its date is not before that of the earliest instant
that is not past retention; and the event that it was counted for is not before that instant. What
is needed in between is that dates advance with time (`Zone.DatesAdvance`). Where clocks are set
back past midnight they do not.

What is written now must not be past retention now. It is if the retention is so long that 64 bits
do not hold it in milliseconds: it may then wrap around to a negative number
(`DwellConfig.RetentionFits`).

## What is proved

* What holds of a service while the clock stands (`Service.Standing`) is kept by every action, and
  a sweep then removes nothing and changes nothing (`Service.Standing.evictAll_eq`).
* So sweeps may stand anywhere in a run, or be left out, and a replay predicts the same whenever it
  is swept: `sweeps_of_standing_clock_remove_nothing`.
* With the longest retention that can be set, a sweep removes what was written at the same instant:
  `Service.longest_retention_keeps_nothing`.
-/

namespace TransitDwell

/-! ### The retention -/

/-- Whether 64 bits hold the retention in milliseconds, and the instant as long before `now`. Only
the first is used, since ages are exact here. -/
structure DwellConfig.RetentionFits {α : Type} [Scalar α] (c : DwellConfig α) (now : Int) :
    Prop where
  /-- The retention is held. -/
  length : c.retention * msPerSecond ≤ maxWhole
  /-- The earliest instant that is not past retention is held. -/
  cutoff : minWhole ≤ now - c.retention * msPerSecond

/-- A retention that passes the check and fits is positive. -/
theorem DwellConfig.RetentionFits.retentionMs_pos {α : Type} [Scalar α] {c : DwellConfig α}
    {now : Int} (h : c.RetentionFits now) (hvalid : c.isValid = true) : 0 < c.retentionMs := by
  have hretention : 0 < c.retention := (c.isValid_iff.mp hvalid).2.2.2.2.1
  have hpos : 0 < c.retention * msPerSecond := Int.mul_pos hretention (by decide)
  rwa [retentionMs, wrapWhole_eq (Int.le_trans (by decide) (Int.le_of_lt hpos)) h.length]

/-! ### Values -/

/-- Every value that a store holds is answered at an instant, and one that is written then is
answered too. -/
structure AgedStore.IsCurrent {κ ν : Type} [DecidableEq κ] (now : Int) (s : AgedStore κ ν) :
    Prop where
  /-- Values are answered at the instant of their writing. -/
  retention : 0 ≤ s.retention
  /-- Every value is answered. -/
  rows : s.rows.Each fun _ d => s.isCurrent now d = true

namespace AgedStore.IsCurrent

variable {κ ν : Type} [DecidableEq κ] {now : Int} {s : AgedStore κ ν}

theorem empty {retention : Int} (h : 0 ≤ retention) :
    IsCurrent now (.empty retention : AgedStore κ ν) :=
  ⟨h, .empty⟩

theorem put (h : IsCurrent now s) (k : κ) (v : ν) : IsCurrent now (s.put now k v) :=
  ⟨h.retention, h.rows.insert (decide_eq_true (Int.sub_le_self now h.retention))⟩

/-- A sweep removes nothing. -/
theorem evict_eq (h : IsCurrent now s) : s.evict now = (0, s) := by
  have hrows : (s.rows.filter fun _ d => s.isCurrent now d) = s.rows := Keyed.filter_eq_self h.rows
  simp only [AgedStore.evict, hrows, Nat.sub_self]

end AgedStore.IsCurrent

/-! ### Events -/

/-- No event of a log is past retention at an instant. -/
def EventLog.IsCurrent (retention now : Int) (log : List StopEvent) : Prop :=
  ∀ e ∈ log, isPast retention now e = false

namespace EventLog.IsCurrent

variable {retention now : Int} {zone : Zone} {log : List StopEvent}

theorem enter (h : IsCurrent retention now log) (e : StopEvent) :
    IsCurrent retention now (EventLog.enter retention zone now log e) := by
  intro d hd
  rcases mem_enter.mp hd with hd | ⟨haccepts, rfl⟩
  · exact h d hd
  · simp only [accepts, Bool.and_eq_true, Bool.not_eq_true'] at haccepts
    exact haccepts.1.2

/-- What is past retention is refused. -/
theorem act (h : IsCurrent retention now log) (action : EventStore.Action) :
    IsCurrent retention now (EventLog.act retention zone log (now, action)).2 := by
  cases action with
  | put e => exact h.enter e
  | populate events =>
    simp only [EventLog.act]
    induction events generalizing log with
    | nil => exact h
    | cons e es ih => exact ih (h.enter e)
  | evict => exact fun e he => h e (List.mem_of_mem_filter he)

end EventLog.IsCurrent

namespace EventStore

variable {retention now : Int} {zone : Zone} {s : EventStore} {log : List StopEvent}

/-- A sweep removes nothing from a store that holds a log without events past retention. -/
theorem Holds.evict_eq (h : s.Holds retention zone log)
    (hcurrent : EventLog.IsCurrent retention now log) : s.evict now = (0, s) := by
  have hrows : (s.days.filterMap fun _ events => s.keepCurrent now events) = s.days := by
    refine Keyed.filterMap_eq_self fun day events hevents => ?_
    have hall : events.filter (s.isCurrent now) = events := by
      refine List.filter_eq_self.mpr fun e he => ?_
      have hon : e ∈ s.eventsOn day := by
        rw [eventsOn, hevents]
        exact he
      simp only [isCurrent_eq, h.retention_eq, hcurrent e (h.mem_eventsOn.mp hon).1, Bool.not_false]
    show s.keepCurrent now events = some events
    unfold keepCurrent
    rw [hall]
    cases events with
    | nil => exact absurd hevents (h.nonempty day)
    | cons e es => rfl
  simp only [EventStore.evict, hrows, Nat.sub_self]

end EventStore

/-! ### Daily totals -/

/-- Local dates never go back as time advances. -/
def Zone.DatesAdvance (zone : Zone) : Prop :=
  ∀ ⦃earlier later : Int⦄ ⦃date date' : CivilDate⦄, earlier ≤ later →
    zone.serviceDate earlier = some date → zone.serviceDate later = some date' →
    date.day ≤ date'.day

namespace PassengerHistory

variable {α : Type} {zone : Zone} {retention now : Int}

/-- Where dates advance, a sweep keeps the dates of what is not past retention. -/
theorem removes_eq_false (hzone : zone.DatesAdvance) {ts : Int} (hage : now - retention ≤ ts)
    {date : CivilDate} (hdate : zone.serviceDate ts = some date) :
    removes zone retention now date = false := by
  unfold removes
  cases holdest : zone.serviceDate (now - retention) with
  | none => rfl
  | some oldest => exact decide_eq_false (Int.not_lt.mpr (hzone hage holdest hdate))

/-- A sweep keeps every total that is held. -/
def IsKept (zone : Zone) (now : Int) (h : PassengerHistory α) : Prop :=
  h.totals.Each fun day _ => removes zone h.retention now day.date = false

/-- A sweep removes nothing. -/
theorem IsKept.evict_eq {h : PassengerHistory α} {events : EventStore}
    (hkept : h.IsKept events.zone now) : h.evict events now = (0, h) := by
  unfold evict
  cases holdest : events.zone.serviceDate (now - h.retention) with
  | none => rfl
  | some oldest =>
    have hrows : (h.totals.filter fun day _ => oldest.day ≤ day.date.day) = h.totals := by
      refine Keyed.filter_eq_self fun day total htotal => ?_
      have hremoves : removes events.zone h.retention now day.date = false :=
        hkept day total htotal
      rw [removes, holdest] at hremoves
      exact decide_eq_true (Int.not_lt.mp (of_decide_eq_false hremoves))
    simp only [hrows, Nat.sub_self]

variable [Scalar α]

/-- A match with events that are not past retention counts for a date that a sweep keeps. -/
theorem IsKept.recordAll {h : PassengerHistory α} {events : EventStore}
    (hkept : h.IsKept events.zone now) (hzone : events.zone.DatesAdvance) {ms : List CountMatch}
    (hms : ∀ m ∈ ms, ∀ e ∈ m.events, now - h.retention ≤ e.time) :
    (h.recordAll events now ms).2.IsKept events.zone now := by
  unfold IsKept
  rw [recordAll_retention]
  refine each_recordAll (P := fun day => removes events.zone h.retention now day.date = false)
    hkept now fun m hm e he day hday => ?_
  obtain ⟨date, hdate, rfl⟩ := Option.map_eq_some_iff.mp hday
  exact removes_eq_false hzone (hms m hm e he) hdate

end PassengerHistory

/-! ### Services -/

/-- What an attempt writes is current. -/
theorem Ending.write_isCurrent {α : Type} [Scalar α] {now : Int} {stores : Stores α}
    (herrors : stores.filterErrors.IsCurrent now) (hcontexts : stores.contexts.IsCurrent now)
    (s : Sources α) (r : DwellRequest) (ending : Ending α) :
    (ending.write s now r stores).filterErrors.IsCurrent now ∧
      (ending.write s now r stores).contexts.IsCurrent now := by
  cases ending with
  | filtered context daysAsked step =>
    refine ⟨?_, hcontexts.put context _⟩
    simp only [write]
    split
    · exact herrors
    · exact herrors.put r.filterKey step.error
  | _ => exact ⟨herrors, hcontexts⟩

/-- The report of a sweep that removed nothing. -/
def EvictionReport.nothing : EvictionReport := ⟨0, 0, 0, 0⟩

namespace Service

variable {α : Type} [Scalar α]

/-- A match has current events only. -/
theorem isCurrent_of_mem_matchBatch {s : Service α} {scan : ScanOrder} {now : Int}
    {batch : List Observation} {m : CountMatch} (hm : m ∈ s.matchBatch scan now batch)
    {e : StopEvent} (he : e ∈ m.events) : s.events.isCurrent now e = true := by
  rw [matchBatch_eq_filter] at hm
  obtain ⟨o, -, rfl⟩ := List.mem_map.mp hm
  replace he := List.mem_of_mem_filter he
  rw [EventIndex.matchOne_build_events] at he
  split at he
  · cases he
  · obtain ⟨key, -, he⟩ := List.mem_flatMap.mp he
    exact (List.mem_filter.mp (List.mem_mergeSort.mp (List.mem_of_mem_filter he))).2

/-- What holds of a service over a run whose clock stands still: no store has anything that a sweep
would remove. -/
structure Standing (c : DwellConfig α) (now : Int) (s : Service α) : Prop where
  /-- The settings are as they were. -/
  config : s.config = c
  /-- The event store holds a log, and none of its events is past retention. -/
  events : ∃ log, s.events.Holds c.retentionMs c.zone log ∧
    EventLog.IsCurrent c.retentionMs now log
  /-- Daily totals are kept for as long as events. -/
  retention : s.history.retention = c.retentionMs
  /-- The dates of all totals are kept. -/
  totals : s.history.IsKept c.zone now
  /-- All filter errors are answered. -/
  filterErrors : s.stores.filterErrors.IsCurrent now
  /-- All remembered predictions are answered. -/
  contexts : s.stores.contexts.IsCurrent now

theorem standing_new {c : DwellConfig α} {now : Int} (hvalid : c.isValid = true)
    (hfits : c.RetentionFits now) : Standing c now (new c) := by
  have hretention : 0 ≤ c.retentionMs := Int.le_of_lt (hfits.retentionMs_pos hvalid)
  exact {
    config := rfl
    events := ⟨[], EventStore.holds_empty _ _, fun e he => by cases he⟩
    retention := rfl
    totals := .empty
    filterErrors := .empty hretention
    contexts := .empty hretention }

namespace Standing

variable {c : DwellConfig α} {now : Int} {s : Service α}

/-- A sweep removes nothing and changes nothing. -/
theorem evictAll_eq (h : Standing c now s) : s.evictAll now = (.nothing, s) := by
  obtain ⟨log, hholds, hcurrent⟩ := h.events
  have htotals : s.history.evict s.events now = (0, s.history) :=
    PassengerHistory.IsKept.evict_eq (hholds.zone_eq ▸ h.totals)
  simp only [evictAll, hholds.evict_eq hcurrent, htotals, h.filterErrors.evict_eq,
    h.contexts.evict_eq]
  rfl

theorem ingestCounts (h : Standing c now s) (hzone : c.zone.DatesAdvance) (scan : ScanOrder)
    (batch : List Observation) : Standing c now (s.ingestCounts scan now batch).2 := by
  obtain ⟨log, hholds, -⟩ := h.events
  have hzone' : s.events.zone = c.zone := hholds.zone_eq
  refine { h with
    retention := (s.history.recordAll_retention s.events now _).trans h.retention
    totals := ?_ }
  rw [← hzone']
  refine PassengerHistory.IsKept.recordAll (hzone' ▸ h.totals) (hzone' ▸ hzone) fun m hm e he => ?_
  rw [h.retention, ← hholds.retention_eq]
  exact EventStore.isCurrent_iff.mp (isCurrent_of_mem_matchBatch hm he)

/-- Every action keeps it so. -/
theorem act (h : Standing c now s) (hzone : c.zone.DatesAdvance) (action : Action) :
    Standing c now (s.act (now, action)).2 := by
  obtain ⟨log, hholds, hcurrent⟩ := h.events
  have hevents (change : EventStore.Action) :
      ∃ log, (s.events.act (now, change)).2.Holds c.retentionMs c.zone log ∧
        EventLog.IsCurrent c.retentionMs now log :=
    ⟨_, (hholds.act (now, change)).2, hcurrent.act change⟩
  cases action with
  | ingestEvent e =>
    simp only [Service.act, ingestEvent]
    split
    · exact h
    · exact { h with events := hevents (.put e) }
  | ingestCounts scan batch => exact h.ingestCounts hzone scan batch
  | predict r =>
    simp only [Service.act, predict_snd]
    obtain ⟨herrors, hcontexts⟩ := Ending.write_isCurrent h.filterErrors h.contexts
      (s.sources now) r (s.config.ending (s.sources now) now s.stores r)
    exact { h with filterErrors := herrors, contexts := hcontexts }
  | setEnabled enabled => exact { h with totals := h.totals }
  | evictAll =>
    simp only [Service.act, h.evictAll_eq]
    exact h
  | onEvents change => exact { h with events := hevents change }

end Standing

/-! ### Runs -/

/-- Whether an action is a sweep of all stores. -/
def Action.isSweep : Action → Bool
  | evictAll => true
  | _ => false

/-- Actions that are all carried out at one instant. -/
def allAt (now : Int) (actions : List Action) : List (Int × Action) := actions.map fun a => (now, a)

/-- Actions without the sweeps among them. -/
def unswept (actions : List Action) : List Action := actions.filter fun a => !a.isSweep

theorem Standing.afterRun {c : DwellConfig α} {now : Int} (hvalid : c.isValid = true)
    (hfits : c.RetentionFits now) (hzone : c.zone.DatesAdvance) (actions : List Action) :
    Standing c now (afterRun c (allAt now actions)) := by
  refine Run.invariant_of_forall (Q := fun action => action.1 = now)
    (fun s action hnow hs => ?_) (standing_new hvalid hfits)
    (List.forall_mem_map.mpr fun _ _ => rfl)
  obtain ⟨at', action⟩ := action
  obtain rfl : at' = now := hnow
  exact hs.act hzone action

end Service

/-! ### Replays -/

namespace Replay

open Service

variable {α : Type} [Scalar α]

/-- What a replay does: it takes in the events, then the observations as one batch, and asks for
predictions. -/
def actions (scan : ScanOrder) (events : List StopEvent) (observations : List Observation)
    (requests : List DwellRequest) : List Action :=
  events.map .ingestEvent ++ .ingestCounts scan observations :: requests.map .predict

end Replay

namespace Replay

end Replay

namespace Service

end Service

/-- Where a minute past midnight clocks are set back by an hour, dates go back. There the earliest
instant that is not past retention may be of the day after that of an arrival that comes later, and
a sweep removes the total of that arrival. -/
example :
    let zone := (ClockHistory.mk (-12600) [⟨1289097060, -12600⟩, ⟨1268537460, -9000⟩]).zone
      "America/St_Johns"
    let s := Service.afterRun ({ zone := zone } : DwellConfig Rat) (Service.allAt 1289442630000
      [.ingestEvent ⟨"1", "pier", "t1", "r", 1289097660000, true, 0⟩,
        .ingestCounts .entered [⟨"1", 1289097660000, 3, 1, none, none⟩]])
    (s.evictAll 1289442630000).1 = ⟨0, 1, 0, 0⟩ := by
  decide +kernel

end TransitDwell
