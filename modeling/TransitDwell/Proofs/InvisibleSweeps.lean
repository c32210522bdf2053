import Mathlib.Data.List.Induction
import Mathlib.Data.Set.Card
import TransitDwell.Attempt
import TransitDwell.Proofs.Snapshot

/-!
# Sweeps that no reader sees

Three stores forget by age: the events, the filter errors and the remembered predictions. Each of
them is written, swept and read at instants, and each compares ages in several places. That these
comparisons agree, to the millisecond, is said here by what a reader is shown in the end, in words
that know of no sweep.

* A reader of an aged store is shown the value of the latest write at the key, if it is no older
  than the retention (`AgedStore.get?_after`).
* A reader of the event store is shown what he would be shown if all events came at the instant of
  his reading (`EventLog.shown_after`).

The reading must not come before an action of the run. Where the clock does not go back it never
does, and nothing more is needed of the clock, nor anything of the retention.

A sweep also counts what is left: it leaves one row for each key that is still answered, and no
other (`AgedStore.encard_answered`, `EventStore.mem_keys_evict_iff`).

Main statement: `sweeps_are_invisible`.
-/

namespace TransitDwell

/-! ### Keys that are answered -/

/-- A table has one row for each key that it answers. -/
theorem Keyed.encard_answered {κ ν : Type} [DecidableEq κ] (t : Keyed κ ν) :
    {k | (t.get? k).isSome}.encard = t.size := by
  have hkeys : {k | (t.get? k).isSome} = (t.keys.toFinset : Set κ) := by
    ext k
    simp [Option.isSome_iff_exists, keys, ← mem_entries_iff]
  have hnodup : t.keys.Nodup := t.nodup
  rw [hkeys, Set.encard_coe_eq_coe_finsetCard, List.toFinset_card_of_nodup hnodup]
  exact congrArg _ (List.length_map _)

/-! ### Aged stores -/

namespace AgedStore

variable {κ ν : Type}

/-- A change to an aged store. -/
inductive Action (κ ν : Type) where
  /-- A value is written. -/
  | put (k : κ) (v : ν)
  /-- The store is swept. -/
  | evict

/-- Whether a change is a sweep. -/
def Action.isSweep : Action κ ν → Bool
  | put _ _ => false
  | evict => true

variable [DecidableEq κ]

/-- Carries out a change at an instant and tells how many values it removed. -/
def act (s : AgedStore κ ν) : Int × Action κ ν → Nat × AgedStore κ ν
  | (now, .put k v) => (0, s.put now k v)
  | (now, .evict) => s.evict now

/-- What a change writes at a key. -/
def writeAt? (k : κ) : Int × Action κ ν → Option (Dated ν)
  | (now, .put j v) => if k = j then some ⟨v, now⟩ else none
  | (_, .evict) => none

/-- The latest write at a key in a run. -/
def latestWrite? (k : κ) (actions : List (Int × Action κ ν)) : Option (Dated ν) :=
  (actions.filterMap (writeAt? k)).getLast?

theorem latestWrite?_snoc (k : κ) (actions : List (Int × Action κ ν)) (action : Int × Action κ ν) :
    latestWrite? k (actions ++ [action]) = (writeAt? k action).or (latestWrite? k actions) := by
  unfold latestWrite?
  rw [List.filterMap_append, List.getLast?_append]
  cases h : writeAt? k action <;> simp [h]

/-- Sweeps write nothing. -/
theorem latestWrite?_unswept (k : κ) (actions : List (Int × Action κ ν)) :
    latestWrite? k (actions.filter fun action => !action.2.isSweep) = latestWrite? k actions := by
  unfold latestWrite?
  rw [List.filterMap_filter]
  congr 2
  funext ⟨now, change⟩
  cases change <;> rfl

theorem after_retention (s : AgedStore κ ν) (actions : List (Int × Action κ ν)) :
    (Run.after act s actions).retention = s.retention := by
  refine Run.invariant (P := fun t : AgedStore κ ν => t.retention = s.retention)
    (fun t action ht => ?_) rfl actions
  obtain ⟨now, change⟩ := action
  cases change <;> exact ht

/-- After a run a key is answered with what was written there latest, if that is no older than the
retention. -/
theorem get?_after (retention : Int) {actions : List (Int × Action κ ν)} {now : Int}
    (hnow : ∀ action ∈ actions, action.1 ≤ now) (k : κ) :
    (Run.after act (.empty retention) actions).get? now k =
      (latestWrite? k actions).bind fun d =>
        if now - retention ≤ d.writtenAt then some d.value else none := by
  -- later writes come after earlier ones, so the run is taken apart at its end
  induction actions using List.reverseRecOn with
  | nil => rfl
  | append_singleton actions action ih =>
    obtain ⟨hbefore, hlast⟩ := List.forall_mem_append.mp hnow
    obtain ⟨at', change⟩ := action
    have hle : at' ≤ now := hlast _ (List.mem_singleton_self _)
    rw [Run.after_append, Run.after_cons, Run.after_nil, latestWrite?_snoc]
    cases change with
    | put j v =>
      change ((Run.after act _ actions).put at' j v).get? now k = _
      rw [get?_put, after_retention, ih hbefore, writeAt?]
      split
      · rfl
      · rfl
    | evict =>
      change ((Run.after act _ actions).evict at').2.get? now k = _
      rw [get?_evict _ _ _ _ hle, ih hbefore]
      rfl

theorem get?_after_eq_some_iff (retention : Int) {actions : List (Int × Action κ ν)} {now : Int}
    (hnow : ∀ action ∈ actions, action.1 ≤ now) (k : κ) (v : ν) :
    (Run.after act (.empty retention) actions).get? now k = some v ↔
      ∃ writtenAt, latestWrite? k actions = some ⟨v, writtenAt⟩ ∧ now - writtenAt ≤ retention := by
  rw [get?_after retention hnow, Option.bind_eq_some_iff]
  constructor
  · rintro ⟨⟨w, writtenAt⟩, hlatest, hanswer⟩
    split at hanswer
    · next hage =>
      obtain rfl : w = v := Option.some.inj hanswer
      exact ⟨writtenAt, hlatest, by simp only at hage; omega⟩
    · cases hanswer
  · rintro ⟨writtenAt, hlatest, hage⟩
    exact ⟨_, hlatest, if_pos (by simp only; omega)⟩

/-- Without its sweeps a run answers the same. -/
theorem get?_unswept (retention : Int) {actions : List (Int × Action κ ν)} {now : Int}
    (hnow : ∀ action ∈ actions, action.1 ≤ now) (k : κ) :
    (Run.after act (.empty retention) (actions.filter fun action => !action.2.isSweep)).get? now k =
      (Run.after act (.empty retention) actions).get? now k := by
  have hnow' : ∀ action ∈ actions.filter (fun action => !action.2.isSweep), action.1 ≤ now :=
    fun action haction => hnow action (List.mem_of_mem_filter haction)
  rw [get?_after retention hnow, get?_after retention hnow', latestWrite?_unswept]

/-- What a sweep leaves is answered. -/
theorem get?_evict_self (s : AgedStore κ ν) (now : Int) (k : κ) :
    (s.evict now).2.get? now k = ((s.evict now).2.rows.get? k).map Dated.value := by
  unfold get?
  cases h : (s.evict now).2.rows.get? k with
  | none => rfl
  | some d =>
    rw [evict, Keyed.get?_filter, Option.filter_eq_some_iff] at h
    exact if_pos h.2

/-- A sweep leaves one value for each key that is answered. -/
theorem encard_answered (s : AgedStore κ ν) (now : Int) :
    {k | ((s.evict now).2.get? now k).isSome}.encard = (s.evict now).2.size := by
  simp only [get?_evict_self, Option.isSome_map]
  exact Keyed.encard_answered _

end AgedStore

/-! ### Logs -/

/-- The events that a change brings. -/
def EventStore.Action.events : EventStore.Action → List StopEvent
  | put e => [e]
  | populate events => events
  | evict => []

/-- Whether a change is a sweep. -/
def EventStore.Action.isSweep : EventStore.Action → Bool
  | put _ => false
  | populate _ => false
  | evict => true

namespace EventLog

variable {retention : Int} {zone : Zone} {at' now : Int} {log : List StopEvent}

/-- The events of a log that are not past retention. -/
def shown (retention now : Int) (log : List StopEvent) : List StopEvent :=
  log.filter fun e => !isPast retention now e

theorem mem_shown {e : StopEvent} :
    e ∈ shown retention now log ↔ e ∈ log ∧ isPast retention now e = false := by
  rw [shown, List.mem_filter, Bool.not_eq_true']

/-- What is past retention stays so. -/
theorem isPast_of_le (hle : at' ≤ now) {e : StopEvent} (h : isPast retention now e = false) :
    isPast retention at' e = false := by
  unfold isPast at *
  rw [decide_eq_false_iff_not] at *
  omega

/-- A reader is shown an event that came before as if it came when he reads. -/
theorem shown_enter (hle : at' ≤ now) (e : StopEvent) :
    shown retention now (enter retention zone at' log e) =
      enter retention zone now (shown retention now log) e := by
  cases hpast : isPast retention now e with
  | true =>
    -- he is not shown the event, accepted then or not
    have hnot : ¬ accepts retention zone now e = true := by simp [accepts, hpast]
    rw [enter_of_not_accepts hnot]
    unfold enter
    split
    · simp [shown, List.filter_append, hpast]
    · rfl
  | false =>
    have haccepts : accepts retention zone at' e = accepts retention zone now e := by
      rw [accepts, accepts, hpast, isPast_of_le hle hpast]
    have hmem : e ∈ shown retention now log ↔ e ∈ log := by simp [mem_shown, hpast]
    simp only [enter, haccepts, hmem]
    split
    · simp [shown, List.filter_append, hpast]
    · rfl

/-- He does not miss what a sweep removed before. -/
theorem shown_evict (hle : at' ≤ now) :
    shown retention now (log.filter fun e => !isPast retention at' e) =
      shown retention now log := by
  rw [shown, shown, List.filter_filter]
  refine List.filter_congr fun e _ => ?_
  cases hpast : isPast retention now e with
  | true => rfl
  | false => rw [isPast_of_le hle hpast]; rfl

theorem shown_act (hle : at' ≤ now) (change : EventStore.Action) :
    shown retention now (act retention zone log (at', change)).2 =
      change.events.foldl (enter retention zone now) (shown retention now log) := by
  cases change with
  | put e => exact shown_enter hle e
  | populate events =>
    change shown retention now (events.foldl (enter retention zone at') log) =
      events.foldl (enter retention zone now) (shown retention now log)
    induction events generalizing log with
    | nil => rfl
    | cons e es ih => rw [List.foldl_cons, ih, shown_enter hle, List.foldl_cons]
  | evict => exact shown_evict hle

/-- After a run a reader is shown what he would be shown if all its events came when he reads. -/
theorem shown_after {actions : List (Int × EventStore.Action)}
    (hnow : ∀ action ∈ actions, action.1 ≤ now) :
    shown retention now (Run.after (act retention zone) log actions) =
      (actions.flatMap fun action => action.2.events).foldl (enter retention zone now)
        (shown retention now log) := by
  induction actions generalizing log with
  | nil => rfl
  | cons action actions ih =>
    obtain ⟨hle, hlater⟩ := List.forall_mem_cons.mp hnow
    rw [Run.after_cons, ih hlater, shown_act hle, List.flatMap_cons, List.foldl_append]

/-- Sweeps bring nothing. -/
theorem events_unswept (actions : List (Int × EventStore.Action)) :
    (actions.filter fun action => !action.2.isSweep).flatMap (fun action => action.2.events) =
      actions.flatMap fun action => action.2.events := by
  induction actions with
  | nil => rfl
  | cons action actions ih =>
    obtain ⟨at', change⟩ := action
    cases change with
    | put e => exact congrArg ([e] ++ ·) ih
    | populate events => exact congrArg (events ++ ·) ih
    | evict => exact ih

/-- Without its sweeps a run shows a reader the same. -/
theorem shown_unswept {actions : List (Int × EventStore.Action)}
    (hnow : ∀ action ∈ actions, action.1 ≤ now) :
    shown retention now
        (Run.after (act retention zone) log (actions.filter fun action => !action.2.isSweep)) =
      shown retention now (Run.after (act retention zone) log actions) := by
  have hnow' : ∀ action ∈ actions.filter (fun action => !action.2.isSweep), action.1 ≤ now :=
    fun action haction => hnow action (List.mem_of_mem_filter haction)
  rw [shown_after hnow, shown_after hnow', events_unswept]

end EventLog

/-! ### Readers of events -/

namespace EventStore

variable {retention now : Int} {zone : Zone} {s s' : EventStore} {log log' : List StopEvent}

/-- What readers of two stores are shown at an instant is the same. Where a range of time is read
across stop-days, events of different stops that tie may stand either way, unless the one store
visits its stop-days in the order in which the other does. -/
structure ShownAlike (now : Int) (s s' : EventStore) : Prop where
  /-- The events of a stop-day. -/
  get : ∀ day, s.get now day = s'.get now day
  /-- The events of the stop-day of an instant. -/
  getForTime : ∀ stop ts, s.getForTime now stop ts = s'.getForTime now stop ts
  /-- The events of a range of time. -/
  between : ∀ scan scan' start stop,
    SameUpToStops (s.between scan now start stop) (s'.between scan' now start stop)
  /-- The events of a range of time, where stop-days are visited in one order. -/
  between_eq : ∀ scan scan' : ScanOrder,
    ((scan.visit s.days.entries).map Prod.fst).Sublist
      ((scan'.visit s'.days.entries).map Prod.fst) →
    ∀ start stop, s.between scan now start stop = s'.between scan' now start stop

/-- A stop-day that is not visited shows nothing. -/
theorem get_eq_nil_of_not_visited {scan : ScanOrder} {day : StopDay}
    (h : day ∉ (scan.visit s.days.entries).map Prod.fst) : s.get now day = [] := by
  cases hevents : s.days.get? day with
  | none => rw [EventStore.get, hevents, Option.getD_none, List.filter_nil]
  | some events =>
    have hrow : (day, events) ∈ s.days.entries := (Keyed.mem_entries_iff _ _ _).mpr hevents
    exact absurd (List.mem_map_of_mem ((scan.perm _).mem_iff.mpr hrow)) h

/-- A range of time is read from what the stop-days show. -/
theorem between_eq_flatMap (s : EventStore) (scan : ScanOrder) (now start stop : Int) :
    s.between scan now start stop =
      (((scan.visit s.days.entries).map Prod.fst).flatMap fun day =>
        (s.get now day).filter fun e => start ≤ e.time && e.time < stop).mergeSort
          StopEvent.notAfter := by
  rw [between, List.flatMap_map]
  refine congrArg (List.mergeSort · _) (List.flatMap_congr fun row hrow => ?_)
  have hevents := eventsOn_of_mem ((scan.perm s.days.entries).mem_iff.mp hrow)
  have hget : s.get now row.1 = row.2.filter (s.isCurrent now) := by rw [← hevents]; rfl
  rw [hget]
  exact s.filter_range_eq now start stop row.2

/-- A snapshot of a store is one of every store that shows the same. -/
theorem IsSnapshot.of_get_eq {xs : List StopEvent} (hx : s.IsSnapshot now xs)
    (hzone : s.zone = s'.zone) (hget : ∀ day, s.get now day = s'.get now day) :
    s'.IsSnapshot now xs where
  ordered := hx.ordered
  mem_iff e := by simp only [hx.mem_iff, hget]
  on day := by rw [← hzone, hx.on, hget]

namespace Holds

/-- A stop-day shows what is shown of the log. -/
theorem get_eq (h : s.Holds retention zone log) (h' : s'.Holds retention zone log')
    (hshown : EventLog.shown retention now log = EventLog.shown retention now log')
    (day : StopDay) : s.get now day = s'.get now day := by
  have hvisible (l : List StopEvent) : EventLog.visible retention zone l now day =
      (EventLog.shown retention now l).filter fun e => e.isOn zone day :=
    (List.filter_filter ..).symm
  have hget := h.sortedFrom_get now day
  rw [hvisible, hshown, ← hvisible] at hget
  exact hget.unique (h'.sortedFrom_get now day)

/-- Stores whose logs show the same show readers the same. -/
theorem shownAlike (h : s.Holds retention zone log) (h' : s'.Holds retention zone log')
    (hshown : EventLog.shown retention now log = EventLog.shown retention now log') :
    ShownAlike now s s' := by
  have hget := h.get_eq h' hshown
  have hzone : s.zone = s'.zone := h.zone_eq.trans h'.zone_eq.symm
  refine ⟨hget, fun stop ts => ?_, fun scan scan' start stop => ?_,
    fun scan scan' hvisits start stop => ?_⟩
  · simp only [EventStore.getForTime, EventStore.dayOf, hzone, hget]
  · rw [between_eq, between_eq]
    exact ((h.isSnapshot_current scan now).of_get_eq hzone hget).filter_same h'
      (h'.isSnapshot_current scan' now) _
  · have hnodup : ((scan'.visit s'.days.entries).map Prod.fst).Nodup :=
      ((scan'.perm s'.days.entries).map Prod.fst).nodup_iff.mpr s'.days.nodup
    rw [between_eq_flatMap, between_eq_flatMap]
    simp only [hget]
    refine congrArg (List.mergeSort · _) (flatMap_eq_of_sublist hvisits hnodup fun day _ hday => ?_)
    rw [← hget, get_eq_nil_of_not_visited hday, List.filter_nil]

end Holds

/-! What a sweep leaves. -/

/-- A sweep leaves a stop-day if it shows something. -/
theorem isSome_get?_evict_iff (s : EventStore) (now : Int) (day : StopDay) :
    ((s.evict now).2.days.get? day).isSome ↔ (s.evict now).2.get now day ≠ [] := by
  have hshown : (s.evict now).2.get now day = (s.evict now).2.eventsOn day := by
    change ((s.evict now).2.eventsOn day).filter (s.isCurrent now) = _
    rw [eventsOn_evict, List.filter_filter]
    simp only [Bool.and_self]
  rw [hshown, eventsOn]
  cases hleft : (s.evict now).2.days.get? day with
  | none => simp
  | some events =>
    have hne : events ≠ [] := by
      rintro rfl
      rw [get?_evict, Option.bind_eq_some_iff] at hleft
      obtain ⟨held, -, hkept⟩ := hleft
      exact keepCurrent_ne_nil s now held hkept
    simp [hne]

/-- After a sweep the stop-days listed are those that show something. -/
theorem mem_keys_evict_iff (s : EventStore) (now : Int) (day : StopDay) :
    day ∈ (s.evict now).2.keys ↔ (s.evict now).2.get now day ≠ [] := by
  rw [mem_keys_iff, ← isSome_get?_evict_iff, Option.isSome_iff_exists]

/-- There are as many stop-days then. -/
theorem encard_shown (s : EventStore) (now : Int) :
    {day | (s.evict now).2.get now day ≠ []}.encard = (s.evict now).2.days.size := by
  simp only [← isSome_get?_evict_iff]
  exact Keyed.encard_answered _

end EventStore

/-! ### The three stores together -/

/-- The stores that are judged by age alone. -/
structure AgedStores (α : Type) extends Stores α where
  /-- The events of every stop. -/
  events : EventStore

namespace AgedStores

variable {α : Type}

/-- Stores without values, each with a retention of its own. -/
def empty (zone : Zone) (eventRetention errorRetention contextRetention : Int) : AgedStores α where
  filterErrors := .empty errorRetention
  contexts := .empty contextRetention
  events := .empty eventRetention zone

/-- A change to one of the stores. -/
inductive Action (α : Type) where
  /-- A change to the events. -/
  | events (change : EventStore.Action)
  /-- A change to the filter errors. -/
  | filterErrors (change : AgedStore.Action FilterKey α)
  /-- A change to the remembered predictions. -/
  | contexts (change : AgedStore.Action PredictionContext Int)

namespace Action

/-- Whether a change is a sweep. -/
def isSweep : Action α → Bool
  | events change => change.isSweep
  | filterErrors change => change.isSweep
  | contexts change => change.isSweep

/-- The change to the events. -/
def onEvents? : Action α → Option EventStore.Action
  | events change => some change
  | _ => none

/-- The change to the filter errors. -/
def onFilterErrors? : Action α → Option (AgedStore.Action FilterKey α)
  | filterErrors change => some change
  | _ => none

/-- The change to the remembered predictions. -/
def onContexts? : Action α → Option (AgedStore.Action PredictionContext Int)
  | contexts change => some change
  | _ => none

end Action

/-- What a store answers to a change. -/
inductive Reply where
  /-- What the event store answers. -/
  | onEvents (reply : EventStore.Reply)
  /-- The number of values that were removed. -/
  | removed (count : Nat)

/-- Carries out a change at an instant. -/
def act (s : AgedStores α) : Int × Action α → Reply × AgedStores α
  | (now, .events change) =>
    (.onEvents (s.events.act (now, change)).1, { s with events := (s.events.act (now, change)).2 })
  | (now, .filterErrors change) =>
    (.removed (s.filterErrors.act (now, change)).1,
      { s with filterErrors := (s.filterErrors.act (now, change)).2 })
  | (now, .contexts change) =>
    (.removed (s.contexts.act (now, change)).1,
      { s with contexts := (s.contexts.act (now, change)).2 })

/-- Changes without the sweeps among them. -/
def unswept (actions : List (Int × Action α)) : List (Int × Action α) :=
  actions.filter fun action => !action.2.isSweep

/-- The changes to one of the stores in a run. -/
def changes {β : Type} (on? : Action α → Option β) (actions : List (Int × Action α)) :
    List (Int × β) :=
  actions.filterMap fun action => (on? action.2).map (action.1, ·)

section Changes

variable {β : Type} {on? : Action α → Option β}

theorem forall_mem_changes {actions : List (Int × Action α)} {now : Int}
    (hnow : ∀ action ∈ actions, action.1 ≤ now) :
    ∀ action ∈ changes on? actions, action.1 ≤ now := by
  intro action haction
  obtain ⟨whole, hwhole, hchange⟩ := List.mem_filterMap.mp haction
  obtain ⟨change, -, rfl⟩ := Option.map_eq_some_iff.mp hchange
  exact hnow whole hwhole

/-- The changes to a store without its sweeps are those of the run without sweeps. -/
theorem changes_unswept (isSweep : β → Bool)
    (hsweep : ∀ action change, on? action = some change → action.isSweep = isSweep change)
    (actions : List (Int × Action α)) :
    changes on? (unswept actions) =
      (changes on? actions).filter fun action => !isSweep action.2 := by
  unfold changes unswept
  rw [List.filterMap_filter, List.filter_filterMap]
  congr 1
  funext ⟨at', action⟩
  cases hchange : on? action with
  | none => simp
  | some change => simp only [hsweep action change hchange, Option.map_some, Option.filter_some]

/-- A run changes a store as the changes to it do. -/
theorem after_part {τ ρ : Type} (part : AgedStores α → τ) {step : τ → Int × β → ρ × τ}
    (hstep : ∀ s now action, part (act s (now, action)).2 =
      match on? action with
      | some change => (step (part s) (now, change)).2
      | none => part s)
    (s : AgedStores α) (actions : List (Int × Action α)) :
    part (Run.after act s actions) = Run.after step (part s) (changes on? actions) := by
  induction actions generalizing s with
  | nil => rfl
  | cons action actions ih =>
    obtain ⟨now, action⟩ := action
    rw [Run.after_cons, ih, hstep]
    unfold changes
    cases hchange : on? action with
    | none => rw [List.filterMap_cons_none (by rw [hchange]; rfl)]
    | some change => rw [List.filterMap_cons_some (by rw [hchange]; rfl)]; rfl

end Changes

theorem after_events (s : AgedStores α) (actions : List (Int × Action α)) :
    (Run.after act s actions).events =
      Run.after EventStore.act s.events (changes Action.onEvents? actions) :=
  after_part AgedStores.events (fun _ _ action => by cases action <;> rfl) s actions

theorem after_filterErrors (s : AgedStores α) (actions : List (Int × Action α)) :
    (Run.after act s actions).filterErrors =
      Run.after AgedStore.act s.filterErrors (changes Action.onFilterErrors? actions) :=
  after_part (fun s => s.filterErrors) (fun _ _ action => by cases action <;> rfl) s actions

theorem after_contexts (s : AgedStores α) (actions : List (Int × Action α)) :
    (Run.after act s actions).contexts =
      Run.after AgedStore.act s.contexts (changes Action.onContexts? actions) :=
  after_part (fun s => s.contexts) (fun _ _ action => by cases action <;> rfl) s actions

/-- Readers of all stores are shown the same at an instant. -/
structure AnswersAlike (now : Int) (s s' : AgedStores α) : Prop where
  /-- They are shown the same events. -/
  events : EventStore.ShownAlike now s.events s'.events
  /-- They are answered the same filter errors. -/
  filterErrors : ∀ key, s.filterErrors.get? now key = s'.filterErrors.get? now key
  /-- They are answered the same predictions. -/
  contexts : ∀ context, s.contexts.get? now context = s'.contexts.get? now context

/-- A sweep at an instant leaves what readers are shown then, and no more. -/
structure LeavesShown (now : Int) (s : AgedStores α) : Prop where
  /-- The stop-days listed are those that show something. -/
  mem_stopDays : ∀ day,
    day ∈ (s.events.evict now).2.keys ↔ (s.events.evict now).2.get now day ≠ []
  /-- There are as many stop-days. -/
  stopDays : {day | (s.events.evict now).2.get now day ≠ []}.encard =
    (s.events.evict now).2.days.size
  /-- There are as many filter errors as places that are answered one. -/
  filterErrors : {key | ((s.filterErrors.evict now).2.get? now key).isSome}.encard =
    (s.filterErrors.evict now).2.size
  /-- There are as many predictions as contexts that are answered one. -/
  contexts : {context | ((s.contexts.evict now).2.get? now context).isSome}.encard =
    (s.contexts.evict now).2.size

theorem leavesShown (now : Int) (s : AgedStores α) : s.LeavesShown now where
  mem_stopDays := s.events.mem_keys_evict_iff now
  stopDays := s.events.encard_shown now
  filterErrors := s.filterErrors.encard_answered now
  contexts := s.contexts.encard_answered now

/-- Without its sweeps a run answers readers the same. -/
theorem answersAlike_unswept (zone : Zone) (eventRetention errorRetention contextRetention : Int)
    {actions : List (Int × Action α)} {now : Int} (hnow : ∀ action ∈ actions, action.1 ≤ now) :
    let start : AgedStores α := .empty zone eventRetention errorRetention contextRetention
    AnswersAlike now (Run.after act start actions) (Run.after act start (unswept actions)) := by
  intro start
  refine ⟨?_, fun key => ?_, fun context => ?_⟩
  · rw [after_events, after_events, changes_unswept EventStore.Action.isSweep
      (by rintro (_ | _ | _) change ⟨⟩; rfl)]
    exact (EventStore.holds_after ..).shownAlike (EventStore.holds_after ..)
      (EventLog.shown_unswept (forall_mem_changes hnow)).symm
  · rw [after_filterErrors, after_filterErrors,
      changes_unswept AgedStore.Action.isSweep (by rintro (_ | _ | _) change ⟨⟩; rfl)]
    exact (AgedStore.get?_unswept errorRetention (forall_mem_changes hnow) key).symm
  · rw [after_contexts, after_contexts,
      changes_unswept AgedStore.Action.isSweep (by rintro (_ | _ | _) change ⟨⟩; rfl)]
    exact (AgedStore.get?_unswept contextRetention (forall_mem_changes hnow) context).symm

end AgedStores

open AgedStores

/-- **Sweeps are invisible, and stores answer by age alone.** Take any run of the three stores that
begins without values, and read them at an instant that is not before any of its changes. Readers
are shown what they would be shown if the run had no sweeps. A filter error is answered if it is
what was written latest at its place and is no older than the retention, and so is a remembered
prediction. A sweep at that instant leaves as much as is answered. -/
theorem sweeps_are_invisible {α : Type} (zone : Zone)
    (eventRetention errorRetention contextRetention : Int)
    {actions : List (Int × AgedStores.Action α)} {now : Int}
    (hnow : ∀ action ∈ actions, action.1 ≤ now) :
    let start : AgedStores α := .empty zone eventRetention errorRetention contextRetention
    let s := Run.after act start actions
    AnswersAlike now s (Run.after act start (unswept actions)) ∧
      (∀ key error, s.filterErrors.get? now key = some error ↔
        ∃ writtenAt, AgedStore.latestWrite? key (changes Action.onFilterErrors? actions) =
          some ⟨error, writtenAt⟩ ∧ now - writtenAt ≤ errorRetention) ∧
      (∀ context value, s.contexts.get? now context = some value ↔
        ∃ writtenAt, AgedStore.latestWrite? context (changes Action.onContexts? actions) =
          some ⟨value, writtenAt⟩ ∧ now - writtenAt ≤ contextRetention) ∧
      s.LeavesShown now := by
  intro start s
  refine ⟨answersAlike_unswept zone eventRetention errorRetention contextRetention hnow,
    fun key error => ?_, fun context value => ?_, s.leavesShown now⟩
  · rw [after_filterErrors]
    exact AgedStore.get?_after_eq_some_iff errorRetention (forall_mem_changes hnow) key error
  · rw [after_contexts]
    exact AgedStore.get?_after_eq_some_iff contextRetention (forall_mem_changes hnow) context value

/-- A filter error is written twice, a prediction once, and of two events the first goes past
retention. All stores are swept in between. -/
def sweptRun : List (Int × AgedStores.Action Rat) :=
  [(0, .events (.put ⟨"1", "pier", "t1", "r", 0, true, 0⟩)),
    (0, .filterErrors (.put ⟨"t1", 1⟩ 50)), (60, .filterErrors (.put ⟨"t1", 1⟩ 20)),
    (60, .contexts (.put ⟨"t1", 1, "1", 0⟩ 20000)), (100, .events .evict),
    (101, .events .evict), (101, .filterErrors .evict),
    (150, .events (.populate [⟨"2", "pier", "t2", "r", 140, true, 0⟩])), (160, .contexts .evict)]

/-- A hundred milliseconds after it was written the second error is still answered, and a sweep
leaves one stop-day. -/
theorem sweptRun_read :
    let start : AgedStores Rat := .empty .utc 100 100 100
    let s := Run.after act start sweptRun
    (∀ action ∈ sweptRun, action.1 ≤ 160) ∧
      AnswersAlike 160 s (Run.after act start (unswept sweptRun)) ∧
      s.filterErrors.get? 160 ⟨"t1", 1⟩ = some 20 ∧
      s.contexts.get? 160 ⟨"t1", 1, "1", 0⟩ = some 20000 ∧
      {day | (s.events.evict 160).2.get 160 day ≠ []}.encard = 1 := by
  intro start s
  have hnow : ∀ action ∈ sweptRun, action.1 ≤ 160 := by decide
  obtain ⟨halike, herrors, hcontexts, hleaves⟩ := sweeps_are_invisible .utc 100 100 100 hnow
  have hsize : (s.events.evict 160).2.days.size = 1 := by decide +kernel
  refine ⟨hnow, halike, (herrors _ _).mpr ⟨60, rfl, by decide⟩,
    (hcontexts _ _).mpr ⟨60, rfl, by decide⟩, ?_⟩
  rw [hleaves.stopDays, hsize]
  rfl

end TransitDwell
