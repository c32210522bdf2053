import Mathlib.Data.List.Nodup
import TransitDwell.Proofs.EventOrder
import TransitDwell.Proofs.Run

/-!
# The event store is a log

What an event store answers is said here without stop-days and without an order that is kept up: a
log takes in the accepted events in the order in which they come, each once, and forgets those that
are past retention when it is swept. A reader of a stop-day is shown the events of the log that
stand on it and are not past retention, put into order.

Each action comes with an instant of its own, so that the clock may go forwards and backwards
between actions and before a reading.

## What is proved

* `eventStore_refines_log`: over every run from an empty store the store answers what the log
  answers, and afterwards it shows the log (`EventStore.Shows`).
* `EventStore.Holds` is what every action preserves: each stop-day has the events of the log that
  stand on it, in order, and no stop-day is without events. `EventStore.Holds.all_perm` draws the
  stop-days together again: all of them have the events of the log, each once.
-/

namespace TransitDwell

/-- Whether an event stands on a stop-day. -/
def StopEvent.isOn (zone : Zone) (day : StopDay) (e : StopEvent) : Bool :=
  e.stop = day.stop && zone.serviceDate e.time = some day.date

theorem StopEvent.isOn_iff {zone : Zone} {day : StopDay} {e : StopEvent} :
    e.isOn zone day = true ↔ e.stop = day.stop ∧ zone.serviceDate e.time = some day.date := by
  rw [isOn, Bool.and_eq_true, decide_eq_true_eq, decide_eq_true_eq]

/-! ### Actions -/

namespace EventStore

/-- A change to an event store. -/
inductive Action where
  /-- An event comes. -/
  | put (e : StopEvent)
  /-- Events come one after the other. -/
  | populate (events : List StopEvent)
  /-- The store is swept. -/
  | evict

/-- What is answered to a change. -/
inductive Reply where
  /-- The stop-day of an event that was accepted. -/
  | filed (day : Option StopDay)
  /-- The number of events that were accepted. -/
  | accepted (count : Nat)
  /-- The number of events that were removed. -/
  | removed (count : Nat)
  deriving DecidableEq

/-- Carries out an action at an instant. -/
def act (s : EventStore) : Int × Action → Reply × EventStore
  | (now, .put e) => (.filed (s.put now e).1, (s.put now e).2)
  | (now, .populate events) => (.accepted (s.populate now events).1, (s.populate now events).2)
  | (now, .evict) => (.removed (s.evict now).1, (s.evict now).2)

/-- The actions that put events into a store, each at an instant of its own. -/
def putAll (puts : List (Int × StopEvent)) : List (Int × Action) :=
  puts.map fun p => (p.1, .put p.2)

end EventStore

/-! ### The log -/

namespace EventLog

variable (retention : Int) (zone : Zone)

/-- Whether an event is past retention. -/
def isPast (now : Int) (e : StopEvent) : Bool := e.time < now - retention

/-- Whether an event is accepted: it names a stop, is not past retention and has a date. -/
def accepts (now : Int) (e : StopEvent) : Bool :=
  e.stop ≠ "" && !isPast retention now e && (zone.serviceDate e.time).isSome

/-- Appends an event that is accepted, unless it is there already. -/
def enter (now : Int) (log : List StopEvent) (e : StopEvent) : List StopEvent :=
  if accepts retention zone now e && e ∉ log then log ++ [e] else log

/-- Carries out an action at an instant. -/
def act (log : List StopEvent) : Int × EventStore.Action → EventStore.Reply × List StopEvent
  | (now, .put e) =>
    (.filed (if accepts retention zone now e then (zone.serviceDate e.time).map (⟨e.stop, ·⟩)
      else none), enter retention zone now log e)
  | (now, .populate events) =>
    (.accepted (events.countP (accepts retention zone now)),
      events.foldl (enter retention zone now) log)
  | (now, .evict) =>
    (.removed (log.countP (isPast retention now)), log.filter fun e => !isPast retention now e)

/-- The events of a stop-day that are not past retention, in the order in which they came. -/
def visible (log : List StopEvent) (now : Int) (day : StopDay) : List StopEvent :=
  log.filter fun e => e.isOn zone day && !isPast retention now e

/-- What is visible of a stop on the service day of an instant. An instant without a date has
none. -/
def visibleAt (log : List StopEvent) (now : Int) (stop : String) (ts : Int) : List StopEvent :=
  match zone.serviceDate ts with
  | some date => visible retention zone log now ⟨stop, date⟩
  | none => []

variable {retention : Int} {zone : Zone} {now : Int} {log : List StopEvent} {e : StopEvent}

theorem enter_of_accepts (h : accepts retention zone now e = true) :
    enter retention zone now log e = if e ∈ log then log else log ++ [e] := by
  by_cases he : e ∈ log <;> simp [enter, h, he]

theorem enter_of_not_accepts (h : ¬ accepts retention zone now e = true) :
    enter retention zone now log e = log := by
  simp [enter, h]

theorem mem_enter {d : StopEvent} :
    d ∈ enter retention zone now log e ↔ d ∈ log ∨ accepts retention zone now e = true ∧ d = e := by
  by_cases h : accepts retention zone now e = true
  · rw [enter_of_accepts h]
    split
    · next he => exact ⟨.inl, fun hd => hd.elim id fun hd => hd.2 ▸ he⟩
    · simp [h]
  · simp [enter_of_not_accepts h, h]

theorem nodup_enter (h : log.Nodup) : (enter retention zone now log e).Nodup := by
  unfold enter
  split
  · next hnew =>
    simp only [Bool.and_eq_true, decide_eq_true_eq] at hnew
    exact (List.nodup_append_comm.mp (List.nodup_cons.mpr ⟨hnew.2, h⟩ : ([e] ++ log).Nodup))
  · exact h

/-- After events were put, the log has those that were accepted besides what it had. -/
theorem mem_after_putAll {puts : List (Int × StopEvent)} :
    e ∈ Run.after (act retention zone) log (EventStore.putAll puts) ↔
      e ∈ log ∨ ∃ now, (now, e) ∈ puts ∧ accepts retention zone now e = true := by
  induction puts generalizing log with
  | nil => simp [EventStore.putAll]
  | cons p puts ih =>
    obtain ⟨now, d⟩ := p
    change e ∈ Run.after (act retention zone) (enter retention zone now log d)
      (EventStore.putAll puts) ↔ _
    rw [ih, mem_enter]
    constructor
    · rintro ((he | ⟨haccepts, rfl⟩) | ⟨instant, he, haccepts⟩)
      · exact .inl he
      · exact .inr ⟨now, List.mem_cons_self, haccepts⟩
      · exact .inr ⟨instant, List.mem_cons_of_mem _ he, haccepts⟩
    · rintro (he | ⟨instant, he, haccepts⟩)
      · exact .inl (.inl he)
      · rcases List.mem_cons.mp he with heq | he
        · obtain ⟨rfl, rfl⟩ := Prod.mk.inj heq
          exact .inl (.inr ⟨haccepts, rfl⟩)
        · exact .inr ⟨instant, he, haccepts⟩

theorem mem_foldl_enter {events : List StopEvent} :
    e ∈ events.foldl (enter retention zone now) log ↔
      e ∈ log ∨ accepts retention zone now e = true ∧ e ∈ events := by
  induction events generalizing log with
  | nil => simp
  | cons d events ih =>
    rw [List.foldl_cons, ih, mem_enter]
    grind

/-! What a log has afterwards does not hang on the order in which it has it. -/

variable {log' : List StopEvent}

theorem mem_act_congr (h : ∀ e, e ∈ log ↔ e ∈ log') (action : Int × EventStore.Action) :
    ∀ e, e ∈ (act retention zone log action).2 ↔ e ∈ (act retention zone log' action).2 := by
  obtain ⟨now, action⟩ := action
  intro e
  cases action with
  | put d =>
    change e ∈ enter retention zone now log d ↔ e ∈ enter retention zone now log' d
    rw [mem_enter, mem_enter, h]
  | populate events =>
    change e ∈ events.foldl (enter retention zone now) log ↔
      e ∈ events.foldl (enter retention zone now) log'
    rw [mem_foldl_enter, mem_foldl_enter, h]
  | evict =>
    change e ∈ log.filter _ ↔ e ∈ log'.filter _
    rw [List.mem_filter, List.mem_filter, h]

theorem mem_after_congr (h : ∀ e, e ∈ log ↔ e ∈ log') (actions : List (Int × EventStore.Action)) :
    ∀ e, e ∈ Run.after (act retention zone) log actions ↔
      e ∈ Run.after (act retention zone) log' actions := by
  induction actions generalizing log log' with
  | nil => exact h
  | cons action actions ih => exact ih (mem_act_congr h action)

/-- Events that are put one after the other may be put in any order. -/
theorem mem_after_putAll_perm {puts puts' : List (Int × StopEvent)} (hperm : puts.Perm puts')
    (before later : List (Int × EventStore.Action)) :
    ∀ e, e ∈ Run.after (act retention zone) log (before ++ EventStore.putAll puts ++ later) ↔
      e ∈ Run.after (act retention zone) log (before ++ EventStore.putAll puts' ++ later) := by
  simp only [Run.after_append]
  refine mem_after_congr (fun e => ?_) later
  rw [mem_after_putAll, mem_after_putAll]
  simp only [hperm.mem_iff]

end EventLog

/-- What a reader of a store sees of a log, at any instant. -/
structure EventStore.Shows (retention : Int) (zone : Zone) (s : EventStore)
    (log : List StopEvent) : Prop where
  /-- The log has every event once. -/
  once : log.Nodup
  /-- A stop-day shows what is visible on it in order, ties as they came. -/
  get : ∀ now day, SortedFrom (EventLog.visible retention zone log now day) (s.get now day)
  /-- An event is accepted if it names a stop, is not past retention and has a date. -/
  put : ∀ now e, (s.put now e).1.isSome ↔
    e.stop ≠ "" ∧ now - retention ≤ e.time ∧ (zone.serviceDate e.time).isSome
  /-- The stop-days are those of the events of the log. -/
  mem_keys : ∀ day, day ∈ s.keys ↔ ∃ e ∈ log, e.isOn zone day
  /-- No stop-day is listed twice. -/
  keys_once : s.keys.Nodup
  /-- The stop-days are listed in order. -/
  keys_ordered : s.keys.Pairwise fun a b => a.notAfter b

/-! ### The order of stop-days -/

namespace StopDay

theorem notAfter_iff {a b : StopDay} :
    a.notAfter b = true ↔ a.stop < b.stop ∨ a.stop = b.stop ∧ a.date.day ≤ b.date.day := by
  simp [notAfter]

theorem notAfter_total (a b : StopDay) : a.notAfter b || b.notAfter a := by
  rw [Bool.or_eq_true, notAfter_iff, notAfter_iff]
  by_cases he : a.stop = b.stop
  · rcases Int.le_total a.date.day b.date.day with hd | hd
    · exact .inl (.inr ⟨he, hd⟩)
    · exact .inr (.inr ⟨he.symm, hd⟩)
  · rcases String.le_total a.stop b.stop with hs | hs
    · exact .inl (.inl (String.not_le.mp fun h => he (String.le_antisymm hs h)))
    · exact .inr (.inl (String.not_le.mp fun h => he (String.le_antisymm h hs)))

theorem notAfter_trans {a b c : StopDay} (hab : a.notAfter b) (hbc : b.notAfter c) :
    a.notAfter c := by
  rw [notAfter_iff] at *
  rcases hab with hab | ⟨hab, hd⟩ <;> rcases hbc with hbc | ⟨hbc, hd'⟩
  · exact .inl (String.lt_trans hab hbc)
  · exact .inl (hbc ▸ hab)
  · exact .inl (hab ▸ hbc)
  · exact .inr ⟨hab.trans hbc, Int.le_trans hd hd'⟩

end StopDay

/-! ### Reading what is held -/

namespace EventStore

/-- The events held on a stop-day, current or not. -/
def eventsOn (s : EventStore) (day : StopDay) : List StopEvent := (s.days.get? day).getD []

/-- All events held, stop-day by stop-day. -/
def all (s : EventStore) : List StopEvent := s.days.entries.flatMap Prod.snd

theorem eventCount_eq (s : EventStore) : s.eventCount = s.all.length := by
  unfold eventCount all
  induction s.days.entries with
  | nil => rfl
  | cons row rows ih => simp [ih]

theorem eventsOn_of_mem {s : EventStore} {row : StopDay × List StopEvent}
    (h : row ∈ s.days.entries) : s.eventsOn row.1 = row.2 := by
  simp [eventsOn, (Keyed.mem_entries_iff s.days row.1 row.2).mp h]

theorem mem_all_iff (s : EventStore) (e : StopEvent) : e ∈ s.all ↔ ∃ day, e ∈ s.eventsOn day := by
  simp only [all, List.mem_flatMap]
  constructor
  · rintro ⟨row, hrow, he⟩
    exact ⟨row.1, by rwa [eventsOn_of_mem hrow]⟩
  · rintro ⟨day, he⟩
    cases hget : s.days.get? day with
    | none => simp [eventsOn, hget] at he
    | some events =>
      refine ⟨(day, events), (Keyed.mem_entries_iff _ _ _).mpr hget, ?_⟩
      simpa [eventsOn, hget] using he

theorem mem_keys_iff (s : EventStore) (day : StopDay) :
    day ∈ s.keys ↔ ∃ events, s.days.get? day = some events := by
  simp [keys, Keyed.keys, ← Keyed.mem_entries_iff]

/-! ### What the actions do -/

theorem accepts_iff {retention : Int} {zone : Zone} {now : Int} {e : StopEvent} :
    EventLog.accepts retention zone now e = true ↔
      e.stop ≠ "" ∧ now - retention ≤ e.time ∧ (zone.serviceDate e.time).isSome := by
  simp [EventLog.accepts, EventLog.isPast, and_assoc]

theorem isCurrent_iff {s : EventStore} {now : Int} {e : StopEvent} :
    s.isCurrent now e = true ↔ now - s.retention ≤ e.time :=
  decide_eq_true_iff

theorem isCurrent_eq (s : EventStore) (now : Int) :
    s.isCurrent now = fun e => !EventLog.isPast s.retention now e := by
  funext e
  rw [Bool.eq_iff_iff, isCurrent_iff]
  simp [EventLog.isPast]

theorem put_of_accepts {s : EventStore} {now : Int} {e : StopEvent} {date : CivilDate}
    (h : EventLog.accepts s.retention s.zone now e = true)
    (hdate : s.zone.serviceDate e.time = some date) :
    s.put now e = (some ⟨e.stop, date⟩,
      { s with days := s.days.upsert ⟨e.stop, date⟩ [e] (addEvent e) }) := by
  obtain ⟨hstop, hcurrent, -⟩ := accepts_iff.mp h
  simp [put, isCurrent_iff.mpr hcurrent, dayOf, hstop, hdate]

theorem put_of_not_accepts {s : EventStore} {now : Int} {e : StopEvent}
    (h : ¬ EventLog.accepts s.retention s.zone now e = true) : s.put now e = (none, s) := by
  rw [accepts_iff] at h
  unfold put
  split
  · rfl
  · next hok =>
    simp only [Bool.or_eq_true, decide_eq_true_eq, Bool.not_eq_true', not_or,
      Bool.not_eq_false] at hok
    cases hdate : s.zone.serviceDate e.time with
    | none => simp [dayOf, hdate]
    | some date => exact absurd ⟨hok.1, isCurrent_iff.mp hok.2, by simp [hdate]⟩ h

/-- Whether an event is accepted and where it is filed depends on the event and the instant. -/
theorem put_fst (s : EventStore) (now : Int) (e : StopEvent) :
    (s.put now e).1 = if EventLog.accepts s.retention s.zone now e then
      (s.zone.serviceDate e.time).map (⟨e.stop, ·⟩) else none := by
  by_cases h : EventLog.accepts s.retention s.zone now e = true
  · obtain ⟨date, hdate⟩ := Option.isSome_iff_exists.mp (accepts_iff.mp h).2.2
    simp [put_of_accepts h hdate, h, hdate]
  · simp [put_of_not_accepts h, h]

theorem put_isSome (s : EventStore) (now : Int) (e : StopEvent) :
    (s.put now e).1.isSome = EventLog.accepts s.retention s.zone now e := by
  rw [put_fst]
  by_cases h : EventLog.accepts s.retention s.zone now e = true
  · simp [h, (accepts_iff.mp h).2.2]
  · simp [h]

/-- An accepted event is added to the stop-day that it stands on, and to no other. -/
theorem eventsOn_put {s : EventStore} {now : Int} {e : StopEvent}
    (h : EventLog.accepts s.retention s.zone now e = true) (day : StopDay) :
    (s.put now e).2.eventsOn day =
      if e.isOn s.zone day then addEvent e (s.eventsOn day) else s.eventsOn day := by
  obtain ⟨date, hdate⟩ := Option.isSome_iff_exists.mp (accepts_iff.mp h).2.2
  rw [put_of_accepts h hdate]
  have hday : e.isOn s.zone day = true ↔ day = ⟨e.stop, date⟩ := by
    obtain ⟨stop, d⟩ := day
    rw [StopEvent.isOn_iff, hdate, Option.some.injEq, StopDay.mk.injEq]
    exact and_congr eq_comm eq_comm
  simp only [eventsOn, Keyed.get?_upsert]
  by_cases hon : e.isOn s.zone day = true
  · rw [if_pos (hday.mp hon), if_pos hon, ← hday.mp hon]
    cases s.days.get? day with
    | none => simp [addEvent, tiesBefore, insertInOrder]
    | some events => simp
  · rw [if_neg (fun he => hon (hday.mpr he)), if_neg hon]

/-- What sweeping leaves of a stop-day is what is current on it. -/
theorem get?_evict (s : EventStore) (now : Int) (day : StopDay) :
    (s.evict now).2.days.get? day =
      (s.days.get? day).bind fun events => s.keepCurrent now events := by
  simp [evict, Keyed.get?_filterMap]

theorem keepCurrent_getD (s : EventStore) (now : Int) (events : List StopEvent) :
    (s.keepCurrent now events).getD [] = events.filter (s.isCurrent now) := by
  unfold keepCurrent
  split <;> simp_all

theorem keepCurrent_ne_nil (s : EventStore) (now : Int) (events : List StopEvent) :
    s.keepCurrent now events ≠ some [] := by
  unfold keepCurrent
  split <;> simp_all

theorem eventsOn_evict (s : EventStore) (now : Int) (day : StopDay) :
    (s.evict now).2.eventsOn day = (s.eventsOn day).filter (s.isCurrent now) := by
  unfold eventsOn
  rw [get?_evict]
  cases s.days.get? day with
  | none => rfl
  | some events => exact keepCurrent_getD s now events

theorem addEvent_ne_nil (e : StopEvent) (events : List StopEvent) : addEvent e events ≠ [] :=
  List.ne_nil_of_mem ((mem_addEvent e e events).mpr (.inl rfl))

/-! ### What every action preserves -/

/-- A store holds a log: each stop-day has the events of the log that stand on it, in order, and no
stop-day is without events. -/
structure Holds (retention : Int) (zone : Zone) (s : EventStore) (log : List StopEvent) : Prop where
  /-- The retention never changes. -/
  retention_eq : s.retention = retention
  /-- The zone never changes. -/
  zone_eq : s.zone = zone
  /-- The log has every event once. -/
  once : log.Nodup
  /-- Every event of the log has a date. -/
  dated : ∀ e ∈ log, (zone.serviceDate e.time).isSome
  /-- A stop-day has the events that stand on it. -/
  sorted : ∀ day, SortedFrom (log.filter fun e => e.isOn zone day) (s.eventsOn day)
  /-- No stop-day is without events. -/
  nonempty : ∀ day, s.days.get? day ≠ some []

variable {retention : Int} {zone : Zone} {s : EventStore} {log : List StopEvent}

theorem holds_empty (retention : Int) (zone : Zone) :
    Holds retention zone (empty retention zone) [] where
  retention_eq := rfl
  zone_eq := rfl
  once := .nil
  dated := by simp
  sorted _ := .nil
  nonempty _ := by simp [empty]

namespace Holds

theorem put (h : Holds retention zone s log) (now : Int) (e : StopEvent) :
    Holds retention zone (s.put now e).2 (EventLog.enter retention zone now log e) := by
  obtain ⟨rfl, rfl, honce, hdated, hsorted, hnonempty⟩ := h
  by_cases haccept : EventLog.accepts s.retention s.zone now e = true
  · obtain ⟨date, hdate⟩ := Option.isSome_iff_exists.mp (accepts_iff.mp haccept).2.2
    refine ⟨by rw [put_of_accepts haccept hdate], by rw [put_of_accepts haccept hdate],
      EventLog.nodup_enter honce, fun d hd => ?_, fun day => ?_, fun day => ?_⟩
    · rcases EventLog.mem_enter.mp hd with hd | ⟨-, rfl⟩
      · exact hdated d hd
      · simp [hdate]
    · rw [eventsOn_put haccept, EventLog.enter_of_accepts haccept]
      by_cases hon : e.isOn s.zone day = true
      · simpa [hon, apply_ite (List.filter _), List.filter_append] using (hsorted day).add e
      · simpa [hon, apply_ite (List.filter _), List.filter_append] using hsorted day
    · rw [put_of_accepts haccept hdate]
      simp only [Keyed.get?_upsert]
      split
      · cases s.days.get? ⟨e.stop, date⟩ <;> simp [addEvent_ne_nil]
      · exact hnonempty day
  · rw [put_of_not_accepts haccept, EventLog.enter_of_not_accepts haccept]
    exact ⟨rfl, rfl, honce, hdated, hsorted, hnonempty⟩

/-- Each of several events is entered, and those that are accepted are counted. -/
theorem populate (h : Holds retention zone s log) (now : Int) (events : List StopEvent) :
    (s.populate now events).1 = events.countP (EventLog.accepts retention zone now) ∧
      Holds retention zone (s.populate now events).2
        (events.foldl (EventLog.enter retention zone now) log) := by
  -- the count so far is carried along
  suffices ∀ n, let counted := events.foldl (fun (counted : Nat × EventStore) e =>
      (if (counted.2.put now e).1.isSome then counted.1 + 1 else counted.1,
        (counted.2.put now e).2)) (n, s)
      counted.1 = n + events.countP (EventLog.accepts retention zone now) ∧
        Holds retention zone counted.2 (events.foldl (EventLog.enter retention zone now) log) by
    have hcounted := this 0
    rw [Nat.zero_add] at hcounted
    exact hcounted
  induction events generalizing s log with
  | nil => exact fun n => ⟨rfl, h⟩
  | cons e es ih =>
    intro n
    have hcount : (s.put now e).1.isSome = EventLog.accepts retention zone now e := by
      rw [put_isSome, h.retention_eq, h.zone_eq]
    obtain ⟨hn, hs⟩ := ih (h.put now e) (if (s.put now e).1.isSome then n + 1 else n)
    refine ⟨hn.trans ?_, hs⟩
    rw [List.countP_cons, hcount]
    split <;> omega

/-! The stop-days together have the events of the log. -/

theorem isOn_unique {a b : StopDay} {e : StopEvent} (ha : e.isOn zone a = true)
    (hb : e.isOn zone b = true) : a = b := by
  obtain ⟨stop, date⟩ := a
  obtain ⟨stop', date'⟩ := b
  obtain ⟨rfl, ha⟩ := StopEvent.isOn_iff.mp ha
  obtain ⟨rfl, hb⟩ := StopEvent.isOn_iff.mp hb
  rw [ha, Option.some.injEq] at hb
  exact congrArg _ hb

theorem mem_eventsOn (h : Holds retention zone s log) {day : StopDay} {e : StopEvent} :
    e ∈ s.eventsOn day ↔ e ∈ log ∧ e.isOn zone day = true := by
  rw [(h.sorted day).mem_iff, List.mem_filter]

theorem exists_isOn (h : Holds retention zone s log) {e : StopEvent} (he : e ∈ log) :
    ∃ day, e.isOn zone day = true := by
  obtain ⟨date, hdate⟩ := Option.isSome_iff_exists.mp (h.dated e he)
  exact ⟨⟨e.stop, date⟩, StopEvent.isOn_iff.mpr ⟨rfl, hdate⟩⟩

theorem all_nodup (h : Holds retention zone s log) : s.all.Nodup := by
  unfold EventStore.all
  rw [List.nodup_flatMap]
  refine ⟨fun row hrow => ?_, ?_⟩
  · rw [← eventsOn_of_mem hrow, (h.sorted row.1).perm.nodup_iff]
    exact h.once.filter _
  · have hkeys := s.days.nodup
    rw [List.Nodup, List.pairwise_map] at hkeys
    refine hkeys.imp_of_mem fun {row row'} hrow hrow' hne e he he' => hne ?_
    rw [← eventsOn_of_mem hrow, h.mem_eventsOn] at he
    rw [← eventsOn_of_mem hrow', h.mem_eventsOn] at he'
    exact isOn_unique he.2 he'.2

/-- The stop-days together have the events of the log, each once. -/
theorem all_perm (h : Holds retention zone s log) : s.all.Perm log := by
  rw [List.perm_ext_iff_of_nodup h.all_nodup h.once]
  intro e
  rw [mem_all_iff]
  constructor
  · rintro ⟨day, he⟩
    exact (h.mem_eventsOn.mp he).1
  · intro he
    obtain ⟨day, hday⟩ := h.exists_isOn he
    exact ⟨day, h.mem_eventsOn.mpr ⟨he, hday⟩⟩

theorem eventCount_eq_length (h : Holds retention zone s log) : s.eventCount = log.length := by
  rw [eventCount_eq, h.all_perm.length_eq]

/-- The log without what is past retention holds what sweeping leaves. -/
theorem evict (h : Holds retention zone s log) (now : Int) :
    (s.evict now).1 = log.countP (EventLog.isPast retention now) ∧
      Holds retention zone (s.evict now).2
        (log.filter fun e => !EventLog.isPast retention now e) := by
  have hafter : Holds retention zone (s.evict now).2
      (log.filter fun e => !EventLog.isPast retention now e) := by
    refine ⟨h.retention_eq, h.zone_eq, h.once.filter _, fun e he => ?_, fun day => ?_,
      fun day => ?_⟩
    · exact h.dated e (List.mem_of_mem_filter he)
    · rw [eventsOn_evict, List.filter_comm, isCurrent_eq, h.retention_eq]
      exact (h.sorted day).filter _
    · rw [get?_evict]
      cases s.days.get? day with
      | none => simp
      | some events => exact keepCurrent_ne_nil s now events
  refine ⟨?_, hafter⟩
  have hcount := List.length_eq_countP_add_countP (EventLog.isPast retention now) (l := log)
  have hkept : (s.evict now).2.eventCount =
      log.countP fun e => decide ¬EventLog.isPast retention now e = true := by
    rw [hafter.eventCount_eq_length, List.countP_eq_length_filter]
    simp
  change s.eventCount - (s.evict now).2.eventCount = _
  rw [h.eventCount_eq_length, hkept]
  omega

theorem keys_nodup (s : EventStore) : s.keys.Nodup :=
  (List.mergeSort_perm _ _).nodup_iff.mpr s.days.nodup

theorem keys_ordered (s : EventStore) : s.keys.Pairwise fun a b => a.notAfter b = true :=
  @List.pairwise_mergeSort _ StopDay.notAfter (fun _ _ _ => StopDay.notAfter_trans)
    StopDay.notAfter_total _

/-- A stop-day is listed if and only if an event of the log stands on it. -/
theorem mem_keys (h : Holds retention zone s log) (day : StopDay) :
    day ∈ s.keys ↔ ∃ e ∈ log, e.isOn zone day = true := by
  rw [mem_keys_iff]
  constructor
  · rintro ⟨events, hget⟩
    cases events with
    | nil => exact absurd hget (h.nonempty day)
    | cons e es =>
      have he : e ∈ s.eventsOn day := by simp [eventsOn, hget]
      exact ⟨e, h.mem_eventsOn.mp he⟩
  · rintro ⟨e, he, hday⟩
    have hmem := h.mem_eventsOn.mpr ⟨he, hday⟩
    cases hget : s.days.get? day with
    | none => simp [eventsOn, hget] at hmem
    | some events => exact ⟨events, rfl⟩

/-- Reading a stop-day leaves out what is past retention. -/
theorem sortedFrom_get (h : Holds retention zone s log) (now : Int) (day : StopDay) :
    SortedFrom (EventLog.visible retention zone log now day) (s.get now day) := by
  have hvisible : EventLog.visible retention zone log now day =
      (log.filter fun e => e.isOn zone day).filter fun e => !EventLog.isPast retention now e := by
    simp only [EventLog.visible, List.filter_filter, Bool.and_comm]
  have hget : s.get now day =
      (s.eventsOn day).filter fun e => !EventLog.isPast retention now e := by
    rw [← h.retention_eq, ← isCurrent_eq]
    rfl
  rw [hvisible, hget]
  exact (h.sorted day).filter _

/-- Reading the service day of an instant shows what is visible on it, in order. -/
theorem sortedFrom_getForTime (h : Holds retention zone s log) (now : Int) (stop : String)
    (ts : Int) :
    SortedFrom (EventLog.visibleAt retention zone log now stop ts) (s.getForTime now stop ts) := by
  unfold EventStore.getForTime EventLog.visibleAt dayOf
  rw [h.zone_eq]
  cases zone.serviceDate ts with
  | none => exact .nil
  | some date => exact h.sortedFrom_get now ⟨stop, date⟩

/-- No event is shown twice. -/
theorem nodup_getForTime (h : Holds retention zone s log) (now : Int) (stop : String) (ts : Int) :
    (s.getForTime now stop ts).Nodup := by
  rw [(h.sortedFrom_getForTime now stop ts).perm.nodup_iff]
  unfold EventLog.visibleAt
  split
  · exact h.once.filter _
  · exact .nil

/-- Stores that hold the same events show them alike, ties apart. -/
theorem getForTime_perm {s' : EventStore} {log' : List StopEvent}
    (h : Holds retention zone s log) (h' : Holds retention zone s' log')
    (hmem : ∀ e, e ∈ log ↔ e ∈ log') (now : Int) (stop : String) (ts : Int) :
    (s.getForTime now stop ts).Perm (s'.getForTime now stop ts) := by
  have hlogs : log.Perm log' := (List.perm_ext_iff_of_nodup h.once h'.once).mpr hmem
  have hvisible : (EventLog.visibleAt retention zone log now stop ts).Perm
      (EventLog.visibleAt retention zone log' now stop ts) := by
    unfold EventLog.visibleAt
    split
    · exact hlogs.filter _
    · exact .nil
  have hshown := (h.sortedFrom_getForTime now stop ts).perm
  have hshown' := (h'.sortedFrom_getForTime now stop ts).perm
  exact hshown.trans (hvisible.trans hshown'.symm)

theorem shows (h : Holds retention zone s log) : Shows retention zone s log where
  once := h.once
  get := h.sortedFrom_get
  put now e := by rw [put_isSome, h.retention_eq, h.zone_eq, accepts_iff]
  mem_keys := h.mem_keys
  keys_once := keys_nodup s
  keys_ordered := keys_ordered s

/-- An action is answered alike by the store and by the log, and leaves the one holding the
other. -/
theorem act (h : Holds retention zone s log) (action : Int × Action) :
    (s.act action).1 = (EventLog.act retention zone log action).1 ∧
      Holds retention zone (s.act action).2 (EventLog.act retention zone log action).2 := by
  obtain ⟨now, action⟩ := action
  cases action with
  | put e =>
    refine ⟨?_, h.put now e⟩
    change Reply.filed _ = Reply.filed _
    rw [put_fst, h.retention_eq, h.zone_eq]
  | populate events =>
    obtain ⟨hcount, hafter⟩ := h.populate now events
    exact ⟨congrArg Reply.accepted hcount, hafter⟩
  | evict =>
    obtain ⟨hcount, hafter⟩ := h.evict now
    exact ⟨congrArg Reply.removed hcount, hafter⟩

end Holds

/-- What a store holds after a run is the log of the run. -/
theorem holds_after (retention : Int) (zone : Zone) (actions : List (Int × Action)) :
    (Run.after act (.empty retention zone) actions).Holds retention zone
      (Run.after (EventLog.act retention zone) [] actions) :=
  (Run.simulation_same (fun s log action (h : s.Holds retention zone log) => h.act action)
    (holds_empty retention zone) actions).2

end EventStore

/-- **An event store is a log**: whatever comes, at whatever instants, the store answers what the
log answers, and then shows the log. -/
theorem eventStore_refines_log (retention : Int) (zone : Zone)
    (actions : List (Int × EventStore.Action)) :
    Run.answers EventStore.act (.empty retention zone) actions =
        Run.answers (EventLog.act retention zone) [] actions ∧
      (Run.after EventStore.act (.empty retention zone) actions).Shows retention zone
        (Run.after (EventLog.act retention zone) [] actions) := by
  obtain ⟨hanswers, hholds⟩ := Run.simulation_same
    (fun s log action (h : EventStore.Holds retention zone s log) => h.act action)
    (EventStore.holds_empty retention zone) actions
  exact ⟨hanswers, hholds.shows⟩

end TransitDwell
