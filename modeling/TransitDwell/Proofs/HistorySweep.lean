import TransitDwell.PassengerHistory
import TransitDwell.Proofs.Run

/-!
# Sweeping the passenger history

The daily totals have no age of their own: a total is answered for as long as it is held, and it is
held until a sweep finds its day past retention. What readers are told may therefore depend on when
the history was swept.

Here a run with sweeps is compared with the same run without them. A sweep removes the totals of
some dates and touches nothing else, so that the two runs agree on every date that no sweep removed
(`PassengerHistory.AgreeOn`), whatever is recorded and whatever events are held at the time.

## What is proved

* What a sweep leaves (`PassengerHistory.get?_evict`).
* Totals of dates that no sweep removed, rates from such dates, and whether there are passenger
  counts as long as there is such a date, are answered as if nothing had been swept:
  `sweeps_change_no_kept_date`.
* A total that is past retention is answered until it is swept
  (`total_past_retention_until_swept`).
-/

namespace TransitDwell

/-! ### Tables and searches -/

theorem Keyed.isEmpty_iff {κ ν : Type} [DecidableEq κ] (t : Keyed κ ν) :
    t.isEmpty = true ↔ ∀ k, t.get? k = none := by
  rw [isEmpty, List.isEmpty_iff, List.eq_nil_iff_forall_not_mem]
  constructor
  · intro h k
    refine Option.eq_none_iff_forall_ne_some.mpr fun v hv => ?_
    exact h (k, v) ((t.mem_entries_iff k v).mpr hv)
  · rintro h ⟨k, v⟩ hmem
    rw [t.mem_entries_iff, h] at hmem
    cases hmem

namespace DaysBack

variable {β : Type} {ask ask' : Nat → Option β}

/-- A search is decided by the answers for the days that it may ask. -/
theorem latest?_congr {days : Nat}
    (h : ∀ back, 1 ≤ back → back ≤ days → ask back = ask' back) :
    latest? ask days = latest? ask' days := by
  have hfound : found ask days = found ask' days := by
    refine List.filterMap_congr fun back hback => ?_
    obtain ⟨hone, hlt⟩ := List.mem_range'_1.mp hback
    exact h back hone (by omega)
  rw [latest?_eq_head?, latest?_eq_head?, hfound]

end DaysBack

namespace PassengerHistory

variable {α : Type}

/-! ### What a sweep leaves -/

/-- Whether a sweep at an instant removes the totals of a date. -/
def removes (zone : Zone) (retention now : Int) (date : CivilDate) : Bool :=
  (zone.serviceDate (now - retention)).any fun oldest => date.day < oldest.day

theorem get?_evict (h : PassengerHistory α) (events : EventStore) (now : Int)
    (day : RouteStopDay) :
    (h.evict events now).2.totals.get? day =
      (h.totals.get? day).filter fun _ => !removes events.zone h.retention now day.date := by
  unfold evict removes
  cases events.zone.serviceDate (now - h.retention) with
  | none => cases h.totals.get? day <;> rfl
  | some oldest =>
    simp only [Keyed.get?_filter, Option.any_some, ← Int.not_le, decide_not, Bool.not_not]

/-- A total of a date that a sweep removes is not answered after it. -/
theorem totalsAt_evict_of_removes {h : PassengerHistory α} {events : EventStore} {now ts : Int}
    {date : CivilDate} (hdate : events.zone.serviceDate ts = some date)
    (hremoves : removes events.zone h.retention now date = true) (route stop : String) :
    (h.evict events now).2.totalsAt events route stop ts = none := by
  rw [totalsAt, dayOf, hdate, Option.map_some, Option.bind_some, get?_evict, hremoves]
  cases h.totals.get? ⟨route, stop, date⟩ <;> rfl

/-! ### Recording match after match -/

theorem recordAll_snd [Scalar α] (h : PassengerHistory α) (events : EventStore) (now : Int)
    (ms : List CountMatch) :
    (h.recordAll events now ms).2 = Run.after (fun h m => h.record events now m) h ms :=
  (List.foldl_hom Prod.snd fun _ _ => rfl).symm

/-- What does not hang on the totals is not changed by recording. -/
theorem record_rule [Scalar α] {β : Type} (rule : PassengerHistory α → β)
    (hrule : ∀ h totals, rule { h with totals := totals } = rule h) (h : PassengerHistory α)
    (events : EventStore) (now : Int) (m : CountMatch) :
    rule (h.record events now m).2 = rule h := by
  unfold record
  split
  · rfl
  · split
    · rfl
    · exact hrule h _

theorem recordAll_rule [Scalar α] {β : Type} (rule : PassengerHistory α → β)
    (hrule : ∀ h totals, rule { h with totals := totals } = rule h) (h : PassengerHistory α)
    (events : EventStore) (now : Int) (ms : List CountMatch) :
    rule (h.recordAll events now ms).2 = rule h := by
  rw [recordAll_snd]
  exact Run.invariant (P := fun h' : PassengerHistory α => rule h' = rule h)
    (fun h' m hsame => (record_rule rule hrule h' events now m).trans hsame) rfl ms

/-- Nor is it changed by sweeping. -/
theorem evict_rule {β : Type} (rule : PassengerHistory α → β)
    (hrule : ∀ h totals, rule { h with totals := totals } = rule h) (h : PassengerHistory α)
    (events : EventStore) (now : Int) : rule (h.evict events now).2 = rule h := by
  unfold evict
  split
  · rfl
  · exact hrule h _

theorem recordAll_retention [Scalar α] (h : PassengerHistory α) (events : EventStore) (now : Int)
    (ms : List CountMatch) : (h.recordAll events now ms).2.retention = h.retention :=
  recordAll_rule retention (fun _ _ => rfl) h events now ms

/-- A day comes to have a total by an event that stands on it. So what is so of the days that have a
total, and of those that the events of a match stand on, stays so. -/
theorem each_record [Scalar α] {P : RouteStopDay → Prop} {h : PassengerHistory α}
    (heach : h.totals.Each fun day _ => P day) {events : EventStore} (now : Int) {m : CountMatch}
    (hm : ∀ e ∈ m.events, ∀ day, dayOf events e.route e.stop e.time = some day → P day) :
    (h.record events now m).2.totals.Each fun day _ => P day := by
  unfold record
  split
  · exact heach
  · next e hnearest =>
    split
    · exact heach
    · next day hday =>
      have hP : P day := hm e (List.minOn?_mem hnearest) day hday
      exact heach.upsert hP fun _ _ => hP

theorem each_recordAll [Scalar α] {P : RouteStopDay → Prop} {h : PassengerHistory α}
    (heach : h.totals.Each fun day _ => P day) {events : EventStore} (now : Int)
    {ms : List CountMatch}
    (hms : ∀ m ∈ ms, ∀ e ∈ m.events, ∀ day, dayOf events e.route e.stop e.time = some day → P day) :
    (h.recordAll events now ms).2.totals.Each fun day _ => P day := by
  rw [recordAll_snd]
  refine Run.invariant_of_forall
    (P := fun h' : PassengerHistory α => h'.totals.Each fun day _ => P day)
    (fun h' m hm heach' => ?_) heach hms
  exact each_record heach' now hm

theorem each_evict {P : RouteStopDay → Prop} {h : PassengerHistory α}
    (heach : h.totals.Each fun day _ => P day) (events : EventStore) (now : Int) :
    (h.evict events now).2.totals.Each fun day _ => P day := by
  unfold evict
  split
  · exact heach
  · exact heach.filter _

/-! ### Agreeing on some dates -/

/-- A history that was swept beside one that was not: they differ in nothing but totals of dates
that are not kept, and what the first holds the second holds. -/
structure AgreeOn (kept : CivilDate → Prop) (swept plain : PassengerHistory α) : Prop where
  /-- The feed is switched the same. -/
  enabled : swept.enabled = plain.enabled
  /-- The same gaps are usable. -/
  maxHeadway : swept.maxHeadway = plain.maxHeadway
  /-- As many days are searched. -/
  lookbackDays : swept.lookbackDays = plain.lookbackDays
  /-- Totals are kept for as long. -/
  retention : swept.retention = plain.retention
  /-- The totals of kept dates are the same. -/
  totals : ∀ day, kept day.date → swept.totals.get? day = plain.totals.get? day
  /-- Nothing more is held. -/
  held : ∀ day, (swept.totals.get? day).isSome → (plain.totals.get? day).isSome

namespace AgreeOn

variable {kept : CivilDate → Prop} {swept plain : PassengerHistory α}

theorem refl (kept : CivilDate → Prop) (h : PassengerHistory α) : AgreeOn kept h h :=
  ⟨rfl, rfl, rfl, rfl, fun _ _ => rfl, fun _ => id⟩

/-- Sweeping removes nothing that is kept. -/
theorem evict (h : AgreeOn kept swept plain) (events : EventStore) (now : Int)
    (hkept : ∀ date, kept date → removes events.zone plain.retention now date = false) :
    AgreeOn kept (swept.evict events now).2 plain := by
  have hrule {β : Type} (rule : PassengerHistory α → β)
      (hrule : ∀ h totals, rule { h with totals := totals } = rule h) :
      rule (swept.evict events now).2 = rule swept := evict_rule rule hrule swept events now
  refine ⟨(hrule (·.enabled) fun _ _ => rfl).trans h.enabled,
    (hrule (·.maxHeadway) fun _ _ => rfl).trans h.maxHeadway,
    (hrule (·.lookbackDays) fun _ _ => rfl).trans h.lookbackDays,
    (hrule (·.retention) fun _ _ => rfl).trans h.retention, fun day hday => ?_, fun day hsome => ?_⟩
  · rw [get?_evict, h.retention, hkept day.date hday, ← h.totals day hday]
    cases swept.totals.get? day <;> rfl
  · rw [get?_evict] at hsome
    refine h.held day ?_
    cases hget : swept.totals.get? day with
    | none => rw [hget] at hsome; exact hsome
    | some total => rfl

/-! ### What is answered -/

theorem totalsAt_eq (h : AgreeOn kept swept plain) {events : EventStore} {ts : Int}
    (hkept : ∀ date, events.zone.serviceDate ts = some date → kept date) (route stop : String) :
    swept.totalsAt events route stop ts = plain.totalsAt events route stop ts := by
  unfold totalsAt dayOf
  cases hdate : events.zone.serviceDate ts with
  | none => rfl
  | some date => exact h.totals ⟨route, stop, date⟩ (hkept date hdate)

theorem hasData_imp (h : AgreeOn kept swept plain) (hdata : swept.hasData = true) :
    plain.hasData = true := by
  simp only [hasData, Bool.and_eq_true, Bool.not_eq_true', ← Bool.not_eq_true,
    Keyed.isEmpty_iff] at hdata ⊢
  refine ⟨h.enabled ▸ hdata.1, fun hempty => hdata.2 fun day => ?_⟩
  have hheld := h.held day
  rw [hempty day] at hheld
  simpa using hheld

theorem hasData_eq (h : AgreeOn kept swept plain) {day : RouteStopDay} (hkept : kept day.date)
    (hsome : (plain.totals.get? day).isSome) : swept.hasData = plain.hasData := by
  have hswept : swept.totals.isEmpty = false := by
    rw [← Bool.not_eq_true, Keyed.isEmpty_iff]
    intro hempty
    rw [← h.totals day hkept, hempty] at hsome
    cases hsome
  have hplain : plain.totals.isEmpty = false := by
    rw [← Bool.not_eq_true, Keyed.isEmpty_iff]
    intro hempty
    rw [hempty] at hsome
    cases hsome
  rw [hasData, hasData, hswept, hplain, h.enabled]

variable [Scalar α]

theorem rateBefore_eq (h : AgreeOn kept swept plain) {events : EventStore} {ts : Int}
    (hkept : ∀ back, 1 ≤ back → back ≤ plain.lookbackDays → ∀ date,
      events.zone.serviceDate (DaysBack.before ts back) = some date → kept date)
    (route stop : String) :
    swept.rateBefore events route stop ts = plain.rateBefore events route stop ts := by
  unfold rateBefore
  rw [h.lookbackDays]
  refine DaysBack.latest?_congr fun back hone hback => ?_
  rw [h.totalsAt_eq (hkept back hone hback)]

/-! ### What is recorded -/

/-- A match is counted alike, and changes the same total. -/
theorem record (h : AgreeOn kept swept plain) (events : EventStore) (now : Int) (m : CountMatch) :
    (swept.record events now m).1 = (plain.record events now m).1 ∧
      AgreeOn kept (swept.record events now m).2 (plain.record events now m).2 := by
  have hheadway : ∀ e, swept.headwayBefore events now e = plain.headwayBefore events now e := by
    intro e
    simp only [headwayBefore, h.maxHeadway]
  unfold PassengerHistory.record
  cases m.nearest? with
  | none => exact ⟨rfl, h⟩
  | some e =>
    simp only [hheadway]
    cases dayOf events e.route e.stop e.time with
    | none => exact ⟨rfl, h⟩
    | some day =>
      refine ⟨rfl, h.enabled, h.maxHeadway, h.lookbackDays, h.retention, fun other hkept => ?_,
        fun other => ?_⟩
      · rw [Keyed.get?_upsert, Keyed.get?_upsert, h.totals other hkept]
        by_cases hother : other = day
        · subst hother
          rw [h.totals other hkept]
        · rw [if_neg hother, if_neg hother]
      · rw [Keyed.get?_upsert, Keyed.get?_upsert]
        by_cases hother : other = day
        · simp [hother]
        · rw [if_neg hother, if_neg hother]
          exact h.held other

theorem recordAll (h : AgreeOn kept swept plain) (events : EventStore) (now : Int)
    (ms : List CountMatch) :
    AgreeOn kept (swept.recordAll events now ms).2 (plain.recordAll events now ms).2 := by
  rw [recordAll_snd, recordAll_snd]
  exact (Run.simulation_same (fun _ _ m hagree => hagree.record events now m) h ms).2

end AgreeOn

/-! ### Runs -/

/-- What may be done with a history. -/
inductive Action where
  /-- Matches are recorded while the event store holds certain stop-days. -/
  | record (days : Keyed StopDay (List StopEvent)) (ms : List CountMatch)
  /-- The feed of passenger counts is switched. -/
  | switch (enabled : Bool)
  /-- Totals are swept. -/
  | evict

/-- Whether an action is a sweep. -/
def Action.isSweep : Action → Bool
  | evict => true
  | _ => false

variable [Scalar α]

/-- Carries out an action at an instant, beside an event store of some retention and zone, and tells
how many matches were counted or totals removed. -/
def act (events : EventStore) (h : PassengerHistory α) :
    Int × Action → Nat × PassengerHistory α
  | (now, .record days ms) => h.recordAll { events with days := days } now ms
  | (_, .switch enabled) => (0, { h with enabled := enabled })
  | (now, .evict) => h.evict events now

/-- What hangs neither on the totals nor on the switch is changed by nothing. -/
theorem act_rule {β : Type} (rule : PassengerHistory α → β)
    (htotals : ∀ h totals, rule { h with totals := totals } = rule h)
    (henabled : ∀ h enabled, rule { h with enabled := enabled } = rule h) (events : EventStore)
    (h : PassengerHistory α) (action : Int × Action) : rule (act events h action).2 = rule h := by
  obtain ⟨now, action⟩ := action
  cases action with
  | record days ms => exact recordAll_rule rule htotals h _ now ms
  | switch enabled => exact henabled h enabled
  | evict => exact evict_rule rule htotals h events now

/-- Whether no sweep among some actions removes the totals of a date. -/
def Kept (zone : Zone) (retention : Int) (actions : List (Int × Action)) (date : CivilDate) :
    Prop :=
  ∀ now, (now, .evict) ∈ actions → removes zone retention now date = false

/-- Actions without the sweeps among them. -/
def unswept (actions : List (Int × Action)) : List (Int × Action) :=
  actions.filter fun action => !action.2.isSweep

/-- A run with sweeps and the run without them agree on dates that the sweeps keep. -/
theorem AgreeOn.run {kept : CivilDate → Prop} {swept plain : PassengerHistory α}
    (h : AgreeOn kept swept plain) (events : EventStore) {actions : List (Int × Action)}
    (hkept : ∀ date, kept date → Kept events.zone plain.retention actions date) :
    AgreeOn kept (Run.after (act events) swept actions)
      (Run.after (act events) plain (unswept actions)) := by
  induction actions generalizing swept plain with
  | nil => exact h
  | cons action actions ih =>
    obtain ⟨now, action⟩ := action
    have hlater : ∀ date, kept date → Kept events.zone plain.retention actions date :=
      fun date hdate now hnow => hkept date hdate now (List.mem_cons_of_mem _ hnow)
    cases action with
    | record days ms =>
      rw [← plain.recordAll_retention { events with days := days } now ms] at hlater
      exact ih (h.recordAll { events with days := days } now ms) hlater
    | switch enabled =>
      exact ih ⟨rfl, h.maxHeadway, h.lookbackDays, h.retention, h.totals, h.held⟩ hlater
    | evict =>
      exact ih (h.evict events now fun date hdate => hkept date hdate now List.mem_cons_self) hlater

/-- **What sweeping does to readers.** Beside a run in which a history is swept now and then, take
the same run without the sweeps. After it a total of a date that no sweep removed is answered the
same, and so is a rate if no sweep removed any of the dates that it is looked for on. There are
passenger counts to predict from after the run with sweeps only if there are without them, and if
without them there is a total of a date that no sweep removed, then the answer is the same. But a
total of a date that one more sweep removes is not answered after it, whatever is answered
before. -/
theorem sweeps_change_no_kept_date (events : EventStore) (h : PassengerHistory α)
    (actions : List (Int × Action)) :
    let swept := Run.after (act events) h actions
    let plain := Run.after (act events) h (unswept actions)
    let kept := Kept events.zone h.retention actions
    (∀ route stop ts, (∀ date, events.zone.serviceDate ts = some date → kept date) →
      swept.totalsAt events route stop ts = plain.totalsAt events route stop ts) ∧
    (∀ route stop ts, (∀ back, 1 ≤ back → back ≤ plain.lookbackDays → ∀ date,
        events.zone.serviceDate (DaysBack.before ts back) = some date → kept date) →
      swept.rateBefore events route stop ts = plain.rateBefore events route stop ts) ∧
    (swept.hasData = true → plain.hasData = true) ∧
    (∀ day, kept day.date → (plain.totals.get? day).isSome → swept.hasData = plain.hasData) ∧
    ∀ now route stop ts date, events.zone.serviceDate ts = some date →
      removes events.zone swept.retention now date = true →
      (swept.evict events now).2.totalsAt events route stop ts = none := by
  intro swept plain kept
  have hagree : AgreeOn kept swept plain := (AgreeOn.refl kept h).run events fun date hdate => hdate
  exact ⟨fun route stop ts hkept => hagree.totalsAt_eq hkept route stop,
    fun route stop ts hkept => hagree.rateBefore_eq hkept route stop,
    hagree.hasData_imp, fun day hkept hsome => hagree.hasData_eq hkept hsome,
    fun now route stop ts date hdate hremoves =>
      totalsAt_evict_of_removes hdate hremoves route stop⟩

/-- An event store whose zone keeps to UTC, and with four days of retention. -/
def utcEvents : EventStore := .empty 345600000 .utc

/-- A week at a pier. A vehicle is counted on the first day. On the seventh day one comes ten
minutes after another and is counted, and the history is swept. -/
def weekAtPier : List (Int × Action) :=
  let first : StopEvent := ⟨"1", "pier", "t1", "r", 0, true, 0⟩
  let second : StopEvent := ⟨"2", "pier", "t2", "r", 518400000, true, 0⟩
  let third : StopEvent := ⟨"3", "pier", "t3", "r", 519000000, true, 0⟩
  [(0, .record (utcEvents.put 0 first).2.days [⟨⟨"1", 0, 3, 1, none, none⟩, [first]⟩]),
    (519000000, .record (utcEvents.populate 519000000 [second, third]).2.days
      [⟨⟨"3", 519000000, 6, 0, none, none⟩, [third]⟩]),
    (519000000, .evict)]

/-- The history after that week, with some of its actions. -/
def afterWeek (actions : List (Int × Action)) : PassengerHistory Rat :=
  Run.after (act utcEvents) (.empty 7200 5 345600000) actions

/-- On the next day the rate is that of the seventh day, swept or not. -/
theorem weekAtPier_rate :
    (∀ back, 1 ≤ back → back ≤ 5 → ∀ date,
      Zone.utc.serviceDate (DaysBack.before 604800000 back) = some date →
      Kept .utc 345600000 weekAtPier date) ∧
    (afterWeek weekAtPier).rateBefore utcEvents "r" "pier" 604800000 =
      (afterWeek (unswept weekAtPier)).rateBefore utcEvents "r" "pier" 604800000 ∧
    (afterWeek weekAtPier).rateBefore utcEvents "r" "pier" 604800000 = some (1 / 100) := by
  have hkept : ∀ back, 1 ≤ back → back ≤ 5 → ∀ date,
      Zone.utc.serviceDate (DaysBack.before 604800000 back) = some date →
      Kept .utc 345600000 weekAtPier date := by
    have hdays : ∀ back < 6, 1 ≤ back → removes .utc 345600000 519000000
        ⟨Zone.utc.localMs (DaysBack.before 604800000 back) / msPerDay⟩ = false := by decide
    intro back hone hback date hdate now hnow
    obtain rfl : now = 519000000 := by simpa [weekAtPier] using hnow
    rw [Zone.serviceDate, Option.ite_none_right_eq_some] at hdate
    obtain ⟨-, rfl⟩ := hdate.imp_right Option.some.inj
    exact hdays back (by omega) hone
  exact ⟨hkept, (sweeps_change_no_kept_date utcEvents (.empty 7200 5 345600000) weekAtPier).2.1
    "r" "pier" 604800000 hkept, by decide +kernel⟩

/-- The total of the first day, which is past retention then, is answered if the history was not
swept, and is not if it was. -/
theorem total_past_retention_until_swept :
    ((afterWeek (unswept weekAtPier)).totalsAt utcEvents "r" "pier" 0).isSome = true ∧
      ((afterWeek weekAtPier).totalsAt utcEvents "r" "pier" 0).isSome = false := by
  decide +kernel

end PassengerHistory

end TransitDwell
