import TransitDwell.Proofs.HistoryRun
import TransitDwell.Proofs.InvisibleSweeps
import TransitDwell.Proofs.StandingClock

/-!
# Daily totals and the end of their day

Daily totals are swept by date: a sweep compares the date of a total with the date of the earliest
instant that is not past retention, and keeps that date and all later ones. Events are swept by the
millisecond. On the day on which retention ends, whichever its length, the early events are past
retention and the late ones are not, and the total of the day is kept.

Where local dates never go back as time advances, the comparison of dates says the same as a
comparison of instants (`PassengerHistory.removes_eq_true_iff`): a total is removed once every
instant of its day is past retention. That the day has an instant is needed for it, and every day
that has a total does, since an event stood on it.

Main statement: `totals_dropped_with_their_day`.
-/

namespace TransitDwell

/-- Where a table answers no more keys than another, it has lost as many as it has fewer rows. -/
theorem Keyed.encard_lost {κ ν : Type} [DecidableEq κ] {t t' : Keyed κ ν}
    (h : ∀ k, (t'.get? k).isSome → (t.get? k).isSome) :
    {k | (t.get? k).isSome ∧ t'.get? k = none}.encard = (t.size - t'.size : Nat) := by
  have hfewer : {k | (t'.get? k).isSome} ⊆ {k | (t.get? k).isSome} := h
  have hlost : {k | (t.get? k).isSome ∧ t'.get? k = none} =
      {k | (t.get? k).isSome} \ {k | (t'.get? k).isSome} := by
    ext k
    simp
  have hsizes := Set.encard_sdiff_add_encard_of_subset hfewer
  rw [← hlost, encard_answered, encard_answered] at hsizes
  generalize {k | (t.get? k).isSome ∧ t'.get? k = none}.encard = lost at hsizes ⊢
  cases lost with
  | top => simp at hsizes
  | coe lost =>
    norm_cast at hsizes ⊢
    omega

namespace PassengerHistory

variable {α : Type} {zone : Zone} {retention now : Int}

/-! ### Dates and instants -/

/-- Where dates advance, a sweep removes the totals of a day if all of the day is past retention. -/
theorem removes_eq_true_iff (hzone : zone.DatesAdvance)
    (hdated : isDated (now - retention) = true) {date : CivilDate}
    (hshown : ∃ ts, zone.serviceDate ts = some date) :
    removes zone retention now date = true ↔
      ∀ ts, zone.serviceDate ts = some date → ts < now - retention := by
  constructor
  · intro hremoves ts hdate
    by_contra hage
    rw [removes_eq_false hzone (Int.not_lt.mp hage) hdate] at hremoves
    cases hremoves
  · intro hpast
    obtain ⟨ts, hdate⟩ := hshown
    have holdest := zone.serviceDate_of_isDated hdated
    have hle := hzone (Int.le_of_lt (hpast ts hdate)) hdate holdest
    -- the date of the earliest instant itself is not removed
    have hne : date.day ≠ zone.dayNumber (now - retention) := by
      rintro hsame
      have hdate' : zone.serviceDate (now - retention) = some date := by
        rw [holdest, ← hsame]
      exact Int.lt_irrefl _ (hpast _ hdate')
    rw [removes, holdest]
    exact decide_eq_true (Int.lt_iff_le_and_ne.mpr ⟨hle, hne⟩)

/-! ### What a sweep leaves and counts -/

theorem get?_evict_eq_some_iff {h : PassengerHistory α} {events : EventStore} {day : RouteStopDay}
    {total : DailyTotals α} :
    (h.evict events now).2.totals.get? day = some total ↔
      h.totals.get? day = some total ∧ removes events.zone h.retention now day.date = false := by
  rw [get?_evict, Option.filter_eq_some_iff, Bool.not_eq_true']

theorem get?_evict_eq_none_iff {h : PassengerHistory α} {events : EventStore} {day : RouteStopDay}
    {total : DailyTotals α} (hheld : h.totals.get? day = some total) :
    (h.evict events now).2.totals.get? day = none ↔
      removes events.zone h.retention now day.date = true := by
  rw [get?_evict, hheld, Option.filter_some]
  cases removes events.zone h.retention now day.date <;> simp

/-- A sweep tells how many totals there are fewer. -/
theorem evict_fst (h : PassengerHistory α) (events : EventStore) (now : Int) :
    (h.evict events now).1 = h.totals.size - (h.evict events now).2.totals.size := by
  unfold evict
  split
  · exact (Nat.sub_self _).symm
  · rfl

/-- A sweep changes nothing but the totals. -/
theorem evict_snd (h : PassengerHistory α) (events : EventStore) (now : Int) :
    (h.evict events now).2 = { h with totals := (h.evict events now).2.totals } := by
  unfold evict
  split <;> rfl

/-- Of the events a sweep knows the zone only. -/
theorem evict_congr (h : PassengerHistory α) {events events' : EventStore}
    (hzone : events.zone = events'.zone) (now : Int) :
    h.evict events now = h.evict events' now := by
  unfold evict
  rw [hzone]

end PassengerHistory

/-- **Daily totals are dropped with their day.** Let local dates never go back as time advances.
Whatever was done with a service and with its history, a sweep of the history whose earliest instant
not past retention has a date removes a total if and only if every instant of its service day is
past retention. It changes nothing else and tells how many totals it removed. It keeps every total
of a stop-day on which the event store still shows an event. A sweep of all stores sweeps the
history in the same way. -/
theorem totals_dropped_with_their_day {α : Type} [Scalar α] {c : DwellConfig α}
    (hzone : c.zone.DatesAdvance) (actions : List (Int × Service.OpenAction)) {now : Int}
    (hdated : isDated (now - c.retentionMs) = true) :
    let s := Service.afterOpenRun c actions
    let removed := (s.history.evict s.events now).1
    let swept := (s.history.evict s.events now).2
    (∀ day total, s.history.totals.get? day = some total →
      (swept.totals.get? day = none ↔
        ∀ ts, c.zone.serviceDate ts = some day.date → ts < now - c.retentionMs)) ∧
    (∀ day total, swept.totals.get? day = some total → s.history.totals.get? day = some total) ∧
    swept = { s.history with totals := swept.totals } ∧
    {day | (s.history.totals.get? day).isSome ∧ swept.totals.get? day = none}.encard = removed ∧
    (∀ day, s.events.get now ⟨day.stop, day.date⟩ ≠ [] →
      swept.totals.get? day = s.history.totals.get? day) ∧
    (s.evictAll now).1.days = removed ∧ (s.evictAll now).2.history = swept := by
  intro s removed swept
  have hruns : Service.RunsBy c s := Service.runsBy_afterOpenRun c actions
  have hkept : ∀ day total, swept.totals.get? day = some total →
      s.history.totals.get? day = some total :=
    fun day total hswept => (PassengerHistory.get?_evict_eq_some_iff.mp hswept).1
  have hevicted : (s.events.evict now).2.zone = s.events.zone := rfl
  refine ⟨fun day total hheld => ?_, hkept, s.history.evict_snd s.events now, ?_,
    fun day hshown => ?_, ?_, ?_⟩
  · rw [PassengerHistory.get?_evict_eq_none_iff hheld, hruns.zone_eq, hruns.retention]
    exact PassengerHistory.removes_eq_true_iff hzone hdated (hruns.shown day total hheld)
  · rw [Keyed.encard_lost fun day hswept => ?_, ← PassengerHistory.evict_fst]
    obtain ⟨total, hswept⟩ := Option.isSome_iff_exists.mp hswept
    exact Option.isSome_iff_exists.mpr ⟨total, hkept day total hswept⟩
  · obtain ⟨e, he⟩ := List.exists_mem_of_ne_nil _ hshown
    obtain ⟨log, hlog⟩ := hruns.events
    obtain ⟨hon, hcurrent⟩ := List.mem_filter.mp he
    have hday := StopEvent.isOn_iff.mp (hlog.mem_eventsOn.mp hon).2
    have hage := EventStore.isCurrent_iff.mp hcurrent
    rw [hlog.retention_eq] at hage
    have hremoves := PassengerHistory.removes_eq_false hzone hage hday.2
    change (s.history.evict s.events now).2.totals.get? day = _
    rw [PassengerHistory.get?_evict, hruns.zone_eq, hruns.retention, hremoves]
    cases s.history.totals.get? day <;> rfl
  · exact congrArg Prod.fst (s.history.evict_congr hevicted now)
  · exact congrArg Prod.snd (s.history.evict_congr hevicted now)

/-! ### The end of a day of twenty-five hours -/

theorem chicago2021_offsetAt (second : Int) :
    chicago2021.offsetAt second =
      if 1636268400 ≤ second then -21600 else if 1615708800 ≤ second then -18000 else -21600 := by
  by_cases hautumn : 1636268400 ≤ second <;> by_cases hspring : 1615708800 ≤ second <;>
    simp [chicago2021, ClockHistory.zone, ClockHistory.offsetAt, hautumn, hspring]

/-- The clocks are set back from two to one in the night, and never past midnight. -/
theorem chicago2021_datesAdvance : chicago2021.DatesAdvance := by
  intro earlier later date date' hle hdate hdate'
  rw [chicago2021.serviceDate_eq_some hdate, chicago2021.serviceDate_eq_some hdate']
  simp only [Zone.dayNumber, Zone.localMs, Zone.offsetMs, chicago2021_offsetAt, msPerDay,
    msPerSecond]
  split <;> split <;> omega

/-- Two arrivals early on that Sunday, and passengers of the second, known by its last hour. -/
def sundayBoarding : List (Int × Service.OpenAction) :=
  sundayArrivals.map (fun e => (sundayNight, .onService (.ingestEvent e))) ++
    [(sundayNight, .onService (.ingestCounts .entered [⟨"2", 1636262400000, 6, 0, none, none⟩]))]

/-- The midnight after that Sunday. -/
def mondayMidnight : Int := 1636351200000

/-- The total of the Sunday is kept until its last millisecond is past retention. The arrivals are
past retention long before. -/
theorem sunday_total_dropped_at_midnight :
    let c : DwellConfig Rat := { zone := chicago2021 }
    let s := Service.afterOpenRun c sundayBoarding
    let sunday : RouteStopDay := ⟨"r", "pier", ⟨18938⟩⟩
    let now := mondayMidnight + c.retentionMs
    c.zone.DatesAdvance ∧ isDated (now - c.retentionMs) = true ∧
      isDated (now - 1 - c.retentionMs) = true ∧ s.events.get (now - 1) ⟨"pier", ⟨18938⟩⟩ = [] ∧
      ∃ total, s.history.totals.get? sunday = some total ∧
        (s.history.evict s.events now).2.totals.get? sunday = none ∧
        (s.history.evict s.events (now - 1)).2.totals.get? sunday ≠ none := by
  intro c s sunday now
  have hdated : isDated (now - c.retentionMs) = true := by decide
  have hdated' : isDated (now - 1 - c.retentionMs) = true := by decide
  obtain ⟨total, hheld⟩ : ∃ total, s.history.totals.get? sunday = some total :=
    Option.isSome_iff_exists.mp (by decide +kernel)
  have hsunday : ∀ ts, c.zone.serviceDate ts = some sunday.date → ts < now - c.retentionMs := by
    intro ts hdate
    have hday := congrArg CivilDate.day (chicago2021.serviceDate_eq_some hdate)
    change 18938 = chicago2021.dayNumber ts at hday
    change ts < mondayMidnight + c.retentionMs - c.retentionMs
    simp only [Zone.dayNumber, Zone.localMs, Zone.offsetMs, chicago2021_offsetAt, msPerDay,
      msPerSecond, mondayMidnight] at hday ⊢
    split at hday <;> omega
  have hdropped := totals_dropped_with_their_day chicago2021_datesAdvance sundayBoarding hdated
  have hkept := totals_dropped_with_their_day chicago2021_datesAdvance sundayBoarding hdated'
  refine ⟨chicago2021_datesAdvance, hdated, hdated', by decide +kernel, total, hheld,
    (hdropped.1 sunday total hheld).mpr hsunday, fun hnone => ?_⟩
  -- the last millisecond of the Sunday is not past retention yet
  have hlast := (hkept.1 sunday total hheld).mp hnone (mondayMidnight - 1) (by decide)
  revert hlast
  decide

end TransitDwell
