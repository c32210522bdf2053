import TransitDwell.Proofs.Completion
import TransitDwell.Proofs.HistoryRun

/-!
# The longest headway

A gap between vehicles counts as a headway unless it is longer than the maximum. Two readers decide
this. The history, when it rates an observation, compares milliseconds. An attempt first cuts the
gap to whole seconds and compares those, so that a gap over the maximum by less than a second is
not over it for an attempt.

The history keeps the maximum in milliseconds, and in 64 bits. A setting that they do not hold wraps
around there, while attempts go by the seconds as they were set.

## What is proved

* Both readers go by one setting, whatever has been done with a service
  (`Service.afterRun_maxHeadway`).
* An attempt without a usable headway declines, unless a prediction is remembered for its context,
  and changes nothing (`Attempt.declines_of_headwayFor_eq_none`). A chain then answers by the
  schedule (`Strategy.predict_of_declined`).
* Main statement: `headway_limits_differ_iff_just_too_long`. That they do differ is seen in a
  service where two vehicles come two hours and one millisecond apart:
  `Service.vehicles_just_over_two_hours_apart`.
-/

namespace TransitDwell

/-! ### Two ways to compare -/

namespace DwellConfig

variable {α : Type} [Scalar α] {c : DwellConfig α} {s : Sources α} {r : DwellRequest} {ts gap : Int}

/-- Whether a gap in milliseconds is longer than the maximum, but by less than a second. -/
def JustTooLong (c : DwellConfig α) (gap : Int) : Prop :=
  c.maxHeadway * msPerSecond < gap ∧ gap < (c.maxHeadway + 1) * msPerSecond

/-- Whether 64 bits hold the maximum in milliseconds. -/
def HeadwayFits (c : DwellConfig α) : Prop :=
  minWhole ≤ c.maxHeadway * msPerSecond ∧ c.maxHeadway * msPerSecond ≤ maxWhole

/-- A gap is usable for an attempt unless it is a whole second longer than the maximum. -/
theorem headwayFor_of_reported (hgap : 0 ≤ gap)
    (hreported : s.headway r.stop r.route ts = .ok (some gap)) :
    c.headwayFor s r ts =
      if gap < (c.maxHeadway + 1) * msPerSecond then some (gap / msPerSecond) else none := by
  have hcut : gap.tdiv msPerSecond = gap / msPerSecond := Int.tdiv_eq_ediv_of_nonneg hgap
  have hcompare : gap / msPerSecond ≤ c.maxHeadway ↔ gap < (c.maxHeadway + 1) * msPerSecond := by
    rw [← Int.lt_add_one_iff, Int.ediv_lt_iff_lt_mul (by decide)]
  rw [headwayFor, hreported, Lookup.value?_ok, Option.bind_some, hcut]
  simp only [hcompare]

/-- The seconds of a gap that is just too long are the maximum. -/
theorem JustTooLong.seconds_eq (h : c.JustTooLong gap) : gap / msPerSecond = c.maxHeadway := by
  have hlower : c.maxHeadway ≤ gap / msPerSecond :=
    (Int.le_ediv_iff_mul_le (by decide)).mpr (Int.le_of_lt h.1)
  have hupper : gap / msPerSecond < c.maxHeadway + 1 :=
    (Int.ediv_lt_iff_lt_mul (by decide)).mpr h.2
  exact Int.le_antisymm (Int.lt_add_one_iff.mp hupper) hlower

/-- The two limits decide alike on every gap that is not just too long, and on no other. -/
theorem limits_agree_iff (c : DwellConfig α) (gap : Int) :
    (gap < (c.maxHeadway + 1) * msPerSecond ↔ gap ≤ c.maxHeadway * msPerSecond) ↔
      ¬ c.JustTooLong gap := by
  have hlimits : c.maxHeadway * msPerSecond < (c.maxHeadway + 1) * msPerSecond := by
    rw [Int.add_mul, Int.one_mul]
    exact Int.lt_add_of_pos_right _ (by decide)
  unfold JustTooLong
  omega

end DwellConfig

/-! ### Both go by one setting -/

namespace Service

variable {α : Type} [Scalar α]

/-- The history of a service goes by the longest headway of its settings. -/
theorem afterRun_maxHeadway (c : DwellConfig α) (actions : List (Int × Action)) :
    (afterRun c actions).history.maxHeadway = wrapWhole (c.maxHeadway * msPerSecond) :=
  Run.invariant
    (P := fun s : Service α => s.history.maxHeadway = wrapWhole (c.maxHeadway * msPerSecond))
    (fun s action h =>
      (act_history_rule (·.maxHeadway) (fun _ _ => rfl) (fun _ _ => rfl) s action).trans h)
    rfl actions

end Service

/-! ### Without a usable headway -/

/-- An attempt without a usable headway declines and leaves what is held as it was, unless a
prediction is remembered for its context. -/
theorem Attempt.declines_of_headwayFor_eq_none {α : Type} [Scalar α] {c : DwellConfig α}
    {s : Sources α} {now : Int} {stores : Stores α} {r : DwellRequest}
    (hnone : ∀ ts, r.adjustedArrival = some ts → c.headwayFor s r ts = none)
    (hfresh : ∀ context, r.context? c.bucketWidth = some context →
      stores.contexts.get? now context = none) :
    (∃ reason, (make c s now stores r).outcome = .declined reason) ∧
      (make c s now stores r).stores = stores := by
  -- every rung above `Rated` has a usable headway
  have hunspaced {context ts rate headway} :
      ¬ Spaced c s now stores r context ts rate headway := fun h => by
    have hsome := DwellConfig.headwayFor_eq_some.mpr h.spaced
    rw [hnone ts h.adjustedArrival_eq] at hsome
    cases hsome
  rcases stops_or_completes c s now stores r with ⟨answer, hstops⟩ | ⟨_, _, _, _, hcompletes⟩
  · obtain ⟨houtcome, hstores⟩ := hstops.make_eq
    refine ⟨?_, hstores⟩
    rw [houtcome]
    cases hstops with
    | remembered hbegins hheld =>
      rw [hfresh _ hbegins.context?_eq] at hheld
      cases hheld
    | tooFewDwells hspaced _ => exact absurd hspaced hunspaced
    | _ => exact ⟨_, rfl⟩
  · exact absurd hcompletes.toSpaced hunspaced

namespace Strategy

/-- The strategy that goes by an attempt and keeps what the attempt keeps. -/
def ofAttempt {α : Type} [Scalar α] (c : DwellConfig α) (s : Sources α) (now : Int) :
    Strategy (Stores α) where
  name := countsName
  attempt r stores :=
    let attempt := Attempt.make c s now stores r
    (attempt.outcome, attempt.stores)

/-- Where the first strategy of a chain declines and the second goes by the schedule, the answer is
what the schedule allows. -/
theorem predict_of_declined {σ : Type} {first : Strategy σ} {r : DwellRequest} {state after : σ}
    {reason : DeclineReason} (h : first.attempt r state = (.declined reason, after))
    (defaultDwell fallback : Int) :
    predict [first, scheduled defaultDwell] fallback r state =
      (⟨r.scheduledDwell.getD defaultDwell, .baseline⟩, after) := by
  simp only [predict, h, scheduled]

end Strategy

/-- **The history and an attempt differ on gaps that are just too long, and on no others.** Let a
gap be reported to an attempt, and let the same gap be that before an event which a service rates,
whatever has been done with the service. The history uses it up to the maximum as 64 bits keep it,
and the attempt until it is a whole second longer than the maximum. So if 64 bits hold the maximum,
they differ exactly on gaps over it by less than a second. An attempt takes these for the maximum.
If the gap is a whole second longer, or more, and nothing is remembered for the context of the
request, then a chain of the attempt and the schedule answers by the schedule, and what the attempt
keeps stays as it was. -/
theorem headway_limits_differ_iff_just_too_long {α : Type} [Scalar α] (c : DwellConfig α)
    (actions : List (Int × Service.Action)) (source : Sources α) (r : DwellRequest) (ts gap : Int)
    (hgap : 0 ≤ gap) (hreported : source.headway r.stop r.route ts = .ok (some gap)) :
    let used := c.headwayFor source r ts
    used = (if gap < (c.maxHeadway + 1) * msPerSecond then some (gap / msPerSecond) else none) ∧
      (∀ (events : EventStore) now e previous,
        StopEvent.lastArrivalBefore (events.getForTime now e.stop e.time) e.time
          (fun p => p.route == e.route && p.vehicle != e.vehicle) = some previous →
        e.time - previous.time = gap →
        let rated := (Service.afterRun c actions).history.headwayBefore events now e
        rated = (if gap ≤ wrapWhole (c.maxHeadway * msPerSecond) then some gap else none) ∧
          (c.HeadwayFits → (used.isSome ≠ rated.isSome ↔ c.JustTooLong gap))) ∧
      (c.JustTooLong gap → used = some c.maxHeadway) ∧
      ((c.maxHeadway + 1) * msPerSecond ≤ gap → r.adjustedArrival = some ts →
        ∀ now (stores : Stores α), (∀ context, r.context? c.bucketWidth = some context →
            stores.contexts.get? now context = none) →
          ∀ defaultDwell fallback,
            Strategy.predict [.ofAttempt c source now, .scheduled defaultDwell] fallback r stores =
              (⟨r.scheduledDwell.getD defaultDwell, .baseline⟩, stores)) := by
  have hused := c.headwayFor_of_reported hgap hreported
  refine ⟨hused, ?_, ?_, ?_⟩
  · rintro events now e previous hprevious hbefore
    have hrated : (Service.afterRun c actions).history.headwayBefore events now e =
        if gap ≤ wrapWhole (c.maxHeadway * msPerSecond) then some gap else none := by
      rw [PassengerHistory.headwayBefore, hprevious, Service.afterRun_maxHeadway, ← hbefore]
    refine ⟨hrated, fun hfits => ?_⟩
    rw [hused, hrated, wrapWhole_eq hfits.1 hfits.2, ne_eq, Bool.eq_iff_iff, Option.isSome_ite,
      Option.isSome_ite, ← not_iff_not, not_not]
    exact c.limits_agree_iff gap
  · intro hjust
    rw [hused, if_pos hjust.2, hjust.seconds_eq]
  · intro hlong harrival now stores hfresh defaultDwell fallback
    have hnone : ∀ ts', r.adjustedArrival = some ts' → c.headwayFor source r ts' = none := by
      intro ts' harrival'
      obtain rfl := Option.some.inj (harrival.symm.trans harrival')
      rw [hused, if_neg (Int.not_lt.mpr hlong)]
    obtain ⟨⟨reason, hdeclined⟩, hstores⟩ := Attempt.declines_of_headwayFor_eq_none hnone hfresh
    exact Strategy.predict_of_declined (Prod.ext hdeclined hstores) defaultDwell fallback

/-! ### Two hours apart -/

namespace Service

/-- Two vehicles of a route come to the pier one after the other, and six passengers board the
second. -/
def comings (gap : Int) : List (Int × Action) :=
  [(0, .ingestEvent ⟨"1", "pier", "t1", "r", 0, true, 0⟩),
    (gap, .ingestEvent ⟨"2", "pier", "t2", "r", gap, true, 0⟩),
    (gap, .ingestCounts .entered [⟨"2", gap, 6, 0, none, none⟩])]

/-- Settings by which two hours are the longest headway. -/
def pierSettings : DwellConfig Rat := { zone := .utc, defaultRate := some 0.0078125 }

/-- The service after the two came. -/
def pierService (gap : Int) : Service Rat := afterRun pierSettings (comings gap)

/-- A request for the second vehicle as it comes. -/
def secondComing (gap : Int) : DwellRequest := ⟨"t2", "r", "pier", 1, "2", some gap, 0, none, none⟩

/-- At two hours and one second neither uses the gap, and the answer is by the schedule. -/
theorem vehicles_over_two_hours_apart :
    pierSettings.HeadwayFits ∧ ¬ pierSettings.JustTooLong 7201000 ∧
      PassengerHistory.lastHeadway (pierService 7201000).events 7201000 "pier" "r" 7201000 =
        some 7201000 ∧
      pierSettings.headwayFor ((pierService 7201000).sources 7201000) (secondComing 7201000)
        7201000 = none ∧
      (pierService 7201000).history.headwayBefore (pierService 7201000).events 7201000
        ⟨"2", "pier", "t2", "r", 7201000, true, 0⟩ = none ∧
      Strategy.predict [.ofAttempt pierSettings ((pierService 7201000).sources 7201000) 7201000,
          .scheduled 10000] 10000 (secondComing 7201000) (.empty 345600000) =
        (⟨10000, .baseline⟩, .empty 345600000) := by
  have hreported : PassengerHistory.lastHeadway (pierService 7201000).events 7201000 "pier" "r"
      7201000 = some 7201000 := by decide +kernel
  have hprevious : StopEvent.lastArrivalBefore
      ((pierService 7201000).events.getForTime 7201000 "pier" 7201000) 7201000
      (fun p => p.route == "r" && p.vehicle != "2") =
      some ⟨"1", "pier", "t1", "r", 0, true, 0⟩ := by decide +kernel
  obtain ⟨hused, hrated, -, hanswer⟩ := headway_limits_differ_iff_just_too_long pierSettings
    (comings 7201000) ((pierService 7201000).sources 7201000) (secondComing 7201000) 7201000 7201000
    (by decide) (congrArg Except.ok hreported)
  have hfits : pierSettings.HeadwayFits := ⟨by decide, by decide⟩
  obtain ⟨hrated, hdiffer⟩ :=
    hrated _ 7201000 ⟨"2", "pier", "t2", "r", 7201000, true, 0⟩ _ hprevious rfl
  replace hused := hused.trans (if_neg (by decide))
  replace hrated := hrated.trans (if_neg (by decide))
  refine ⟨hfits, fun hjust => ?_, hreported, hused, hrated, ?_⟩
  · exact (hdiffer hfits).mpr hjust (by rw [hused, hrated])
  · exact hanswer (by decide) rfl 7201000 (.empty 345600000) (fun _ _ => rfl) 10000 10000

/-- At two hours and one millisecond the gap is one by which the history does not rate, and by which
an attempt predicts. -/
theorem vehicles_just_over_two_hours_apart :
    let s := pierService 7200001
    PassengerHistory.lastHeadway s.events 7200001 "pier" "r" 7200001 = some 7200001 ∧
      s.history.headwayBefore s.events 7200001 ⟨"2", "pier", "t2", "r", 7200001, true, 0⟩ = none ∧
      (s.history.totalsAt s.events "r" "pier" 7200001).map (·.ratedBoardings) = some 0 ∧
      s.config.headwayFor (s.sources 7200001) (secondComing 7200001) 7200001 = some 7200 ∧
      (s.predict 7200001 (secondComing 7200001)).1 = ⟨0, .passengerCounts⟩ := by
  decide +kernel

end Service

end TransitDwell
