import TransitDwell.Proofs.HistoryRun

/-!
# How far back a rate is looked for

A boarding rate is looked for on the service days of the instants one, two, three and more times
twenty-four hours earlier, and the nearest day with a total that has headways gives it. That nobody
got on there makes no difference, the rate is then zero. A total without headways is passed over.

The settings say how many days are searched at most. The number is kept in 32 bits, and no check
refuses a greater one: what does not fit is dropped. A service that is told to search more days
may search fewer, or none.

## What is proved

* When the history answers a rate, and which, and when it answers that there is none
  (`PassengerHistory.rateBefore_eq_some_iff`, `PassengerHistory.rateBefore_eq_none_iff`).
* Main statement: `rate_lookback_is_cut_to_32_bits`. A service that is told to search 4294967296
  days does not find the rate of yesterday (`longest_lookback_misses_yesterday`).
-/

namespace TransitDwell

namespace PassengerHistory

variable {α : Type} [Scalar α]

/-- A total of a route at a stop gives the rate a number of days before an instant. -/
structure IsRated (h : PassengerHistory α) (zone : Zone) (route stop : String) (ts : Int)
    (back : Nat) (total : DailyTotals α) : Prop where
  /-- It is the total of the service day that many times twenty-four hours earlier. -/
  held : ∃ date, zone.serviceDate (DaysBack.before ts back) = some date ∧
    h.totals.get? ⟨route, stop, date⟩ = some total
  /-- It has headways. -/
  headway : Scalar.below (Scalar.ofInt 0) total.headwaySecs = true

variable {h : PassengerHistory α} {events : EventStore} {route stop : String} {ts : Int} {rate : α}

/-- The rate asked of a day is that of its total. -/
theorem rate_of_day_eq_some_iff {back : Nat} :
    (h.totalsAt events route stop (DaysBack.before ts back)).bind DailyTotals.rate = some rate ↔
      ∃ total, h.IsRated events.zone route stop ts back total ∧
        rate = Scalar.ofInt total.ratedBoardings / total.headwaySecs := by
  rw [Option.bind_eq_some_iff]
  refine exists_congr fun total => ?_
  rw [totalsAt_eq_some_iff, DailyTotals.rate, Option.ite_none_right_eq_some, Option.some.injEq]
  constructor
  · rintro ⟨hheld, hheadway, hrate⟩
    exact ⟨⟨hheld, hheadway⟩, hrate.symm⟩
  · rintro ⟨⟨hheld, hheadway⟩, hrate⟩
    exact ⟨hheld, hheadway, hrate.symm⟩

theorem rate_of_day_eq_none_iff {back : Nat} :
    (h.totalsAt events route stop (DaysBack.before ts back)).bind DailyTotals.rate = none ↔
      ∀ total, ¬ h.IsRated events.zone route stop ts back total := by
  rw [Option.eq_none_iff_forall_ne_some]
  constructor
  · intro hnone total hrated
    exact hnone _ (rate_of_day_eq_some_iff.mpr ⟨total, hrated, rfl⟩)
  · intro hnone rate hrate
    obtain ⟨total, hrated, -⟩ := rate_of_day_eq_some_iff.mp hrate
    exact hnone total hrated

/-- The rate answered is that of the nearest day whose total has headways. -/
theorem rateBefore_eq_some_iff :
    h.rateBefore events route stop ts = some rate ↔
      ∃ back total, 1 ≤ back ∧ back ≤ h.lookbackDays ∧
        h.IsRated events.zone route stop ts back total ∧
        rate = Scalar.ofInt total.ratedBoardings / total.headwaySecs ∧
        ∀ nearer, 1 ≤ nearer → nearer < back →
          ∀ other, ¬ h.IsRated events.zone route stop ts nearer other := by
  unfold rateBefore
  rw [DaysBack.latest?_eq_some_iff]
  refine exists_congr fun back => ?_
  simp only [rate_of_day_eq_some_iff, rate_of_day_eq_none_iff]
  constructor
  · rintro ⟨hone, hle, ⟨total, hrated, hrate⟩, hnearer⟩
    exact ⟨total, hone, hle, hrated, hrate, hnearer⟩
  · rintro ⟨total, hone, hle, hrated, hrate, hnearer⟩
    exact ⟨hone, hle, ⟨total, hrated, hrate⟩, hnearer⟩

/-- There is none if none of the days searched has such a total. -/
theorem rateBefore_eq_none_iff :
    h.rateBefore events route stop ts = none ↔
      ∀ back, 1 ≤ back → back ≤ h.lookbackDays →
        ∀ total, ¬ h.IsRated events.zone route stop ts back total := by
  unfold rateBefore
  simp only [DaysBack.latest?_eq_none_iff, rate_of_day_eq_none_iff]

end PassengerHistory

/-- **A rate is looked for on as many days as 32 bits of the setting say.** Whatever is done with a
service and with its history, the rate of a route at a stop is answered from the nearest of those
days whose total has headways, whatever the trip and whenever it is asked for, and there is none
exactly if there is no such day. The days are as many as the settings say if that number fits into
32 bits, and otherwise fewer. -/
theorem rate_lookback_is_cut_to_32_bits {α : Type} [Scalar α] (c : DwellConfig α)
    (actions : List (Int × Service.OpenAction)) :
    let s := Service.afterOpenRun c actions
    let searched := c.maxDays % 4294967296
    (∀ now route trip stop ts rate,
      (s.sources now).rate route trip stop ts = .ok (some rate) ↔
        ∃ back total, 1 ≤ back ∧ back ≤ searched ∧
          s.history.IsRated c.zone route stop ts back total ∧
          rate = Scalar.ofInt total.ratedBoardings / total.headwaySecs ∧
          ∀ nearer, 1 ≤ nearer → nearer < back →
            ∀ other, ¬ s.history.IsRated c.zone route stop ts nearer other) ∧
    (∀ now route trip stop ts,
      (s.sources now).rate route trip stop ts = .ok none ↔
        ∀ back, 1 ≤ back → back ≤ searched →
          ∀ total, ¬ s.history.IsRated c.zone route stop ts back total) ∧
    (c.maxDays < 4294967296 → searched = c.maxDays) ∧
    (4294967296 ≤ c.maxDays → searched < c.maxDays) := by
  intro s searched
  have hruns : Service.RunsBy c s := Service.runsBy_afterOpenRun c actions
  have hsearched : s.history.lookbackDays = searched := hruns.lookbackDays
  refine ⟨fun now route trip stop ts rate => ?_, fun now route trip stop ts => ?_, ?_, ?_⟩
  · rw [← hsearched, ← hruns.zone_eq, ← PassengerHistory.rateBefore_eq_some_iff]
    exact ⟨Except.ok.inj, congrArg Except.ok⟩
  · rw [← hsearched, ← hruns.zone_eq, ← PassengerHistory.rateBefore_eq_none_iff]
    exact ⟨Except.ok.inj, congrArg Except.ok⟩
  · exact Nat.mod_eq_of_lt
  · exact Nat.lt_of_lt_of_le (Nat.mod_lt c.maxDays (by decide))

/-- Two vehicles come to a pier ten minutes apart, and six passengers board the second. -/
def tenMinutesApart : List (Int × Service.OpenAction) :=
  [(0, .onService (.ingestEvent ⟨"1", "pier", "t1", "r", 0, true, 0⟩)),
    (600000, .onService (.ingestEvent ⟨"2", "pier", "t2", "r", 600000, true, 0⟩)),
    (600000, .onService (.ingestCounts .entered [⟨"2", 600000, 6, 0, none, none⟩]))]

/-- Settings that ask for 4294967296 days pass every check. The day after, the total of yesterday
has a headway of six hundred seconds, and no rate is found. -/
theorem longest_lookback_misses_yesterday :
    let c : DwellConfig Rat := { zone := .utc, maxDays := 4294967296 }
    let s := Service.afterOpenRun c tenMinutesApart
    c.isValid = true ∧
      (∃ total, s.history.IsRated c.zone "r" "pier" 87000000 1 total ∧
        total.ratedBoardings = 6 ∧ total.headwaySecs = 600) ∧
      (s.sources 600000).rate "r" "t3" "pier" 87000000 = .ok none := by
  intro c s
  have htotal : (s.history.totals.get? ⟨"r", "pier", ⟨0⟩⟩).map
      (fun total => (total.ratedBoardings, total.headwaySecs)) = some (6, 600) := by
    decide +kernel
  obtain ⟨total, hheld, htotal⟩ := Option.map_eq_some_iff.mp htotal
  obtain ⟨hboardings, hheadway⟩ := Prod.mk.inj htotal
  have hpositive : Scalar.below (Scalar.ofInt 0) total.headwaySecs = true := by
    rw [hheadway]
    decide +kernel
  have hnone : s.history.rateBefore s.events "r" "pier" 87000000 = none := by decide +kernel
  exact ⟨by decide +kernel, ⟨total, ⟨⟨⟨0⟩, by decide, hheld⟩, hpositive⟩, hboardings, hheadway⟩,
    congrArg Except.ok hnone⟩

end TransitDwell
