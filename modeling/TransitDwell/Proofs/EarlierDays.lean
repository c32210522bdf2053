import TransitDwell.Proofs.Completion
import TransitDwell.Service

/-!
# Earlier service days

What is asked of earlier service days is asked at instants one, two, three and more times
twenty-four hours back. A service day has twenty-four hours only where clocks are not changed on it.
Going back twenty-four hours leads to an earlier day as long as clocks were not set back in between
by as much as is left of the day (`Zone.LeavesDay`): in the last hour of a day of twenty-five hours
it leads to the first hour of the same day.

## What is proved

* A step back leads to an earlier day exactly if it leaves the day (`Zone.day_before_lt_iff`), and
  steps back lead to earlier and earlier days exactly if each of them leaves the day it starts on.
* Where they do, historical dwells are those of different days before the present one, and a
  boarding rate is that of a day before it: `earlier_days_iff_steps_leave_day`.
* Where one does not, a boarding rate may come from the total of the present day
  (`rate_of_day_of_twentyfive_hours`).
-/

namespace TransitDwell

/-! ### Searching days back -/

namespace DaysBack

@[simp] theorem before_zero (ts : Int) : before ts 0 = ts := by simp [before]

theorem before_succ (ts : Int) (days : Nat) : before ts (days + 1) = before ts days - msPerDay := by
  rw [before, before, Int.natCast_succ, Int.add_mul]
  omega

theorem before_le_before (ts : Int) {j k : Nat} (h : j ≤ k) : before ts k ≤ before ts j := by
  unfold before msPerDay
  omega

/-- Between two instants that have a date every instant has one. -/
theorem isDated_before {ts : Int} {n k : Nat} (hlast : isDated ts = true)
    (hfirst : isDated (before ts n) = true) (hk : k ≤ n) : isDated (before ts k) = true := by
  have hle := before_le_before ts hk
  have hle' := before_le_before ts (Nat.zero_le k)
  simp only [isDated, Bool.and_eq_true, decide_eq_true_eq, before_zero] at *
  omega

variable {β : Type} (ask : Nat → Option β)

/-- Every answer is that of a day of its own, among the days that may be asked, and nearer days
come first. -/
theorem exists_days_of_gather (wanted days : Nat) :
    ∃ backs : List Nat, (gather ask wanted days).map some = backs.map ask ∧
      backs.Pairwise (· < ·) ∧ ∀ back ∈ backs, 1 ≤ back ∧ back ≤ days := by
  refine ⟨((List.range' 1 days).filter fun back => (ask back).isSome).take wanted, ?_, ?_, ?_⟩
  · have hanswers : (found ask days).map some =
        ((List.range' 1 days).filter fun back => (ask back).isSome).map ask := by
      rw [found, List.map_filterMap_some_eq_filter_map_isSome, List.filter_map]
      rfl
    rw [gather_eq_take, List.map_take, hanswers, List.map_take]
  · have hincreasing : (List.range' 1 days).Pairwise (· < ·) := List.pairwise_lt_range' 1
    exact (hincreasing.sublist List.filter_sublist).sublist (List.take_sublist wanted _)
  · intro back hback
    obtain ⟨hmem, -⟩ := List.mem_filter.mp (List.mem_of_mem_take hback)
    obtain ⟨hone, hlt⟩ := List.mem_range'_1.mp hmem
    exact ⟨hone, by omega⟩

end DaysBack

/-! ### Steps of twenty-four hours -/

namespace Zone

variable (z : Zone) {ts : Int}

/-- Milliseconds since the date that local clocks show at an instant began on them. -/
def timeOfDay (ts : Int) : Int := z.localMs ts % msPerDay

/-- Milliseconds by which clocks were set back from an instant to a later one, all changes taken
together. -/
def setBack (earlier later : Int) : Int := z.offsetMs earlier - z.offsetMs later

/-- Whether twenty-four hours before an instant an earlier day was shown: the time of day, and what
clocks were set back by since, together fall short of twenty-four hours. -/
def LeavesDay (ts : Int) : Prop := z.timeOfDay ts + z.setBack (ts - msPerDay) ts < msPerDay

instance (ts : Int) : Decidable (z.LeavesDay ts) :=
  inferInstanceAs (Decidable (z.timeOfDay ts + z.setBack (ts - msPerDay) ts < msPerDay))

/-- The number of the day that local clocks show at an instant. -/
def dayNumber (ts : Int) : Int := z.localMs ts / msPerDay

theorem serviceDate_of_isDated (h : isDated ts = true) :
    z.serviceDate ts = some ⟨z.dayNumber ts⟩ := by
  rw [serviceDate, if_pos h]
  rfl

theorem serviceDate_eq_some {date : CivilDate} (h : z.serviceDate ts = some date) :
    date = ⟨z.dayNumber ts⟩ := by
  rw [serviceDate, Option.ite_none_right_eq_some] at h
  exact (Option.some.inj h.2).symm

/-- Twenty-four hours back it is an earlier day if and only if they leave the day. -/
theorem day_before_lt_iff (ts : Int) :
    z.dayNumber (ts - msPerDay) < z.dayNumber ts ↔ z.LeavesDay ts := by
  have hlocal : z.localMs (ts - msPerDay) =
      z.localMs ts - msPerDay + z.setBack (ts - msPerDay) ts := by
    unfold localMs setBack
    omega
  have hsplit := Int.mul_ediv_add_emod (z.localMs ts) msPerDay
  unfold LeavesDay timeOfDay dayNumber
  rw [Int.ediv_lt_iff_lt_mul (by decide), hlocal, Int.mul_comm]
  omega

/-- Steps back lead to earlier and earlier days if and only if each of them leaves the day that it
starts on. -/
theorem days_decrease_iff (ts : Int) (n : Nat) :
    (∀ j k, j < k → k ≤ n →
      z.dayNumber (DaysBack.before ts k) < z.dayNumber (DaysBack.before ts j)) ↔
      ∀ j < n, z.LeavesDay (DaysBack.before ts j) := by
  constructor
  · intro h j hj
    rw [← day_before_lt_iff, ← DaysBack.before_succ]
    exact h j (j + 1) (Nat.lt_succ_self j) hj
  · intro h j k hjk hk
    obtain ⟨steps, rfl⟩ := Nat.exists_eq_add_of_lt hjk
    -- one step after the other, beginning with the one from `j`
    induction steps with
    | zero =>
      rw [Nat.add_zero, DaysBack.before_succ, day_before_lt_iff]
      exact h j hk
    | succ steps ih =>
      have hlast : z.dayNumber (DaysBack.before ts (j + steps + 1 + 1)) <
          z.dayNumber (DaysBack.before ts (j + steps + 1)) := by
        rw [DaysBack.before_succ ts (j + steps + 1), day_before_lt_iff]
        exact h _ hk
      exact Int.lt_trans hlast (ih (by omega) (by omega))

end Zone

/-! ### What is read off earlier days -/

namespace PassengerHistory

/-- The mean dwell of a route at a stop on a service day. -/
def dwellOnDate (events : EventStore) (now : Int) (route stop : String) (date : CivilDate) :
    Option Int :=
  meanWhole (StopEvent.dwells route (events.get now ⟨stop, date⟩))

/-- A dwell at an instant is the dwell of the day that is shown then. -/
theorem dwellOn_eq_some {events : EventStore} {now ts dwell : Int} {route stop : String}
    (h : dwellOn events now route stop ts = some dwell) :
    dwellOnDate events now route stop ⟨events.zone.dayNumber ts⟩ = some dwell := by
  unfold dwellOn EventStore.getForTime EventStore.dayOf at h
  cases hdate : events.zone.serviceDate ts with
  | none => simp [hdate, StopEvent.dwells, meanWhole] at h
  | some date =>
    rw [hdate] at h
    rw [← events.zone.serviceDate_eq_some hdate]
    exact h

variable {α : Type} {history : PassengerHistory α} {events : EventStore} {ts : Int}
  {route stop : String}

/-- A total at an instant is the total of the day that is shown then. -/
theorem totalsAt_eq_some {total : DailyTotals α}
    (h : history.totalsAt events route stop ts = some total) :
    history.totals.get? ⟨route, stop, ⟨events.zone.dayNumber ts⟩⟩ = some total := by
  obtain ⟨date, hdate, htotal⟩ := totalsAt_eq_some_iff.mp h
  rw [← events.zone.serviceDate_eq_some hdate]
  exact htotal

variable [Scalar α]

/-- A rate is that of one of the days searched. -/
theorem rateBefore_eq_some {rate : α} (h : history.rateBefore events route stop ts = some rate) :
    ∃ back total, 1 ≤ back ∧ back ≤ history.lookbackDays ∧
      history.totals.get? ⟨route, stop, ⟨events.zone.dayNumber (DaysBack.before ts back)⟩⟩ =
        some total ∧ total.rate = some rate := by
  obtain ⟨back, hback, hle, hask, -⟩ := (DaysBack.latest?_eq_some_iff _).mp h
  obtain ⟨total, htotal, hrate⟩ := Option.bind_eq_some_iff.mp hask
  exact ⟨back, total, hback, hle, totalsAt_eq_some htotal, hrate⟩

end PassengerHistory

/-- The dwells collected are those of the days that are shown at the instants asked about. -/
theorem Attempt.exists_days_of_collected {α : Type} [Scalar α] (c : DwellConfig α) (s : Service α)
    (now : Int) (r : DwellRequest) (ts : Int) :
    ∃ backs : List Nat,
      (collected c (s.sources now) r ts).map some =
        (backs.map fun back => CivilDate.mk (s.events.zone.dayNumber (DaysBack.before ts back))).map
          (PassengerHistory.dwellOnDate s.events now r.route r.stop) ∧
      backs.Pairwise (· < ·) ∧ ∀ back ∈ backs, 1 ≤ back ∧ back ≤ c.searchDays := by
  obtain ⟨backs, hmap, hincreasing, hrange⟩ := DaysBack.exists_days_of_gather
    (DwellConfig.dwellBack (s.sources now) r ts) c.maxDays c.searchDays
  refine ⟨backs, ?_, hincreasing, hrange⟩
  rw [collected, hmap, List.map_map]
  refine List.map_congr_left fun back hback => ?_
  -- this day has an answer, as its answer was collected
  have hmem := List.mem_map_of_mem (f := DwellConfig.dwellBack (s.sources now) r ts) hback
  rw [← hmap] at hmem
  obtain ⟨dwell, -, hdwell⟩ := List.mem_map.mp hmem
  rw [← hdwell]
  exact (PassengerHistory.dwellOn_eq_some hdwell.symm).symm

/-- **Earlier service days.** Steps of twenty-four hours back from an instant lead to earlier and
earlier days if and only if each of them leaves the day that it starts on. Where the steps that a
service takes do so, the historical dwells it collects are those of different days, all of them
before the present one, and a boarding rate it knows is that of a day before the present one. -/
theorem earlier_days_iff_steps_leave_day {α : Type} [Scalar α] (s : Service α) (now ts : Int)
    (n : Nat) (hlast : isDated ts = true) (hfirst : isDated (DaysBack.before ts n) = true) :
    ((∀ j k, j < k → k ≤ n → ∃ later earlier,
        s.events.zone.serviceDate (DaysBack.before ts j) = some later ∧
        s.events.zone.serviceDate (DaysBack.before ts k) = some earlier ∧
        earlier.day < later.day) ↔
      ∀ j < n, s.events.zone.LeavesDay (DaysBack.before ts j)) ∧
    ((∀ j < n, s.events.zone.LeavesDay (DaysBack.before ts j)) →
      ∃ today, s.events.zone.serviceDate ts = some today ∧
        (∀ (c : DwellConfig α) (r : DwellRequest), c.searchDays ≤ n → ∃ dates : List CivilDate,
          (Attempt.collected c (s.sources now) r ts).map some =
            dates.map (PassengerHistory.dwellOnDate s.events now r.route r.stop) ∧
          (dates.Pairwise fun d e => e.day < d.day) ∧ ∀ d ∈ dates, d.day < today.day) ∧
        ∀ route stop rate, s.history.lookbackDays ≤ n →
          s.history.rateBefore s.events route stop ts = some rate → ∃ date total,
            date.day < today.day ∧
            s.history.totals.get? ⟨route, stop, date⟩ = some total ∧ total.rate = some rate) := by
  constructor
  · rw [← Zone.days_decrease_iff]
    refine forall_congr' fun j => forall_congr' fun k => forall_congr' fun hjk =>
      forall_congr' fun hk => ?_
    rw [Zone.serviceDate_of_isDated _ (DaysBack.isDated_before hlast hfirst (by omega)),
      Zone.serviceDate_of_isDated _ (DaysBack.isDated_before hlast hfirst hk)]
    simp
  · intro hleaves
    have hdecrease := (Zone.days_decrease_iff _ ts n).mpr hleaves
    have hbefore : ∀ back, 1 ≤ back → back ≤ n →
        s.events.zone.dayNumber (DaysBack.before ts back) < s.events.zone.dayNumber ts := by
      intro back hback hle
      simpa using hdecrease 0 back hback hle
    refine ⟨_, Zone.serviceDate_of_isDated _ hlast, fun c r hsearch => ?_,
      fun route stop rate hlookback hrate => ?_⟩
    · obtain ⟨backs, hmap, hincreasing, hrange⟩ := Attempt.exists_days_of_collected c s now r ts
      refine ⟨_, hmap, ?_, ?_⟩
      · rw [List.pairwise_map]
        refine hincreasing.imp_of_mem fun {j k} hj hk hjk => ?_
        exact hdecrease j k hjk (Nat.le_trans (hrange k hk).2 hsearch)
      · intro date hdate
        obtain ⟨back, hback, rfl⟩ := List.mem_map.mp hdate
        exact hbefore back (hrange back hback).1 (Nat.le_trans (hrange back hback).2 hsearch)
    · obtain ⟨back, total, hback, hle, htotal, htotalRate⟩ :=
        PassengerHistory.rateBefore_eq_some hrate
      exact ⟨_, total, hbefore back hback (Nat.le_trans hle hlookback), htotal, htotalRate⟩

/-! ### A Sunday of twenty-five hours -/

/-- The clocks of Chicago in 2021. -/
def chicago2021 : Zone :=
  (ClockHistory.mk (-21600) [⟨1636268400, -21600⟩, ⟨1615708800, -18000⟩]).zone "America/Chicago"

/-- Half an hour before the end of Sunday, 7 November 2021, in Chicago. -/
def sundayNight : Int := 1636349400000

/-- The noon after that Sunday. -/
def mondayNoon : Int := 1636394400000

/-- Arrivals of two vehicles ten minutes apart, in the first half hour of that Sunday. -/
def sundayArrivals : List StopEvent :=
  [⟨"1", "pier", "t1", "r", 1636261800000, true, 0⟩,
    ⟨"2", "pier", "t2", "r", 1636262400000, true, 0⟩]

/-- A service that has seen these arrivals, and six passengers boarding the second vehicle. -/
def sundayService : Service Rat :=
  let arrived := sundayArrivals.foldl (fun s e => (s.ingestEvent sundayNight e).2)
    (Service.new { zone := chicago2021 })
  (arrived.ingestCounts .entered sundayNight [⟨"2", 1636262400000, 6, 0, none, none⟩]).2

/-- On Monday the rate is that of the day before. -/
theorem sundayService_rate_on_monday :
    isDated mondayNoon = true ∧ isDated (DaysBack.before mondayNoon 5) = true ∧
      (∀ j < 5, chicago2021.LeavesDay (DaysBack.before mondayNoon j)) ∧
      sundayService.history.rateBefore sundayService.events "r" "pier" mondayNoon =
        some (1 / 100) ∧
      ∃ today, chicago2021.serviceDate mondayNoon = some today ∧ ∃ date total,
        date.day < today.day ∧
        sundayService.history.totals.get? ⟨"r", "pier", date⟩ = some total ∧
        total.rate = some (1 / 100) := by
  have hleaves : ∀ j < 5, chicago2021.LeavesDay (DaysBack.before mondayNoon j) := by decide
  have hrate : sundayService.history.rateBefore sundayService.events "r" "pier" mondayNoon =
      some (1 / 100) := by decide +kernel
  obtain ⟨today, htoday, -, hrates⟩ := (earlier_days_iff_steps_leave_day sundayService sundayNight
    mondayNoon 5 (by decide) (by decide)).2 hleaves
  exact ⟨by decide, by decide, hleaves, hrate, today, htoday,
    hrates "r" "pier" (1 / 100) (by decide +kernel) hrate⟩

/-- In the last hour of the Sunday twenty-four hours back is the same day, and the rate is that of
the Sunday itself, the only day with a total. -/
theorem rate_of_day_of_twentyfive_hours :
    chicago2021.serviceDate sundayNight = some ⟨18938⟩ ∧
      chicago2021.serviceDate (DaysBack.before sundayNight 1) = some ⟨18938⟩ ∧
      sundayService.history.totals.keys = [⟨"r", "pier", ⟨18938⟩⟩] ∧
      sundayService.history.rateBefore sundayService.events "r" "pier" sundayNight =
        some (1 / 100) := by
  decide +kernel

end TransitDwell
