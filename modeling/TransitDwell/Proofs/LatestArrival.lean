import TransitDwell.Proofs.EventLog
import TransitDwell.Proofs.StopHistory

/-!
# The latest earlier arrival

A headway is found by going back through the events of a stop-day to the first that will do. What
it comes to can be said of the events as a set: it goes back to the greatest of the instants of
certain arrivals (`StopEvent.arrivalTimes`), whatever stands between and whatever ties. Before a
request these are the arrivals of its route; before an event they are those of its route that are
not of its own vehicle. A gap before an event that is over the maximum is no headway, and no older
arrival takes the place of the latest.

## What is proved

* What a headway is for a list in order (`PassengerHistory.lastHeadway_eq_some_iff` and so on).
* Main statement: `headway_goes_back_to_latest_arrival`.
-/

namespace TransitDwell

open StopEvent

/-! ### Headways of a list in order -/

namespace PassengerHistory

variable {α : Type} {s : EventStore} {now : Int} {gap : Int}

section Request

variable {stop route : String} {ts : Int}

theorem lastHeadway_eq_some_iff (hordered : InOrder (s.getForTime now stop ts)) :
    lastHeadway s now stop route ts = some gap ↔
      IsGreatest (arrivalTimes (s.getForTime now stop ts) ts (·.route == route)) (ts - gap) := by
  rw [lastHeadway_eq_map, ← time_lastArrivalBefore_eq_some_iff hordered, Option.map_eq_some_iff]
  constructor
  · rintro ⟨time, htime, rfl⟩
    rw [htime, Int.sub_sub_self]
  · intro htime
    exact ⟨ts - gap, htime, Int.sub_sub_self ts gap⟩

theorem lastHeadway_eq_none_iff :
    lastHeadway s now stop route ts = none ↔
      arrivalTimes (s.getForTime now stop ts) ts (·.route == route) = ∅ := by
  rw [lastHeadway, Option.map_eq_none_iff, lastArrivalBefore_eq_none_iff]

end Request

section Event

variable {h : PassengerHistory α} {e : StopEvent}

theorem headwayBefore_eq_some_iff (hordered : InOrder (s.getForTime now e.stop e.time)) :
    h.headwayBefore s now e = some gap ↔
      IsGreatest (arrivalTimes (s.getForTime now e.stop e.time) e.time e.isOfOther)
        (e.time - gap) ∧ gap ≤ h.maxHeadway := by
  rw [headwayBefore_eq_bind, ← time_lastArrivalBefore_eq_some_iff hordered,
    Option.bind_eq_some_iff]
  constructor
  · rintro ⟨time, htime, husable⟩
    obtain ⟨hle, hgap⟩ := Option.ite_none_right_eq_some.mp husable
    obtain rfl := Option.some.inj hgap
    rw [Int.sub_sub_self]
    exact ⟨htime, hle⟩
  · rintro ⟨htime, hle⟩
    refine ⟨e.time - gap, htime, ?_⟩
    rw [Int.sub_sub_self, if_pos hle]

/-- No older arrival takes the place of one that is too long ago. -/
theorem headwayBefore_eq_none_iff (hordered : InOrder (s.getForTime now e.stop e.time)) :
    h.headwayBefore s now e = none ↔
      arrivalTimes (s.getForTime now e.stop e.time) e.time e.isOfOther = ∅ ∨
        ∃ latest,
          IsGreatest (arrivalTimes (s.getForTime now e.stop e.time) e.time e.isOfOther) latest ∧
            h.maxHeadway < e.time - latest := by
  rw [headwayBefore_eq_bind]
  cases hfound : (lastArrivalBefore (s.getForTime now e.stop e.time) e.time e.isOfOther).map
      (·.time) with
  | none =>
    have hempty := lastArrivalBefore_eq_none_iff.mp (Option.map_eq_none_iff.mp hfound)
    exact ⟨fun _ => .inl hempty, fun _ => rfl⟩
  | some latest =>
    have hlatest := (time_lastArrivalBefore_eq_some_iff hordered).mp hfound
    rw [Option.bind_some]
    constructor
    · intro hnone
      refine .inr ⟨latest, hlatest, Int.not_le.mp fun hle => ?_⟩
      rw [if_pos hle] at hnone
      cases hnone
    · rintro (hempty | ⟨other, hother, hover⟩)
      · exact absurd hlatest.1 (Set.eq_empty_iff_forall_notMem.mp hempty latest)
      · rw [hlatest.unique hother, if_neg (Int.not_le.mpr hover)]

end Event

end PassengerHistory

/-! ### Events in another order -/

/-- Events that are put in another order at some point of a run are shown alike after it, ties
apart. -/
theorem EventStore.getForTime_putAll_perm (retention : Int) (zone : Zone)
    {puts puts' : List (Int × StopEvent)} (hperm : puts.Perm puts')
    (before later : List (Int × EventStore.Action)) (now : Int) (stop : String) (ts : Int) :
    let shown := fun puts => (Run.after EventStore.act (.empty retention zone)
      (before ++ EventStore.putAll puts ++ later)).getForTime now stop ts
    InOrder (shown puts) ∧ InOrder (shown puts') ∧ (shown puts).Perm (shown puts') := by
  intro shown
  have hholds := EventStore.holds_after retention zone (before ++ EventStore.putAll puts ++ later)
  have hholds' := EventStore.holds_after retention zone (before ++ EventStore.putAll puts' ++ later)
  exact ⟨(hholds.sortedFrom_getForTime now stop ts).ordered,
    (hholds'.sortedFrom_getForTime now stop ts).ordered,
    hholds.getForTime_perm hholds' (EventLog.mem_after_putAll_perm hperm before later) now stop ts⟩

/-! ### Main statement -/

/-- **A headway goes back to the latest earlier arrival**, whatever has been done with the store and
whenever it is read. Before a request the arrivals are those of its route that are visible at its
stop on its service day; before an event those of its own vehicle are left out. The headway is the
gap to the greatest of their instants; there is none without such arrivals and, before an event,
none if that gap is over the maximum. It is greater than zero. In whatever order events are put at
some point of a run, headways are the same after it. -/
theorem headway_goes_back_to_latest_arrival {α : Type} (h : PassengerHistory α) (retention : Int)
    (zone : Zone) (actions : List (Int × EventStore.Action)) (now : Int) (stop route : String)
    (ts : Int) (e : StopEvent) :
    let visible := EventLog.visibleAt retention zone
      (Run.after (EventLog.act retention zone) [] actions) now
    let times := arrivalTimes (visible stop ts) ts (·.route == route)
    let timesOfOthers := arrivalTimes (visible e.stop e.time) e.time e.isOfOther
    let store := Run.after EventStore.act (.empty retention zone)
    let lastHeadway := fun actions => PassengerHistory.lastHeadway (store actions) now stop route ts
    let headwayBefore := fun actions => h.headwayBefore (store actions) now e
    ((∀ gap, lastHeadway actions = some gap ↔ IsGreatest times (ts - gap)) ∧
      (lastHeadway actions = none ↔ times = ∅) ∧
      ∀ gap, lastHeadway actions = some gap → 0 < gap) ∧
    ((∀ gap, headwayBefore actions = some gap ↔
        IsGreatest timesOfOthers (e.time - gap) ∧ gap ≤ h.maxHeadway) ∧
      (headwayBefore actions = none ↔ timesOfOthers = ∅ ∨
        ∃ latest, IsGreatest timesOfOthers latest ∧ h.maxHeadway < e.time - latest) ∧
      ∀ gap, headwayBefore actions = some gap → 0 < gap) ∧
    ∀ puts puts' : List (Int × StopEvent), puts.Perm puts' → ∀ later,
      lastHeadway (actions ++ EventStore.putAll puts ++ later) =
          lastHeadway (actions ++ EventStore.putAll puts' ++ later) ∧
        headwayBefore (actions ++ EventStore.putAll puts ++ later) =
          headwayBefore (actions ++ EventStore.putAll puts' ++ later) := by
  intro visible times timesOfOthers store lastHeadway headwayBefore
  have hholds := EventStore.holds_after retention zone
  have hshown (stop : String) (ts : Int) :=
    (hholds actions).sortedFrom_getForTime now stop ts
  refine ⟨?_, ?_, ?_⟩
  · have htimes : times = arrivalTimes ((store actions).getForTime now stop ts) ts
        (·.route == route) := arrivalTimes_congr fun _ => (hshown stop ts).mem_iff.symm
    have hsome (gap : Int) : lastHeadway actions = some gap ↔ IsGreatest times (ts - gap) := by
      rw [htimes]
      exact PassengerHistory.lastHeadway_eq_some_iff (hshown stop ts).ordered
    refine ⟨hsome, ?_, fun gap => PassengerHistory.lastHeadway_pos⟩
    rw [htimes]
    exact PassengerHistory.lastHeadway_eq_none_iff
  · have htimes : timesOfOthers = arrivalTimes ((store actions).getForTime now e.stop e.time)
        e.time e.isOfOther := arrivalTimes_congr fun _ => (hshown e.stop e.time).mem_iff.symm
    have hsome (gap : Int) : headwayBefore actions = some gap ↔
        IsGreatest timesOfOthers (e.time - gap) ∧ gap ≤ h.maxHeadway := by
      rw [htimes]
      exact PassengerHistory.headwayBefore_eq_some_iff (hshown e.stop e.time).ordered
    refine ⟨hsome, ?_, fun gap hgap => (PassengerHistory.headwayBefore_bounds hgap).1⟩
    rw [htimes]
    exact PassengerHistory.headwayBefore_eq_none_iff (hshown e.stop e.time).ordered
  · intro puts puts' hperm later
    have hshown := EventStore.getForTime_putAll_perm retention zone hperm actions later now
    obtain ⟨hordered, hordered', halike⟩ := hshown stop ts
    refine ⟨PassengerHistory.lastHeadway_perm hordered hordered' halike route, ?_⟩
    obtain ⟨hordered, hordered', halike⟩ := hshown e.stop e.time
    exact h.headwayBefore_perm hordered hordered' halike

/-- Two vehicles of a route come at one instant, one of another route later, and then the first of
them once more. -/
def sharedPier : List (Int × StopEvent) :=
  [(1000, ⟨"1", "pier", "t1", "r", 1000, true, 0⟩), (1000, ⟨"2", "pier", "t2", "r", 1000, true, 0⟩),
    (1500, ⟨"3", "pier", "t3", "q", 1500, true, 0⟩), (3000, ⟨"1", "pier", "t4", "r", 3000, true, 0⟩)]

/-- Before a request and before the last arrival the headway goes back to the two that came first,
in whatever order the events are told. -/
theorem sharedPier_headways :
    let store := fun puts => Run.after EventStore.act (.empty 10000 .utc)
      (EventStore.putAll puts ++ [(3000, .evict)])
    let history : PassengerHistory Rat := .empty 7200 5 10000
    let last : StopEvent := ⟨"1", "pier", "t4", "r", 3000, true, 0⟩
    sharedPier.Perm sharedPier.reverse ∧
      PassengerHistory.lastHeadway (store sharedPier) 3000 "pier" "r" 2900 = some 1900 ∧
      PassengerHistory.lastHeadway (store sharedPier.reverse) 3000 "pier" "r" 2900 = some 1900 ∧
      history.headwayBefore (store sharedPier) 3000 last = some 2000 ∧
      history.headwayBefore (store sharedPier.reverse) 3000 last = some 2000 := by
  intro store history last
  have hperm : sharedPier.Perm sharedPier.reverse := (List.reverse_perm _).symm
  have hlast : PassengerHistory.lastHeadway (store sharedPier) 3000 "pier" "r" 2900 =
      some 1900 := by decide +kernel
  have hbefore : history.headwayBefore (store sharedPier) 3000 last = some 2000 := by
    decide +kernel
  obtain ⟨-, -, halike⟩ := headway_goes_back_to_latest_arrival history 10000 .utc [] 3000 "pier"
    "r" 2900 last
  obtain ⟨hlast', hbefore'⟩ := halike _ _ hperm [(3000, .evict)]
  exact ⟨hperm, hlast, hlast'.symm.trans hlast, hbefore, hbefore'.symm.trans hbefore⟩

end TransitDwell
