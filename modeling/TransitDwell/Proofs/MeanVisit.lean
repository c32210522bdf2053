import Mathlib.Algebra.BigOperators.Ring.Finset
import Mathlib.Algebra.Order.BigOperators.Group.Finset
import Mathlib.Algebra.Order.Ring.Int
import TransitDwell.Proofs.EventLog
import TransitDwell.Proofs.StopHistory

/-!
# The mean visit

The dwell of a service day is read off a list, by looking on from each arrival for a departure that
ends its visit. What it comes to can be said of the events as a set. An arrival is *ended* if a
departure of its vehicle on its trip stands at its instant or later, and its gap goes to the
earliest of these. The dwell is the mean of the gaps of the ended arrivals of a route, rounded down.

Nothing in this hangs on the order of the list, so that it does not matter in which order events
came, those at one instant included.

## What is proved

* The gap of an arrival is the least to any departure that may end its visit
  (`StopEvent.visitGap?_eq_some_iff`).
* The mean of the dwells of a list in order is the mean over the set of its ended arrivals
  (`StopEvent.meanWhole_dwells`), and a mean lies between the least number and the greatest
  (`exists_le_mean`, `exists_mean_le`).
* Main statement: `dwell_is_mean_visit`.
-/

namespace TransitDwell

/-! ### Visits among a set of events -/

namespace StopEvent

/-- The departures that may end the visit of an arrival: those of its vehicle on its trip, at its
instant or later. -/
def endings (seen : Finset StopEvent) (arrival : StopEvent) : Finset StopEvent :=
  seen.filter fun d => d.departs arrival = true ∧ arrival.time ≤ d.time

/-- Whether a gap goes from an arrival to the earliest of the departures that may end its visit. -/
def IsGap (seen : Finset StopEvent) (arrival : StopEvent) (gap : Int) : Prop :=
  IsLeast ((fun d => d.time - arrival.time) '' (endings seen arrival : Set StopEvent)) gap

/-- The arrivals of a route whose visits end. -/
def endedArrivals (seen : Finset StopEvent) (route : String) : Finset StopEvent :=
  seen.filter fun a => a.isArrival = true ∧ a.route = route ∧ (endings seen a).Nonempty

variable {events : List StopEvent} {arrival : StopEvent}

theorem mem_gaps_iff {gap : Int} :
    gap ∈ (events.filter fun d => d.departs arrival && arrival.time ≤ d.time).map
        (fun d => d.time - arrival.time) ↔
      gap ∈ (fun d => d.time - arrival.time) ''
        (endings events.toFinset arrival : Set StopEvent) := by
  simp [endings]

/-- A visit lasts until the earliest of the departures that may end it. -/
theorem visitGap?_eq_some_iff {gap : Int} :
    visitGap? events arrival = some gap ↔ IsGap events.toFinset arrival gap := by
  rw [visitGap?, List.min?_eq_some_iff, mem_gaps_iff]
  exact and_congr_right fun _ => forall_congr' fun other => imp_congr_left mem_gaps_iff

theorem isSome_visitGap?_iff :
    (visitGap? events arrival).isSome ↔ (endings events.toFinset arrival).Nonempty := by
  rw [visitGap?, Option.isSome_iff_ne_none, ne_eq, List.min?_eq_none_iff, List.map_eq_nil_iff]
  simp [endings, List.filter_eq_nil_iff, Finset.filter_nonempty_iff]

/-- An arrival that is ended has a gap. -/
theorem isGap_of_mem {route : String} (h : arrival ∈ endedArrivals events.toFinset route) :
    IsGap events.toFinset arrival ((visitGap? events arrival).getD 0) := by
  obtain ⟨-, -, -, hends⟩ := Finset.mem_filter.mp h
  obtain ⟨gap, hgap⟩ := Option.isSome_iff_exists.mp (isSome_visitGap?_iff.mpr hends)
  rw [hgap, Option.getD_some]
  exact visitGap?_eq_some_iff.mp hgap

/-- Visits end after they begin. -/
theorem IsGap.nonneg {seen : Finset StopEvent} {gap : Int} (h : IsGap seen arrival gap) :
    0 ≤ gap := by
  obtain ⟨d, hd, rfl⟩ := h.1
  exact Int.sub_nonneg_of_le (Finset.mem_filter.mp hd).2.2

end StopEvent

/-! ### Means -/

section Mean

variable {ι : Type} {s : Finset ι} {f : ι → Int}

/-- Some number is not above the mean. -/
theorem exists_le_mean (hs : s.Nonempty) : ∃ i ∈ s, f i ≤ (∑ i ∈ s, f i) / s.card := by
  have hcard : (0 : Int) < s.card := by exact_mod_cast hs.card_pos
  have hsum : ∑ i ∈ s, f i < ∑ _i ∈ s, ((∑ i ∈ s, f i) / s.card + 1) := by
    rw [Finset.sum_const, nsmul_eq_mul, mul_comm]
    exact Int.lt_ediv_add_one_mul_self _ hcard
  obtain ⟨i, hi, hlt⟩ := Finset.exists_lt_of_sum_lt hsum
  exact ⟨i, hi, Int.lt_add_one_iff.mp hlt⟩

/-- Some number is not below the mean. -/
theorem exists_mean_le (hs : s.Nonempty) : ∃ i ∈ s, (∑ i ∈ s, f i) / s.card ≤ f i := by
  have hsum : ∑ _i ∈ s, (∑ i ∈ s, f i) / s.card ≤ ∑ i ∈ s, f i := by
    rw [Finset.sum_const, nsmul_eq_mul, mul_comm]
    exact Int.ediv_mul_le _ (by exact_mod_cast hs.card_pos.ne')
  exact Finset.exists_le_of_sum_le hs hsum

end Mean

namespace StopEvent

variable {events : List StopEvent}

/-- The dwells of events in order are the gaps of the arrivals that are ended. -/
theorem dwells_eq_map (route : String) (hordered : InOrder events) :
    dwells route events =
      (events.filter fun a => a.isArrival && a.route == route && (visitGap? events a).isSome).map
        fun a => (visitGap? events a).getD 0 := by
  have hended : (events.filter fun a => a.isArrival && a.route == route).filterMap
      (visitGap? events) =
      (events.filter fun a => a.isArrival && a.route == route &&
        (visitGap? events a).isSome).filterMap (visitGap? events) := by
    rw [List.filterMap_filter, List.filterMap_filter]
    refine List.filterMap_congr fun a _ => ?_
    cases visitGap? events a <;> simp
  rw [dwells_eq route hordered, hended, List.filterMap_eq_map_iff_forall_eq_some]
  intro a ha
  obtain ⟨-, hsome⟩ := Bool.and_eq_true_iff.mp (List.mem_filter.mp ha).2
  obtain ⟨gap, hgap⟩ := Option.isSome_iff_exists.mp hsome
  rw [hgap, Option.getD_some]

/-- The mean of the dwells of events in order is the mean over the set of ended arrivals. -/
theorem meanWhole_dwells (route : String) (hordered : InOrder events) (hnodup : events.Nodup) :
    meanWhole (dwells route events) =
      if endedArrivals events.toFinset route = ∅ then none
      else some ((∑ a ∈ endedArrivals events.toFinset route, (visitGap? events a).getD 0) /
        (endedArrivals events.toFinset route).card) := by
  have harrivals : (events.filter fun a => a.isArrival && a.route == route &&
      (visitGap? events a).isSome).toFinset = endedArrivals events.toFinset route := by
    rw [List.toFinset_filter, endedArrivals]
    refine Finset.filter_congr fun a _ => ?_
    rw [Bool.and_eq_true, Bool.and_eq_true, beq_iff_eq, isSome_visitGap?_iff, and_assoc]
  have hdwells := dwells_eq_map route hordered
  have hsum : (dwells route events).sum =
      ∑ a ∈ endedArrivals events.toFinset route, (visitGap? events a).getD 0 := by
    rw [hdwells, ← List.sum_toFinset _ (hnodup.filter _), harrivals]
  have hcard : (dwells route events).length = (endedArrivals events.toFinset route).card := by
    rw [hdwells, List.length_map, ← List.toFinset_card_of_nodup (hnodup.filter _), harrivals]
  have hnonneg : 0 ≤ (dwells route events).sum :=
    List.sum_nonneg (dwells_nonneg hordered route)
  have hempty : (dwells route events).isEmpty = true ↔
      endedArrivals events.toFinset route = ∅ := by
    rw [List.isEmpty_iff, ← List.length_eq_zero_iff, hcard, Finset.card_eq_zero]
  unfold meanWhole
  change (if (dwells route events).isEmpty = true then none
    else some ((dwells route events).sum.tdiv (dwells route events).length)) = _
  rw [Int.tdiv_eq_ediv_of_nonneg hnonneg, hsum, hcard]
  simp only [hempty]

end StopEvent

/-! ### Reading a store -/

namespace EventStore.Holds

variable {retention : Int} {zone : Zone} {s s' : EventStore} {log log' : List StopEvent}

/-- Stores that hold the same events are told the same dwells. -/
theorem dwellOn_congr (h : Holds retention zone s log) (h' : Holds retention zone s' log')
    (hmem : ∀ e, e ∈ log ↔ e ∈ log') (now : Int) (route stop : String) (ts : Int) :
    PassengerHistory.dwellOn s now route stop ts =
      PassengerHistory.dwellOn s' now route stop ts := by
  have hshown := (h.sortedFrom_getForTime now stop ts).ordered
  have hshown' := (h'.sortedFrom_getForTime now stop ts).ordered
  exact meanWhole_perm (StopEvent.dwells_perm route hshown hshown'
    (h.getForTime_perm h' hmem now stop ts))

end EventStore.Holds

/-- **The dwell of a service day is the mean of its visits**, whatever has been done with the
store. Take the visible events of a stop on the service day of an instant, and the arrivals of a
route among them that are ended. Each has a gap, the least from it to a departure that may end its
visit. Without such arrivals there is no dwell; otherwise it is the mean of their gaps, rounded
down, which is not negative and lies between the least gap and the greatest. In whatever order
further events are put, each at its instant, the dwell is the same afterwards. -/
theorem dwell_is_mean_visit (retention : Int) (zone : Zone)
    (actions : List (Int × EventStore.Action)) (now : Int) (route stop : String) (ts : Int) :
    let dwellAfter := fun actions => PassengerHistory.dwellOn
      (Run.after EventStore.act (.empty retention zone) actions) now route stop ts
    let seen := (EventLog.visibleAt retention zone
      (Run.after (EventLog.act retention zone) [] actions) now stop ts).toFinset
    let arrivals := StopEvent.endedArrivals seen route
    (∃ gap : StopEvent → Int,
      (∀ a ∈ arrivals, StopEvent.IsGap seen a (gap a)) ∧
      dwellAfter actions =
        (if arrivals = ∅ then none else some ((∑ a ∈ arrivals, gap a) / arrivals.card)) ∧
      ∀ dwell, dwellAfter actions = some dwell →
        0 ≤ dwell ∧ (∃ a ∈ arrivals, gap a ≤ dwell) ∧ ∃ a ∈ arrivals, dwell ≤ gap a) ∧
    ∀ puts puts' : List (Int × StopEvent), puts.Perm puts' →
      dwellAfter (actions ++ EventStore.putAll puts) =
        dwellAfter (actions ++ EventStore.putAll puts') := by
  intro dwellAfter seen arrivals
  have hholds := EventStore.holds_after retention zone
  constructor
  · have hshown := (hholds actions).sortedFrom_getForTime now stop ts
    have hnodup := (hholds actions).nodup_getForTime now stop ts
    have hseen : ((Run.after EventStore.act (.empty retention zone) actions).getForTime now stop
        ts).toFinset = seen := List.toFinset_eq_of_perm _ _ hshown.perm
    -- from here on the set is that of the events as they are read
    clear_value seen
    subst hseen
    have hmean := StopEvent.meanWhole_dwells route hshown.ordered hnodup
    refine ⟨_, fun a => StopEvent.isGap_of_mem, hmean, fun dwell hdwell => ?_⟩
    replace hdwell := hmean.symm.trans hdwell
    split at hdwell
    · cases hdwell
    · next hne =>
      obtain rfl := Option.some.inj hdwell
      have hnonempty : arrivals.Nonempty := Finset.nonempty_iff_ne_empty.mpr hne
      obtain ⟨a, ha, hle⟩ := exists_le_mean hnonempty
      exact ⟨(StopEvent.isGap_of_mem ha).nonneg.trans hle, ⟨a, ha, hle⟩,
        exists_mean_le hnonempty⟩
  · intro puts puts' hperm
    refine (hholds _).dwellOn_congr (hholds _) (fun e => ?_) now route stop ts
    rw [Run.after_append, Run.after_append, EventLog.mem_after_putAll, EventLog.mem_after_putAll]
    simp only [hperm.mem_iff]

/-- Two vehicles come at one instant. One leaves at once and the other after five milliseconds. -/
def simultaneousVisits : List (Int × StopEvent) :=
  [(0, ⟨"1", "pier", "t1", "r", 0, true, 0⟩), (0, ⟨"1", "pier", "t1", "r", 0, false, 0⟩),
    (0, ⟨"2", "pier", "t2", "r", 0, true, 0⟩), (5, ⟨"2", "pier", "t2", "r", 5, false, 0⟩)]

/-- Their dwell is two and a half milliseconds, rounded down, in whatever order they are told. -/
theorem simultaneousVisits_mean :
    simultaneousVisits.Perm simultaneousVisits.reverse ∧
      PassengerHistory.dwellOn (Run.after EventStore.act (.empty 1000 .utc)
        (EventStore.putAll simultaneousVisits)) 5 "r" "pier" 0 = some 2 ∧
      PassengerHistory.dwellOn (Run.after EventStore.act (.empty 1000 .utc)
        (EventStore.putAll simultaneousVisits.reverse)) 5 "r" "pier" 0 = some 2 := by
  have hperm : simultaneousVisits.Perm simultaneousVisits.reverse :=
    (List.reverse_perm _).symm
  have hdwell : PassengerHistory.dwellOn (Run.after EventStore.act (.empty 1000 .utc)
      (EventStore.putAll simultaneousVisits)) 5 "r" "pier" 0 = some 2 := by decide +kernel
  have hsame := (dwell_is_mean_visit 1000 .utc [] 5 "r" "pier" 0).2 _ _ hperm
  exact ⟨hperm, hdwell, hsame.symm.trans hdwell⟩

end TransitDwell
