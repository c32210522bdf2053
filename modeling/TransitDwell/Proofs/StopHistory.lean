import Mathlib.Data.Int.Order.Basic
import Mathlib.Order.Bounds.Basic
import TransitDwell.PassengerHistory
import TransitDwell.Proofs.EventOrder

/-!
# What a stop-day tells

Headways and dwells are read off the events of a stop-day as they stand in order, from the end or
from an arrival onwards. What they tell can be said of the events themselves: a headway goes back to
the latest of certain arrivals (`time_lastArrivalBefore_eq_some_iff`), and a dwell is the gap of a
visit, from an arrival to the earliest departure that may end it (`dwells_eq_map_gap`,
`endOf?_eq_some`).
So it is the same however ties stand (`dwells_eq`), and whoever lists the same events in order is
told the same.
-/

namespace TransitDwell

namespace StopEvent

variable {events xs ys : List StopEvent} {ts : Int} {p : StopEvent → Bool}

/-! ### The latest earlier arrival -/

/-- Whether an event is of another vehicle on the route. -/
def isOfOther (e p : StopEvent) : Bool := p.route == e.route && p.vehicle != e.vehicle

/-- The instants before `ts` at which there are arrivals that satisfy `p`. -/
def arrivalTimes (events : List StopEvent) (ts : Int) (p : StopEvent → Bool) : Set Int :=
  {t | t < ts ∧ ∃ e ∈ events, e.isArrival = true ∧ p e = true ∧ e.time = t}

theorem arrivalTimes_congr (h : ∀ e, e ∈ xs ↔ e ∈ ys) :
    arrivalTimes xs ts p = arrivalTimes ys ts p := by
  simp only [arrivalTimes, h]

theorem lastArrivalBefore_eq_none_iff :
    lastArrivalBefore events ts p = none ↔ arrivalTimes events ts p = ∅ := by
  rw [lastArrivalBefore, List.find?_eq_none, Set.eq_empty_iff_forall_notMem]
  constructor
  · rintro hnone t ⟨hbefore, e, he, harrival, hp, rfl⟩
    exact hnone e (List.mem_reverse.mpr he) (by simp [harrival, hbefore, hp])
  · intro hempty e he hask
    simp only [Bool.and_eq_true, decide_eq_true_eq] at hask
    exact hempty e.time ⟨hask.1.2, e, List.mem_reverse.mp he, hask.1.1, hask.2, rfl⟩

theorem time_lt_of_lastArrivalBefore {e : StopEvent} (h : lastArrivalBefore events ts p = some e) :
    e.time < ts := by
  have hask := List.find?_some h
  simp only [Bool.and_eq_true, decide_eq_true_eq] at hask
  exact hask.1.2

/-- What is found going backwards is an arrival as asked for, and none as asked for is later. -/
theorem isGreatest_lastArrivalBefore (hordered : InOrder events) {e : StopEvent}
    (h : lastArrivalBefore events ts p = some e) :
    IsGreatest (arrivalTimes events ts p) e.time := by
  obtain ⟨hask, after, before, hsplit, hafter⟩ := List.find?_eq_some_iff_append.mp h
  simp only [Bool.and_eq_true, decide_eq_true_eq] at hask
  have hmem (d : StopEvent) : d ∈ events ↔ d ∈ after ++ e :: before := by
    rw [← hsplit, List.mem_reverse]
  have hback : (after ++ e :: before).Pairwise fun a b => b.notAfter a = true := by
    rw [← hsplit, List.pairwise_reverse]
    exact hordered
  refine ⟨⟨hask.1.2, e, (hmem e).mpr (by simp), hask.1.1, hask.2, rfl⟩, ?_⟩
  rintro t ⟨hbefore, d, hd, harrival, hp, rfl⟩
  rcases List.mem_append.mp ((hmem d).mp hd) with hd | hd
  · simpa [harrival, hbefore, hp] using hafter d hd
  · rcases List.mem_cons.mp hd with rfl | hd
    · exact Int.le_refl _
    · exact time_le_of_notAfter
        (List.rel_of_pairwise_cons (List.pairwise_append.mp hback).2.1 hd)

/-- An arrival is found exactly if there are arrivals as asked for, at the latest of their
instants. -/
theorem time_lastArrivalBefore_eq_some_iff (hordered : InOrder events) {t : Int} :
    (lastArrivalBefore events ts p).map (·.time) = some t ↔
      IsGreatest (arrivalTimes events ts p) t := by
  cases hfound : lastArrivalBefore events ts p with
  | none =>
    have hempty := lastArrivalBefore_eq_none_iff.mp hfound
    constructor
    · nofun
    · intro ht
      exact absurd ht.1 (Set.eq_empty_iff_forall_notMem.mp hempty t)
  | some e =>
    have hlatest := isGreatest_lastArrivalBefore hordered hfound
    constructor
    · intro ht
      exact Option.some.inj ht ▸ hlatest
    · intro ht
      exact congrArg some (hlatest.unique ht)

/-- The instant of the latest earlier arrival does not hang on how ties stand. -/
theorem time_lastArrivalBefore_perm (ts : Int) (p : StopEvent → Bool) (hx : InOrder xs)
    (hy : InOrder ys) (h : xs.Perm ys) :
    (lastArrivalBefore xs ts p).map (·.time) = (lastArrivalBefore ys ts p).map (·.time) := by
  ext t
  rw [time_lastArrivalBefore_eq_some_iff hx, time_lastArrivalBefore_eq_some_iff hy,
    arrivalTimes_congr fun e => h.mem_iff]

end StopEvent

/-! ### Headways

Of the arrival that it goes back to a headway takes only the instant. -/

namespace PassengerHistory

open StopEvent

variable {α : Type} {s t : EventStore} {now : Int}

theorem lastHeadway_eq_map (s : EventStore) (now : Int) (stop route : String) (ts : Int) :
    lastHeadway s now stop route ts =
      ((lastArrivalBefore (s.getForTime now stop ts) ts (·.route == route)).map (·.time)).map
        (ts - ·) := by
  rw [lastHeadway, Option.map_map]
  rfl

theorem headwayBefore_eq_bind (h : PassengerHistory α) (s : EventStore) (now : Int)
    (e : StopEvent) :
    h.headwayBefore s now e =
      ((lastArrivalBefore (s.getForTime now e.stop e.time) e.time e.isOfOther).map (·.time)).bind
        fun time => if e.time - time ≤ h.maxHeadway then some (e.time - time) else none := by
  have hfound : (lastArrivalBefore (s.getForTime now e.stop e.time) e.time fun p =>
      p.route == e.route && p.vehicle != e.vehicle) =
      lastArrivalBefore (s.getForTime now e.stop e.time) e.time e.isOfOther := rfl
  rw [headwayBefore, hfound]
  cases lastArrivalBefore (s.getForTime now e.stop e.time) e.time e.isOfOther <;> rfl

theorem lastHeadway_pos {stop route : String} {ts ms : Int}
    (h : lastHeadway s now stop route ts = some ms) : 0 < ms := by
  obtain ⟨previous, hprevious, rfl⟩ := Option.map_eq_some_iff.mp h
  exact Int.sub_pos_of_lt (time_lt_of_lastArrivalBefore hprevious)

theorem headwayBefore_bounds {h : PassengerHistory α} {e : StopEvent} {ms : Int}
    (hms : h.headwayBefore s now e = some ms) : 0 < ms ∧ ms ≤ h.maxHeadway := by
  rw [headwayBefore_eq_bind, Option.bind_eq_some_iff] at hms
  obtain ⟨time, hfound, husable⟩ := hms
  obtain ⟨previous, hprevious, rfl⟩ := Option.map_eq_some_iff.mp hfound
  obtain ⟨hle, hgap⟩ := Option.ite_none_right_eq_some.mp husable
  obtain rfl := Option.some.inj hgap
  exact ⟨Int.sub_pos_of_lt (time_lt_of_lastArrivalBefore hprevious), hle⟩

theorem lastHeadway_perm {stop : String} {ts : Int} (hs : InOrder (s.getForTime now stop ts))
    (ht : InOrder (t.getForTime now stop ts))
    (hperm : (s.getForTime now stop ts).Perm (t.getForTime now stop ts)) (route : String) :
    lastHeadway s now stop route ts = lastHeadway t now stop route ts := by
  rw [lastHeadway_eq_map, lastHeadway_eq_map, time_lastArrivalBefore_perm ts _ hs ht hperm]

theorem headwayBefore_perm (h : PassengerHistory α) {e : StopEvent}
    (hs : InOrder (s.getForTime now e.stop e.time))
    (ht : InOrder (t.getForTime now e.stop e.time))
    (hperm : (s.getForTime now e.stop e.time).Perm (t.getForTime now e.stop e.time)) :
    h.headwayBefore s now e = h.headwayBefore t now e := by
  rw [headwayBefore_eq_bind, headwayBefore_eq_bind,
    time_lastArrivalBefore_perm e.time _ hs ht hperm]

end PassengerHistory

/-! ### Visits -/

/-- A visit: an arrival, and the departure that is taken to end it. -/
@[ext] structure Visit where
  /-- The arrival. -/
  arrival : StopEvent
  /-- The departure. -/
  departure : StopEvent
  deriving DecidableEq

/-- How long a visit lasts. -/
def Visit.gap (v : Visit) : Int := v.departure.time - v.arrival.time

namespace StopEvent

variable {events xs ys : List StopEvent}

/-- The departure that is taken to end the visit of an arrival: the first that is listed of those
that may end it, at its instant or later. -/
def endOf? (events : List StopEvent) (arrival : StopEvent) : Option StopEvent :=
  events.find? fun d => d.departs arrival && arrival.time ≤ d.time

/-- The visits of a route: its arrivals, each with the departure that ends its visit, where there is
one. -/
def visits (route : String) (events : List StopEvent) : List Visit :=
  (events.filter fun e => e.isArrival && e.route == route).filterMap fun a =>
    (endOf? events a).map (Visit.mk a)

theorem mem_visits_iff {route : String} {v : Visit} :
    v ∈ visits route events ↔ v.arrival ∈ events ∧ v.arrival.isArrival = true ∧
      v.arrival.route = route ∧ endOf? events v.arrival = some v.departure := by
  obtain ⟨a, d⟩ := v
  simp only [visits, List.mem_filterMap, List.mem_filter, Option.map_eq_some_iff,
    Bool.and_eq_true, beq_iff_eq, Visit.mk.injEq]
  constructor
  · rintro ⟨a, ⟨ha, harrival, hroute⟩, d, hd, rfl, rfl⟩
    exact ⟨ha, harrival, hroute, hd⟩
  · rintro ⟨ha, harrival, hroute, hd⟩
    exact ⟨a, ⟨ha, harrival, hroute⟩, d, hd, rfl, rfl⟩

/-- Of the departures that may end a visit none is earlier than the one that does. -/
theorem endOf?_eq_some (hordered : InOrder events) {a d : StopEvent}
    (h : endOf? events a = some d) : d ∈ events ∧ d.departs a = true ∧ a.time ≤ d.time ∧
      ∀ d' ∈ events, d'.departs a = true → a.time ≤ d'.time → d.time ≤ d'.time := by
  obtain ⟨hends, before, after, rfl, hbefore⟩ := List.find?_eq_some_iff_append.mp h
  rw [Bool.and_eq_true, decide_eq_true_eq] at hends
  refine ⟨by simp, hends.1, hends.2, fun d' hd' hdeparts hle => ?_⟩
  have hmay : (d'.departs a && a.time ≤ d'.time) = true := by simp [hdeparts, hle]
  rcases List.mem_append.mp hd' with hd' | hd'
  · simpa [hmay] using hbefore d' hd'
  · exact time_le_of_notAfter
      (InOrder.notAfter_of_mem (List.pairwise_append.mp hordered).2.1 hd')

/-- The departure that ends a visit is listed after its arrival: at one instant arrivals come
first. -/
theorem endOf?_eq {before later : List StopEvent} {arrival : StopEvent}
    (hordered : InOrder (before ++ arrival :: later)) (harrival : arrival.isArrival = true) :
    endOf? (before ++ arrival :: later) arrival = later.find? (·.departs arrival) := by
  obtain ⟨-, hafter, hbefore⟩ := List.pairwise_append.mp hordered
  have hnone : before.find? (fun d => d.departs arrival && arrival.time ≤ d.time) = none := by
    refine List.find?_eq_none.mpr fun d hd hends => ?_
    have hnotAfter := hbefore d hd arrival List.mem_cons_self
    simp only [departs, notAfter, harrival, Bool.and_eq_true, Bool.or_eq_true, Bool.not_eq_true',
      decide_eq_true_eq, Bool.not_true] at hends hnotAfter
    have hdirection := hends.1.1.1
    have htime := hends.2
    rw [hdirection] at hnotAfter
    simp only [Bool.false_eq_true, or_self, and_false, or_false] at hnotAfter
    omega
  have hself : (arrival :: later).find? (fun d => d.departs arrival && arrival.time ≤ d.time) =
      later.find? fun d => d.departs arrival && arrival.time ≤ d.time :=
    List.find?_cons_of_neg (by simp [departs, harrival])
  have hlater : later.find? (fun d => d.departs arrival && arrival.time ≤ d.time) =
      later.find? fun d => d.departs arrival := by
    rw [← List.head?_filter, ← List.head?_filter]
    refine congrArg List.head? (List.filter_congr fun d hd => ?_)
    have htime := time_le_of_notAfter (List.rel_of_pairwise_cons hafter hd)
    simp [htime]
  rw [endOf?, List.find?_append, hnone, Option.none_or, hself, hlater]

/-- **The dwells of a stop-day** are the gaps of its visits. -/
theorem dwells_eq_map_gap (route : String) (hordered : InOrder events) :
    dwells route events = (visits route events).map Visit.gap := by
  -- the visits of the events still to be read end among all events, those read before included
  suffices ∀ before rest : List StopEvent, before ++ rest = events → dwells route rest =
      ((rest.filter fun e => e.isArrival && e.route == route).filterMap fun a =>
        (endOf? events a).map (Visit.mk a)).map Visit.gap from
    this [] events rfl
  intro before rest hsplit
  induction rest generalizing before with
  | nil => rfl
  | cons e later ih =>
    have hlater := ih (before ++ [e]) (by simpa using hsplit)
    unfold dwells
    by_cases hcounts : (e.isArrival && e.route == route) = true
    · rw [if_pos hcounts, List.filter_cons, if_pos hcounts, List.filterMap_cons]
      have harrival : e.isArrival = true := (Bool.and_eq_true_iff.mp hcounts).1
      rw [← hsplit, endOf?_eq (hsplit ▸ hordered) harrival, hsplit]
      cases later.find? (·.departs e) with
      | none => exact hlater
      | some d => exact congrArg _ hlater
    · rw [if_neg hcounts, List.filter_cons, if_neg hcounts]
      exact hlater

/-! ### The gaps of visits -/

/-- The gap from an arrival to the earliest departure that ends its visit, at its instant or
later. -/
def visitGap? (events : List StopEvent) (arrival : StopEvent) : Option Int :=
  ((events.filter fun d => d.departs arrival && arrival.time ≤ d.time).map
    fun d => d.time - arrival.time).min?

theorem visitGap?_perm (h : xs.Perm ys) (arrival : StopEvent) :
    visitGap? xs arrival = visitGap? ys arrival := by
  have hperm := (h.filter fun d => d.departs arrival && arrival.time ≤ d.time).map
    fun d => d.time - arrival.time
  apply Option.ext
  intro gap
  simp only [visitGap?, List.min?_eq_some_iff, hperm.mem_iff]

/-- Of events in order the first is the earliest. -/
theorem min?_times (hordered : InOrder events) (start : Int) :
    (events.map fun d => d.time - start).min? = events.head?.map fun d => d.time - start := by
  cases events with
  | nil => rfl
  | cons c cs =>
    refine List.min?_eq_some_iff.mpr ⟨by simp, fun gap hgap => ?_⟩
    obtain ⟨d, hd, rfl⟩ := List.mem_map.mp hgap
    exact Int.sub_le_sub_right (time_le_of_notAfter (hordered.notAfter_of_mem hd)) start

/-- The earliest departure that may end a visit is the first that is listed. -/
theorem visitGap?_eq (hordered : InOrder events) (arrival : StopEvent) :
    visitGap? events arrival = (endOf? events arrival).map fun d => d.time - arrival.time := by
  rw [visitGap?, endOf?, ← List.head?_filter]
  exact min?_times (hordered.filter _) arrival.time

/-- The dwells of a stop-day are the gaps of the arrivals whose visits end on it. -/
theorem dwells_eq (route : String) (hordered : InOrder events) :
    dwells route events =
      (events.filter fun e => e.isArrival && e.route == route).filterMap (visitGap? events) := by
  rw [dwells_eq_map_gap route hordered, visits, List.map_filterMap]
  refine List.filterMap_congr fun a _ => ?_
  rw [visitGap?_eq hordered, Option.map_map]
  rfl

/-- Visits end after they begin. -/
theorem dwells_nonneg (hordered : InOrder events) (route : String) :
    ∀ gap ∈ dwells route events, 0 ≤ gap := by
  intro gap hgap
  rw [dwells_eq route hordered] at hgap
  obtain ⟨arrival, -, hvisit⟩ := List.mem_filterMap.mp hgap
  obtain ⟨d, hd, rfl⟩ := List.mem_map.mp (List.min?_mem hvisit)
  have hends := (List.mem_filter.mp hd).2
  simp only [Bool.and_eq_true, decide_eq_true_eq] at hends
  exact Int.sub_nonneg_of_le hends.2

/-- The dwells of a stop-day do not hang on how ties stand. -/
theorem dwells_perm (route : String) (hx : InOrder xs) (hy : InOrder ys) (h : xs.Perm ys) :
    (dwells route xs).Perm (dwells route ys) := by
  rw [dwells_eq route hx, dwells_eq route hy]
  have hgap : visitGap? xs = visitGap? ys := funext fun arrival => visitGap?_perm h arrival
  rw [hgap]
  exact (h.filter _).filterMap _

end StopEvent

/-- A mean does not hang on the order of its numbers. -/
theorem meanWhole_perm {xs ys : List Int} (h : xs.Perm ys) : meanWhole xs = meanWhole ys := by
  have hsum : xs.foldr (· + ·) 0 = ys.foldr (· + ·) 0 :=
    h.foldr_eq' (fun x _ y _ z => Int.add_left_comm y x z) 0
  have hempty : xs.isEmpty = ys.isEmpty := by
    rw [Bool.eq_iff_iff, List.isEmpty_iff, List.isEmpty_iff]
    exact ⟨fun hx => (hx ▸ h).nil_eq.symm, fun hy => (hy ▸ h).eq_nil⟩
  unfold meanWhole
  rw [hempty, hsum, h.length_eq]

end TransitDwell
