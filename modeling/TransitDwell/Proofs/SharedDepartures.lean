import Mathlib.Data.List.Nodup
import TransitDwell.Proofs.EventLog
import TransitDwell.Proofs.StopHistory

/-!
# Shared departures

A departure closes a visit. Each arrival looks on for its own departure, and passes over arrivals of
its vehicle on the same trip that come in between. If a vehicle came twice and only its second
departure was told, this departure closes both visits, and the first of them lasts over the second.
The time between the two arrivals is then counted as dwell.

Visits are *apart* if no two have one departure and none lasts over a further arrival of its vehicle
on its trip. Whether they are can be told from the events: a vehicle that comes again, and then
leaves, must have left before it came again.

## What is proved

* Of two visits with one departure the earlier lasts over the arrival of the later
  (`StopEvent.spans_of_departure_eq`). Conversely, where a visit lasts over an arrival of its route,
  its departure closes the visit of that arrival too (`StopEvent.mem_visits_of_spans`).
* Visits are apart exactly if vehicles that return are told to leave first (`StopEvent.apart_iff`).
* Main statement: `visits_apart_iff_departures_told`. Nothing sees to it that departures are told:
  `missedDeparture_closes_two_visits`.
-/

namespace TransitDwell

/-! ### Returning vehicles -/

/-- Whether a vehicle that came with the arrival `a` comes again with the arrival `b`, on the same
trip, at the instant of `a` or later. -/
structure StopEvent.Returns (a b : StopEvent) : Prop where
  /-- It comes. -/
  isArrival : b.isArrival = true
  /-- It comes once more. -/
  again : b ≠ a
  /-- The vehicle is the same. -/
  vehicle : b.vehicle = a.vehicle
  /-- The trip is the same. -/
  trip : b.trip = a.trip
  /-- It does not come earlier. -/
  later : a.time ≤ b.time

/-- Whether a visit lasts over a further arrival of its vehicle on its trip. -/
structure Visit.Spans (v : Visit) (b : StopEvent) : Prop where
  /-- The vehicle returns. -/
  returns : v.arrival.Returns b
  /-- The visit is not over by then. -/
  lasts : b.time ≤ v.departure.time

/-- Visits are apart: each has a departure of its own, and none lasts over a further arrival. -/
structure Visit.Apart (events : List StopEvent) (visits : List Visit) : Prop where
  /-- No departure is that of two visits. -/
  departures : (visits.map Visit.departure).Nodup
  /-- No visit lasts over a further arrival. -/
  noSpan : ∀ v ∈ visits, ∀ b ∈ events, ¬ v.Spans b

namespace StopEvent

/-- Whether departures are told: if a vehicle on the route returns, and leaves after that, then it
left before it returned. -/
def DeparturesTold (route : String) (events : List StopEvent) : Prop :=
  ∀ a ∈ events, a.isArrival = true → a.route = route → ∀ b ∈ events, a.Returns b →
    (∃ d ∈ events, d.departs b = true ∧ b.time ≤ d.time) →
      ∃ d ∈ events, d.departs a = true ∧ a.time ≤ d.time ∧ d.time < b.time

variable {events : List StopEvent} {route : String} {a b d : StopEvent} {v w : Visit}

/-- A departure that may end a visit may end that of a returning vehicle, and the other way
round. -/
theorem Returns.departs_eq (h : a.Returns b) : d.departs b = d.departs a := by
  rw [departs, departs, h.vehicle, h.trip]

/-- Where some departure may end a visit the visit ends. -/
theorem exists_endOf? (hd : d ∈ events) (hdeparts : d.departs a = true) (hle : a.time ≤ d.time) :
    ∃ left, endOf? events a = some left := by
  refine Option.isSome_iff_exists.mp (List.find?_isSome.mpr ⟨d, hd, ?_⟩)
  rw [hdeparts, Bool.true_and, decide_eq_true hle]

/-! ### Visits with one departure -/

/-- Arrivals that one departure may end are arrivals of one vehicle on one trip. -/
theorem returns_of_departs (ha : d.departs a = true) (hb : d.departs b = true)
    (harrival : b.isArrival = true) (hne : b ≠ a) (hle : a.time ≤ b.time) : a.Returns b := by
  simp only [departs, Bool.and_eq_true, beq_iff_eq] at ha hb
  exact ⟨harrival, hne, hb.1.2.symm.trans ha.1.2, hb.2.symm.trans ha.2, hle⟩

/-- Of two visits with one departure the earlier lasts over the arrival of the later. -/
theorem spans_of_departure_eq (hordered : InOrder events) (hv : v ∈ visits route events)
    (hw : w ∈ visits route events) (h : v.departure = w.departure) :
    v = w ∨ v.Spans w.arrival ∨ w.Spans v.arrival := by
  obtain ⟨-, harrival, -, hend⟩ := mem_visits_iff.mp hv
  obtain ⟨-, harrival', -, hend'⟩ := mem_visits_iff.mp hw
  obtain ⟨-, hdeparts, hle, -⟩ := endOf?_eq_some hordered hend
  obtain ⟨-, hdeparts', hle', -⟩ := endOf?_eq_some hordered hend'
  rw [← h] at hdeparts' hle'
  -- neither arrival is after the departure, so that the later is within the visit of the earlier
  by_cases hsame : v.arrival = w.arrival
  · exact .inl (Visit.ext hsame h)
  · rcases Int.le_total v.arrival.time w.arrival.time with hlater | hlater
    · exact .inr (.inl
        ⟨returns_of_departs hdeparts hdeparts' harrival' (Ne.symm hsame) hlater, hle'⟩)
    · exact .inr (.inr ⟨returns_of_departs hdeparts' hdeparts harrival hsame hlater, h ▸ hle⟩)

/-- Where a visit lasts over an arrival of the route, its departure closes the visit of that arrival
too: it was the first for the one, and is for the other. -/
theorem mem_visits_of_spans (hv : v ∈ visits route events) (hb : b ∈ events)
    (hroute : b.route = route) (hspans : v.Spans b) : ⟨b, v.departure⟩ ∈ visits route events := by
  obtain ⟨-, -, -, hend⟩ := mem_visits_iff.mp hv
  refine mem_visits_iff.mpr ⟨hb, hspans.returns.isArrival, hroute, ?_⟩
  obtain ⟨hends, before, after, hsplit, hbefore⟩ := List.find?_eq_some_iff_append.mp hend
  refine List.find?_eq_some_iff_append.mpr ⟨?_, before, after, hsplit, fun d hd => ?_⟩
  · rw [hspans.returns.departs_eq, (Bool.and_eq_true_iff.mp hends).1, Bool.true_and]
    exact decide_eq_true hspans.lasts
  · have hfirst := hbefore d hd
    have hlater := hspans.returns.later
    simp only [hspans.returns.departs_eq, Bool.not_eq_true', Bool.and_eq_false_iff,
      decide_eq_false_iff_not] at hfirst ⊢
    exact hfirst.imp_right fun hnot hle => hnot (Int.le_trans hlater hle)

/-! ### Visits that are apart -/

/-- No visit lasts over a further arrival exactly if departures are told. -/
theorem forall_not_spans_iff (hordered : InOrder events) :
    (∀ v ∈ visits route events, ∀ b ∈ events, ¬ v.Spans b) ↔ DeparturesTold route events := by
  constructor
  · rintro hnone a ha harrival hroute b hb hreturns ⟨d, hd, hdeparts, hle⟩
    rw [hreturns.departs_eq] at hdeparts
    obtain ⟨left, hend⟩ := exists_endOf? hd hdeparts (Int.le_trans hreturns.later hle)
    obtain ⟨hleft, hleftDeparts, hafter, -⟩ := endOf?_eq_some hordered hend
    -- the visit of `a` ends before `b`, or else it would last over it
    have hvisit : ⟨a, left⟩ ∈ visits route events :=
      mem_visits_iff.mpr ⟨ha, harrival, hroute, hend⟩
    exact ⟨left, hleft, hleftDeparts, hafter,
      Int.not_le.mp fun hlasts => hnone _ hvisit b hb ⟨hreturns, hlasts⟩⟩
  · intro htold v hv b hb hspans
    obtain ⟨ha, harrival, hroute, hend⟩ := mem_visits_iff.mp hv
    obtain ⟨hd, hdeparts, -, hfirst⟩ := endOf?_eq_some hordered hend
    rw [← hspans.returns.departs_eq] at hdeparts
    obtain ⟨left, hleft, hleftDeparts, hafter, hbefore⟩ :=
      htold _ ha harrival hroute b hb hspans.returns ⟨_, hd, hdeparts, hspans.lasts⟩
    -- a departure before `b` would have ended the visit sooner
    have hlate : b.time ≤ left.time :=
      Int.le_trans hspans.lasts (hfirst left hleft hleftDeparts hafter)
    exact absurd hbefore (Int.not_lt.mpr hlate)

/-- No visit is listed twice. -/
theorem nodup_visits (hnodup : events.Nodup) : (visits route events).Nodup := by
  refine (hnodup.filter _).filterMap fun a b v hv hv' => ?_
  obtain ⟨d, -, rfl⟩ := Option.map_eq_some_iff.mp hv
  obtain ⟨d', -, heq⟩ := Option.map_eq_some_iff.mp hv'
  exact (congrArg Visit.arrival heq).symm

/-- Visits are apart exactly if vehicles that return are told to leave first. -/
theorem apart_iff (hordered : InOrder events) (hnodup : events.Nodup) :
    Visit.Apart events (visits route events) ↔ DeparturesTold route events := by
  rw [← forall_not_spans_iff hordered]
  refine ⟨Visit.Apart.noSpan, fun hnone => ⟨?_, hnone⟩⟩
  refine (nodup_visits hnodup).map_on fun v hv w hw h => ?_
  rcases spans_of_departure_eq hordered hv hw h with heq | hspans | hspans
  · exact heq
  · exact absurd hspans (hnone v hv _ (mem_visits_iff.mp hw).1)
  · exact absurd hspans (hnone w hw _ (mem_visits_iff.mp hv).1)

end StopEvent

/-- **A departure closes one visit exactly where departures are told.** Whatever has been done with
a store, the dwell of a service day is the mean gap of the visits that are read off its events.
These are apart, each with a departure of its own and none lasting over a further arrival of its
vehicle on its trip, if and only if every vehicle that returns, and leaves after that, has left
before it returned. Otherwise a departure is shared: visits with one departure last one over the
arrival of the other, and a visit that lasts over an arrival of the route closes with it. -/
theorem visits_apart_iff_departures_told (retention : Int) (zone : Zone)
    (actions : List (Int × EventStore.Action)) (now : Int) (route stop : String) (ts : Int) :
    let store := Run.after EventStore.act (.empty retention zone) actions
    let events := store.getForTime now stop ts
    let visits := StopEvent.visits route events
    PassengerHistory.dwellOn store now route stop ts = meanWhole (visits.map Visit.gap) ∧
      (Visit.Apart events visits ↔ StopEvent.DeparturesTold route events) ∧
      (∀ v ∈ visits, ∀ w ∈ visits, v.departure = w.departure →
        v = w ∨ v.Spans w.arrival ∨ w.Spans v.arrival) ∧
      ∀ v ∈ visits, ∀ b ∈ events, b.route = route → v.Spans b → ⟨b, v.departure⟩ ∈ visits := by
  intro store events visits
  have hholds := EventStore.holds_after retention zone actions
  have hordered : InOrder events := (hholds.sortedFrom_getForTime now stop ts).ordered
  have hnodup : events.Nodup := hholds.nodup_getForTime now stop ts
  refine ⟨?_, StopEvent.apart_iff hordered hnodup, ?_, ?_⟩
  · exact congrArg meanWhole (StopEvent.dwells_eq_map_gap route hordered)
  · exact fun v hv w hw => StopEvent.spans_of_departure_eq hordered hv hw
  · exact fun v hv b hb => StopEvent.mem_visits_of_spans hv hb

/-- Vehicle 1 comes to the pier, and comes again an hour later. Its first departure is not told; it
leaves twenty seconds after it came again. -/
def missedDeparture : List StopEvent :=
  [⟨"1", "pier", "t", "r", 0, true, 0⟩, ⟨"1", "pier", "t", "r", 3600000, true, 0⟩,
    ⟨"1", "pier", "t", "r", 3620000, false, 0⟩]

/-- The one departure closes both visits. The first is taken to last for more than an hour, over the
second, and the dwell is the mean of the two. -/
theorem missedDeparture_closes_two_visits :
    let store := Run.after EventStore.act (.empty 345600000 .utc)
      (EventStore.putAll (missedDeparture.map fun e => (3620000, e)))
    let events := store.getForTime 3620000 "pier" 3620000
    let visits := StopEvent.visits "r" events
    visits.map (fun v => (v.arrival.time, v.departure.time)) = [(0, 3620000), (3600000, 3620000)] ∧
      ¬ (visits.map Visit.departure).Nodup ∧
      (∃ v ∈ visits, ∃ b ∈ events, v.Spans b) ∧
      PassengerHistory.dwellOn store 3620000 "r" "pier" 3620000 = some 1820000 := by
  intro store events visits
  have hvisits : visits = [⟨⟨"1", "pier", "t", "r", 0, true, 0⟩,
      ⟨"1", "pier", "t", "r", 3620000, false, 0⟩⟩,
      ⟨⟨"1", "pier", "t", "r", 3600000, true, 0⟩, ⟨"1", "pier", "t", "r", 3620000, false, 0⟩⟩] := by
    decide +kernel
  have hevents : events = missedDeparture := by decide +kernel
  rw [hvisits, hevents]
  refine ⟨rfl, by decide, ?_, by decide +kernel⟩
  exact ⟨_, List.mem_cons_self, ⟨"1", "pier", "t", "r", 3600000, true, 0⟩, by decide,
    ⟨⟨rfl, by decide, rfl, rfl, by decide⟩, by decide⟩⟩

end TransitDwell
