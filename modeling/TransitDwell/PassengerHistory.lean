import TransitDwell.Correlation
import TransitDwell.DaysBack
import TransitDwell.EventStore
import TransitDwell.Scalar

/-!
# Passenger history

What is known of the passengers and vehicles at a stop. Matched observations are folded into daily
totals for each route, stop and service day, and the boarding rate of a day is read off its total.
Headways and historical dwells are read off the event store.

A *headway* is the gap between a vehicle and the arrival before it at the same stop and on the same
route. When an observation is recorded, its boardings count towards the rate only if its event has
a usable headway, that is one no longer than the maximum.

The total of the present day is still filling in. The rate is therefore looked for on earlier days,
which are reached in steps of twenty-four hours, and the nearest that has one gives it.

The longest headway is set in seconds and kept in milliseconds, in 64 bits (`wrapWhole`).
-/

namespace TransitDwell

/-! ### Reading the events of a stop-day -/

namespace StopEvent

/-- The latest of the events that are arrivals before an instant and satisfy `p`, where events are
listed in order. -/
def lastArrivalBefore (events : List StopEvent) (ts : Int) (p : StopEvent → Bool) :
    Option StopEvent :=
  events.reverse.find? fun e => e.isArrival && e.time < ts && p e

/-- Whether a departure ends the visit that an arrival began. -/
def departs (d arrival : StopEvent) : Bool :=
  !d.isArrival && d.vehicle == arrival.vehicle && d.trip == arrival.trip

/-- The gaps from each arrival of a route to the first departure listed after it of the same
vehicle on the same trip, where there is one. -/
def dwells (route : String) : List StopEvent → List Int
  | [] => []
  | e :: later =>
    if e.isArrival && e.route == route then
      match later.find? (·.departs e) with
      | some d => (d.time - e.time) :: dwells route later
      | none => dwells route later
    else dwells route later

end StopEvent

/-- The mean of whole numbers, cut off at the decimal point; of none there is none. -/
def meanWhole (xs : List Int) : Option Int :=
  if xs.isEmpty then none else some ((xs.foldr (· + ·) 0).tdiv xs.length)

/-! ### Daily totals -/

/-- A service day of a route at a stop. -/
structure RouteStopDay where
  /-- The route. -/
  route : String
  /-- The stop. -/
  stop : String
  /-- The service day. -/
  date : CivilDate
  deriving DecidableEq

/-- What the observations of a service day add up to. -/
structure DailyTotals (α : Type) where
  /-- Passengers who got on. -/
  boardings : Nat
  /-- Passengers who got off. -/
  alightings : Nat
  /-- The number of observations. -/
  observations : Nat
  /-- Passengers who got on where there was a usable headway. -/
  ratedBoardings : Nat
  /-- The usable headways in seconds. -/
  headwaySecs : α

namespace DailyTotals

variable {α : Type} [Scalar α]

/-- What a single observation adds, with its headway in milliseconds if that is usable. -/
def single (o : Observation) : Option Int → DailyTotals α
  | some headway =>
    ⟨o.boardings, o.alightings, 1, o.boardings, Scalar.ofInt headway / Scalar.ofInt msPerSecond⟩
  | none => ⟨o.boardings, o.alightings, 1, 0, Scalar.ofInt 0⟩

/-- The sum of two totals. -/
def add (a b : DailyTotals α) : DailyTotals α :=
  ⟨a.boardings + b.boardings, a.alightings + b.alightings, a.observations + b.observations,
    a.ratedBoardings + b.ratedBoardings, a.headwaySecs + b.headwaySecs⟩

/-- Boardings per second of headway, if there was any headway. -/
def rate (t : DailyTotals α) : Option α :=
  if Scalar.below (Scalar.ofInt 0) t.headwaySecs then
    some (Scalar.ofInt t.ratedBoardings / t.headwaySecs)
  else none

end DailyTotals

/-! ### The history -/

/-- The daily totals and the rules for reading them. -/
structure PassengerHistory (α : Type) where
  /-- The total of each day that has an observation. -/
  totals : Keyed RouteStopDay (DailyTotals α)
  /-- Whether the feed of passenger counts is switched on. -/
  enabled : Bool
  /-- The longest gap in milliseconds that counts as a headway. -/
  maxHeadway : Int
  /-- How many earlier days are searched for a rate. -/
  lookbackDays : Nat
  /-- Milliseconds for which a total is kept. -/
  retention : Int

namespace PassengerHistory

variable {α : Type} [Scalar α]

/-- A history without observations. -/
def empty (maxHeadwaySecs : Int) (lookbackDays : Nat) (retention : Int) : PassengerHistory α :=
  ⟨.empty, true, wrapWhole (maxHeadwaySecs * msPerSecond), lookbackDays, retention⟩

/-- The service day of a route at a stop at an instant. -/
def dayOf (events : EventStore) (route stop : String) (ts : Int) : Option RouteStopDay :=
  (events.zone.serviceDate ts).map fun date => ⟨route, stop, date⟩

/-- The gap before an event to the latest earlier arrival of another vehicle on its route at its
stop, if the gap is usable. -/
def headwayBefore (h : PassengerHistory α) (events : EventStore) (now : Int) (e : StopEvent) :
    Option Int :=
  match StopEvent.lastArrivalBefore (events.getForTime now e.stop e.time) e.time
      fun p => p.route == e.route && p.vehicle != e.vehicle with
  | some previous =>
    if e.time - previous.time ≤ h.maxHeadway then some (e.time - previous.time) else none
  | none => none

/-- Records a match and tells whether it was counted. A match counts where its nearest event
stands; one without events, or whose event has no date, is passed over. -/
def record (h : PassengerHistory α) (events : EventStore) (now : Int) (m : CountMatch) :
    Bool × PassengerHistory α :=
  match m.nearest? with
  | none => (false, h)
  | some e =>
    match dayOf events e.route e.stop e.time with
    | none => (false, h)
    | some day =>
      let one := DailyTotals.single m.observation (h.headwayBefore events now e)
      (true, { h with totals := h.totals.upsert day one (·.add one) })

/-- Records matches in their order and tells how many were counted. -/
def recordAll (h : PassengerHistory α) (events : EventStore) (now : Int)
    (ms : List CountMatch) : Nat × PassengerHistory α :=
  ms.foldl (fun (counted, h) m =>
    let (isCounted, h) := h.record events now m
    (if isCounted then counted + 1 else counted, h)) (0, h)

/-- The total of a route at a stop on the service day of an instant. -/
def totalsAt (h : PassengerHistory α) (events : EventStore) (route stop : String) (ts : Int) :
    Option (DailyTotals α) :=
  (dayOf events route stop ts).bind h.totals.get?

omit [Scalar α] in
theorem totalsAt_eq_some_iff {h : PassengerHistory α} {events : EventStore} {route stop : String}
    {ts : Int} {total : DailyTotals α} :
    h.totalsAt events route stop ts = some total ↔
      ∃ date, events.zone.serviceDate ts = some date ∧
        h.totals.get? ⟨route, stop, date⟩ = some total := by
  unfold totalsAt dayOf
  cases events.zone.serviceDate ts with
  | none => simp
  | some date => simp

/-- Removes the totals of service days before the one that holds the earliest instant not past
retention, and tells how many those were. -/
def evict (h : PassengerHistory α) (events : EventStore) (now : Int) : Nat × PassengerHistory α :=
  match events.zone.serviceDate (now - h.retention) with
  | none => (0, h)
  | some oldest =>
    let swept := { h with totals := h.totals.filter fun day _ => oldest.day ≤ day.date.day }
    (h.totals.size - swept.totals.size, swept)

/-- Whether there are passenger counts to predict from. -/
def hasData (h : PassengerHistory α) : Bool := h.enabled && !h.totals.isEmpty

/-! ### Questions -/

/-- The gap from an instant back to the latest earlier arrival of a route at a stop on the same
service day. -/
def lastHeadway (events : EventStore) (now : Int) (stop route : String) (ts : Int) : Option Int :=
  (StopEvent.lastArrivalBefore (events.getForTime now stop ts) ts fun p => p.route == route).map
    fun previous => ts - previous.time

/-- The boarding rate of a route at a stop on the nearest day that has one, among the service days
of the instants one, two, three and more times twenty-four hours earlier. -/
def rateBefore (h : PassengerHistory α) (events : EventStore) (route stop : String) (ts : Int) :
    Option α :=
  DaysBack.latest? (fun back =>
    (h.totalsAt events route stop (DaysBack.before ts back)).bind DailyTotals.rate) h.lookbackDays

/-- The mean dwell of a route at a stop on the service day of an instant. -/
def dwellOn (events : EventStore) (now : Int) (route stop : String) (ts : Int) : Option Int :=
  meanWhole (StopEvent.dwells route (events.getForTime now stop ts))

end PassengerHistory

end TransitDwell
