/-!
# Records

What the feeds deliver and what the program answers. Vehicle positions yield arrivals and
departures at stops, passenger counters yield observations with a clock of their own, and a dwell
request describes a vehicle that approaches a stop on a trip. Instants and spans are whole
milliseconds; a positive schedule deviation means late.
-/

namespace TransitDwell

/-! ### What the feeds deliver -/

/-- One vehicle arriving at, or departing from, one stop. -/
structure StopEvent where
  /-- The vehicle. -/
  vehicle : String
  /-- The stop. -/
  stop : String
  /-- The trip that the vehicle serves. -/
  trip : String
  /-- The route of that trip. -/
  route : String
  /-- When it happened. -/
  time : Int
  /-- Whether it is an arrival; otherwise it is a departure. -/
  isArrival : Bool
  /-- How late the vehicle was. -/
  deviation : Int := 0
  deriving DecidableEq

/-- One reading of a passenger counter. -/
structure Observation where
  /-- The vehicle that carries the counter. -/
  vehicle : String
  /-- When the vehicle arrived, by the counter's clock. -/
  time : Int
  /-- Passengers who got on. -/
  boardings : Nat
  /-- Passengers who got off. -/
  alightings : Nat
  /-- The doors of the vehicle, where the counter knows. -/
  doors : Option Nat := none
  /-- How passengers board, where the counter knows. -/
  boardingType : Option Nat := none
  deriving DecidableEq

/-- A vehicle approaching a stop on a trip, as the schedule and its present deviation describe
it. -/
structure DwellRequest where
  /-- The trip. -/
  trip : String
  /-- The route of the trip. -/
  route : String
  /-- The stop. -/
  stop : String
  /-- The place of the stop on the trip; the first stop has place 0. -/
  position : Nat
  /-- The vehicle. -/
  vehicle : String
  /-- When the schedule has the vehicle arrive. -/
  scheduledArrival : Option Int := none
  /-- How late the vehicle is. -/
  deviation : Int := 0
  /-- How passengers board. -/
  boardingType : Option Nat := none
  /-- The dwell that the schedule itself allows. -/
  scheduledDwell : Option Int := none
  deriving DecidableEq

namespace DwellRequest

/-- Whether the trip begins at this stop. -/
def isStartOfTrip (r : DwellRequest) : Bool := r.position = 0

/-- The scheduled arrival, shifted by the vehicle's present deviation. -/
def adjustedArrival (r : DwellRequest) : Option Int := r.scheduledArrival.map (· + r.deviation)

end DwellRequest

/-! ### Malformed records -/

/-- A name that a record must not leave empty. -/
inductive RequiredName where
  /-- The vehicle. -/
  | vehicle
  /-- The stop. -/
  | stop
  /-- The route. -/
  | route
  /-- The trip. -/
  | trip
  deriving DecidableEq

namespace RequiredName

/-- The field that holds the name. -/
def field : RequiredName → String
  | vehicle => "vehicle_id"
  | stop => "stop_id"
  | route => "route_id"
  | trip => "trip_id"

/-- What is said of a record that leaves the name empty. -/
def message (n : RequiredName) : String := "record is missing required field `" ++ n.field ++ "`"

end RequiredName

/-- The first name that an event leaves empty: vehicle, stop, route and trip are looked at in this
order. -/
def StopEvent.missing? (e : StopEvent) : Option RequiredName :=
  if e.vehicle = "" then some .vehicle
  else if e.stop = "" then some .stop
  else if e.route = "" then some .route
  else if e.trip = "" then some .trip
  else none

/-- The name that an observation leaves empty; only the vehicle is needed. -/
def Observation.missing? (o : Observation) : Option RequiredName :=
  if o.vehicle = "" then some .vehicle else none

/-- One line about an event. -/
def StopEvent.text (e : StopEvent) : String :=
  (if e.isArrival then "arrival" else "departure") ++ " vehicle=" ++ e.vehicle ++ " stop=" ++ e.stop
    ++ " trip=" ++ e.trip ++ " route=" ++ e.route ++ " at " ++ toString e.time

/-! ### Answers -/

/-- How a predicted dwell was arrived at. -/
inductive PredictionMethod where
  /-- From passenger counts. -/
  | passengerCounts
  /-- From the schedule alone. -/
  | baseline
  deriving DecidableEq

/-- The name of a method in written predictions. -/
def PredictionMethod.text : PredictionMethod → String
  | passengerCounts => "APC_DWELL"
  | baseline => "BASELINE"

/-- The method of a name. -/
def PredictionMethod.ofText? (s : String) : Option PredictionMethod :=
  if s = "APC_DWELL" then some .passengerCounts
  else if s = "BASELINE" then some .baseline
  else none

/-- A predicted dwell. -/
structure Prediction where
  /-- The dwell in milliseconds. -/
  value : Int
  /-- How it was arrived at. -/
  method : PredictionMethod
  deriving DecidableEq

/-! ### The order of events -/

/-- Whether one event is not after another: time decides, and at one instant arrivals come before
departures. -/
def StopEvent.notAfter (a b : StopEvent) : Bool :=
  a.time < b.time || (a.time = b.time && (a.isArrival || !b.isArrival))

theorem StopEvent.notAfter_total (a b : StopEvent) : a.notAfter b || b.notAfter a := by
  cases ha : a.isArrival <;> cases hb : b.isArrival <;> simp [StopEvent.notAfter, ha, hb] <;> omega

theorem StopEvent.notAfter_trans {a b c : StopEvent} (hab : a.notAfter b) (hbc : b.notAfter c) :
    a.notAfter c := by
  cases ha : a.isArrival <;> cases hb : b.isArrival <;> cases hc : c.isArrival <;>
    simp [StopEvent.notAfter, ha, hb, hc] at * <;> omega

/-- Whether the order says nothing of two events: they stand at one instant and in one
direction. -/
def StopEvent.ties (a b : StopEvent) : Bool := a.time == b.time && a.isArrival == b.isArrival

end TransitDwell
