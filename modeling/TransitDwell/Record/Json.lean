import TransitDwell.Record
import TransitDwell.Text.Json

/-!
# Records in JSON

A record is an object with a member for each field. Members of other names are passed over; a
field given twice, a field missing that has no default, and a value of the wrong kind are errors.
A record may also be an array of its fields in order, from which fields with a default may be
missing at the end. Whole numbers must be spelled as such and lie within the bounds of the field.
-/

namespace TransitDwell

namespace Json

/-! ### Fields -/

/-- The fields of a record that are given, by name. -/
abbrev Fields := List (String × Json)

/-- Adds a member to the fields read so far, if it is one of the record's. -/
def addMember (names : List String) (fields : Fields) : Option String × Json → Option Fields
  | (none, _) => none
  | (some name, value) =>
    if !names.contains name then some fields
    else if (fields.lookup name).isSome then none
    else some (fields ++ [(name, value)])

/-- The fields of a record with the names of its fields in order. -/
def fields? (names : List String) : Json → Option Fields
  | .array items => if items.length ≤ names.length then some (names.zip items) else none
  | .object members => members.foldlM (addMember names) []
  | _ => none

/-- A field that must be given. -/
def required {β : Type} (fields : Fields) (name : String) (read : Json → Option β) : Option β :=
  (fields.lookup name).bind read

/-- A field that has a default. -/
def defaulted {β : Type} (fields : Fields) (name : String) (default : β)
    (read : Json → Option β) : Option β :=
  match fields.lookup name with
  | some value => read value
  | none => some default

/-- A value that may be `null`. -/
def nullable {β : Type} (read : Json → Option β) : Json → Option (Option β)
  | .null => some none
  | value => (read value).map some

/-- A field that may be absent or `null`. -/
def optional {β : Type} (fields : Fields) (name : String) (read : Json → Option β) :
    Option (Option β) :=
  defaulted fields name none (nullable read)

/-! ### Values -/

/-- The text of a string. -/
def text? : Json → Option String
  | .string s => s
  | _ => none

/-- The value of a truth value. -/
def bool? : Json → Option Bool
  | .bool b => some b
  | _ => none

/-- The number of a spelling without point and exponent. Minus zero is not spelled like that. -/
def wholeOf? (spelling : String) : Option Int :=
  match spelling.toList with
  | '-' :: ds => (Digits.toNat? 10 ds).bind fun n => if n = 0 then none else some (-n)
  | ds => (Digits.toNat? 10 ds).map Int.ofNat

/-- A whole number within bounds. -/
def whole? (lo hi : Int) : Json → Option Int
  | .number spelling =>
    (wholeOf? spelling).bind fun n => if lo ≤ n && n ≤ hi then some n else none
  | _ => none

/-- A whole number of 64 bits. -/
def int64? : Json → Option Int := whole? (-9223372036854775808) 9223372036854775807

/-- A whole number of 32 bits that is not negative. -/
def count? (j : Json) : Option Nat := (whole? 0 4294967295 j).map Int.toNat

end Json

/-! ### Reading records -/

namespace StopEvent

/-- The fields of an event. -/
def fieldNames : List String :=
  ["vehicle_id", "stop_id", "trip_id", "route_id", "time_ms", "is_arrival", "schedule_deviation_ms"]

/-- Reads an event. -/
def ofJson? (j : Json) : Option StopEvent := do
  let fields ← j.fields? fieldNames
  return {
    vehicle := ← Json.required fields "vehicle_id" Json.text?
    stop := ← Json.required fields "stop_id" Json.text?
    trip := ← Json.required fields "trip_id" Json.text?
    route := ← Json.required fields "route_id" Json.text?
    time := ← Json.required fields "time_ms" Json.int64?
    isArrival := ← Json.required fields "is_arrival" Json.bool?
    deviation := ← Json.defaulted fields "schedule_deviation_ms" 0 Json.int64? }

/-- Writes an event. -/
def toJson (e : StopEvent) : Json :=
  .record [
    ("vehicle_id", .ofString e.vehicle), ("stop_id", .ofString e.stop),
    ("trip_id", .ofString e.trip), ("route_id", .ofString e.route), ("time_ms", .ofInt e.time),
    ("is_arrival", .bool e.isArrival), ("schedule_deviation_ms", .ofInt e.deviation)]

end StopEvent

namespace Observation

/-- The fields of an observation. -/
def fieldNames : List String :=
  ["vehicle_id", "arrival_epoch_ms", "boardings", "alightings", "door_count", "boarding_type"]

/-- Reads an observation. -/
def ofJson? (j : Json) : Option Observation := do
  let fields ← j.fields? fieldNames
  return {
    vehicle := ← Json.required fields "vehicle_id" Json.text?
    time := ← Json.required fields "arrival_epoch_ms" Json.int64?
    boardings := ← Json.required fields "boardings" Json.count?
    alightings := ← Json.required fields "alightings" Json.count?
    doors := ← Json.optional fields "door_count" Json.count?
    boardingType := ← Json.optional fields "boarding_type" Json.count? }

/-- Writes an observation. -/
def toJson (o : Observation) : Json :=
  .record [
    ("vehicle_id", .ofString o.vehicle), ("arrival_epoch_ms", .ofInt o.time),
    ("boardings", .ofInt o.boardings), ("alightings", .ofInt o.alightings),
    ("door_count", .ofOption (fun n : Nat => .ofInt n) o.doors),
    ("boarding_type", .ofOption (fun n : Nat => .ofInt n) o.boardingType)]

end Observation

namespace DwellRequest

/-- The fields of a request. -/
def fieldNames : List String :=
  ["trip_id", "route_id", "stop_id", "stop_position", "vehicle_id", "scheduled_arrival_ms",
    "schedule_deviation_ms", "boarding_type", "scheduled_dwell_ms"]

/-- Reads a request. -/
def ofJson? (j : Json) : Option DwellRequest := do
  let fields ← j.fields? fieldNames
  return {
    trip := ← Json.required fields "trip_id" Json.text?
    route := ← Json.required fields "route_id" Json.text?
    stop := ← Json.required fields "stop_id" Json.text?
    position := ← Json.required fields "stop_position" Json.count?
    vehicle := ← Json.required fields "vehicle_id" Json.text?
    scheduledArrival := ← Json.optional fields "scheduled_arrival_ms" Json.int64?
    deviation := ← Json.defaulted fields "schedule_deviation_ms" 0 Json.int64?
    boardingType := ← Json.optional fields "boarding_type" Json.count?
    scheduledDwell := ← Json.optional fields "scheduled_dwell_ms" Json.int64? }

/-- Writes a request. -/
def toJson (r : DwellRequest) : Json :=
  .record [
    ("trip_id", .ofString r.trip), ("route_id", .ofString r.route), ("stop_id", .ofString r.stop),
    ("stop_position", .ofInt r.position), ("vehicle_id", .ofString r.vehicle),
    ("scheduled_arrival_ms", .ofOption .ofInt r.scheduledArrival),
    ("schedule_deviation_ms", .ofInt r.deviation),
    ("boarding_type", .ofOption (fun n : Nat => .ofInt n) r.boardingType),
    ("scheduled_dwell_ms", .ofOption .ofInt r.scheduledDwell)]

end DwellRequest

namespace Prediction

/-- Reads a method: its name, or an object with the name as its only member and `null` for it. -/
def methodOfJson? : Json → Option PredictionMethod
  | .string (some name) => PredictionMethod.ofText? name
  | .object [(some name, .null)] => PredictionMethod.ofText? name
  | _ => none

/-- Reads a prediction. -/
def ofJson? (j : Json) : Option Prediction := do
  let fields ← j.fields? ["value_ms", "method"]
  return {
    value := ← Json.required fields "value_ms" Json.int64?
    method := ← Json.required fields "method" methodOfJson? }

/-- Writes a prediction. -/
def toJson (p : Prediction) : Json :=
  .record [("value_ms", .ofInt p.value), ("method", .ofString p.method.text)]

end Prediction

end TransitDwell
