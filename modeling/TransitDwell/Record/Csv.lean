import TransitDwell.Record
import TransitDwell.Text.Csv
import TransitDwell.Text.Decimal

/-!
# Records in tables

A table of records has a column for each field, in any order and among other columns. A row is
passed over if it cannot be read: if a column without default is missing or a column of the
record is there twice, or if a field does not hold a value of its kind. A default stands in for a
missing column only. An empty field means that an optional value is absent; it is an error for
other numbers and for truth values.
-/

namespace TransitDwell

namespace Csv

/-! ### Fields -/

/-- Whether no column of a record stands twice in a row. -/
def isUnambiguous (names : List String) (row : NamedRow) : Bool :=
  names.all fun name => (row.filter fun column => column.1 = name).length ≤ 1

/-- A field whose column must be there. -/
def required {β : Type} (row : NamedRow) (name : String) (read : String → Option β) : Option β :=
  (row.lookup name).bind read

/-- A field whose column may be missing. -/
def defaulted {β : Type} (row : NamedRow) (name : String) (default : β)
    (read : String → Option β) : Option β :=
  match row.lookup name with
  | some value => read value
  | none => some default

/-- A field whose column may be missing and that may be empty. -/
def optional {β : Type} (row : NamedRow) (name : String) (read : String → Option β) :
    Option (Option β) :=
  defaulted row name none fun value => if value = "" then some none else (read value).map some

/-! ### Values -/

/-- A truth value. -/
def bool? (s : String) : Option Bool :=
  if s = "true" then some true else if s = "false" then some false else none

/-- A whole number that may be negative: decimal digits, or hexadecimal ones after `0x`, with an
optional sign before the digits. -/
def whole? (s : String) : Option Int :=
  match s.toList with
  | '0' :: 'x' :: cs => Digits.toInt? 16 cs
  | cs => Digits.toInt? 10 cs

/-- Digits in a base with an optional plus sign before them. -/
def unsigned? (base : Nat) : List Char → Option Nat
  | '+' :: cs => Digits.toNat? base cs
  | cs => Digits.toNat? base cs

/-- A whole number of 64 bits. -/
def int64? (s : String) : Option Int :=
  (whole? s).filter fun n => -9223372036854775808 ≤ n && n ≤ 9223372036854775807

/-- A whole number of 32 bits that is not negative and has no minus sign. -/
def count? (s : String) : Option Nat :=
  let n? := match s.toList with
    | '0' :: 'x' :: cs => unsigned? 16 cs
    | cs => unsigned? 10 cs
  n?.filter fun n => n ≤ 4294967295

/-- A text is taken as it is. -/
def text? (s : String) : Option String := some s

/-- The records of a table. -/
def records {β : Type} (text : String) (names : List String) (read : NamedRow → Option β) :
    List β :=
  (namedRows text).filterMap fun row => if isUnambiguous names row then read row else none

end Csv

/-! ### Reading records -/

namespace StopEvent

/-- Reads an event. -/
def ofRow? (row : Csv.NamedRow) : Option StopEvent := do
  return {
    vehicle := ← Csv.required row "vehicle_id" Csv.text?
    stop := ← Csv.required row "stop_id" Csv.text?
    trip := ← Csv.required row "trip_id" Csv.text?
    route := ← Csv.required row "route_id" Csv.text?
    time := ← Csv.required row "time_ms" Csv.int64?
    isArrival := ← Csv.required row "is_arrival" Csv.bool?
    deviation := ← Csv.defaulted row "schedule_deviation_ms" 0 Csv.int64? }

/-- The events of a table. -/
def ofCsv (text : String) : List StopEvent :=
  Csv.records text
    ["vehicle_id", "stop_id", "trip_id", "route_id", "time_ms", "is_arrival",
      "schedule_deviation_ms"]
    ofRow?

end StopEvent

namespace Observation

/-- Reads an observation. -/
def ofRow? (row : Csv.NamedRow) : Option Observation := do
  return {
    vehicle := ← Csv.required row "vehicle_id" Csv.text?
    time := ← Csv.required row "arrival_epoch_ms" Csv.int64?
    boardings := ← Csv.required row "boardings" Csv.count?
    alightings := ← Csv.required row "alightings" Csv.count?
    doors := ← Csv.optional row "door_count" Csv.count?
    boardingType := ← Csv.optional row "boarding_type" Csv.count? }

/-- The observations of a table. -/
def ofCsv (text : String) : List Observation :=
  Csv.records text
    ["vehicle_id", "arrival_epoch_ms", "boardings", "alightings", "door_count", "boarding_type"]
    ofRow?

end Observation

namespace DwellRequest

/-- Reads a request. -/
def ofRow? (row : Csv.NamedRow) : Option DwellRequest := do
  return {
    trip := ← Csv.required row "trip_id" Csv.text?
    route := ← Csv.required row "route_id" Csv.text?
    stop := ← Csv.required row "stop_id" Csv.text?
    position := ← Csv.required row "stop_position" Csv.count?
    vehicle := ← Csv.required row "vehicle_id" Csv.text?
    scheduledArrival := ← Csv.optional row "scheduled_arrival_ms" Csv.int64?
    deviation := ← Csv.defaulted row "schedule_deviation_ms" 0 Csv.int64?
    boardingType := ← Csv.optional row "boarding_type" Csv.count?
    scheduledDwell := ← Csv.optional row "scheduled_dwell_ms" Csv.int64? }

/-- The requests of a table. -/
def ofCsv (text : String) : List DwellRequest :=
  Csv.records text
    ["trip_id", "route_id", "stop_id", "stop_position", "vehicle_id", "scheduled_arrival_ms",
      "schedule_deviation_ms", "boarding_type", "scheduled_dwell_ms"]
    ofRow?

end DwellRequest

end TransitDwell
