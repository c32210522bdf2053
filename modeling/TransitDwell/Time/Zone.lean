import TransitDwell.Time.Bucket
import TransitDwell.Time.CivilDate

/-!
# Time zones and service days

A time zone is a name and, for every instant, the offset of its clocks from UTC. Only finitely
many offsets occur, which is what lets a local time be resolved: the instants that show it are
among the local time less one of the offsets.

The service day of an instant is the date its zone's calendar shows. The midnight of a service
day, which schedules count from, is noon less twelve hours: clocks are changed in the night, so
that noon exists once on almost every day, and where it does not the day counts from 00:00 UTC.

Instants have dates, and the calendar has dates, from the year -262143 to the year 262142. The
program stops where it comes to a date beyond: less than a day from either end of this time, where
local clocks show the year before or after at an instant that has a date, and where noon has a date
but the instant twelve hours before it has none. Dates go on without end here, and so do midnights.
-/

namespace TransitDwell

/-- A time zone. -/
structure Zone where
  /-- The name of the zone. -/
  name : String
  /-- Seconds by which local clocks are ahead of UTC at a second since 1970-01-01 UTC. -/
  offsetAt : Int → Int
  /-- The offsets that occur. -/
  offsets : List Int
  /-- No other offset occurs. -/
  offsetAt_mem : ∀ second, offsetAt second ∈ offsets

/-- The first instant that has a date: the start of the year -262143. -/
def firstDatedInstant : Int := -8334601228800000

/-- The last instant that has a date: the last millisecond of the year 262142. -/
def lastDatedInstant : Int := 8210266876799999

/-- Whether an instant has a date. -/
def isDated (ts : Int) : Bool := firstDatedInstant ≤ ts && ts ≤ lastDatedInstant

namespace Zone

/-- A zone whose clocks are never changed. -/
def fixed (name : String) (offset : Int) : Zone where
  name := name
  offsetAt _ := offset
  offsets := [offset]
  offsetAt_mem _ := List.mem_singleton.2 rfl

/-- Coordinated universal time. -/
def utc : Zone := fixed "UTC" 0

/-- Milliseconds by which local clocks are ahead of UTC at an instant. -/
def offsetMs (z : Zone) (ts : Int) : Int := z.offsetAt (ts / msPerSecond) * msPerSecond

/-- What local clocks show at an instant, as milliseconds since 1970-01-01 00:00 local time. -/
def localMs (z : Zone) (ts : Int) : Int := ts + z.offsetMs ts

/-- The date that the zone's calendar shows at an instant. -/
def serviceDate (z : Zone) (ts : Int) : Option CivilDate :=
  if isDated ts then some ⟨z.localMs ts / msPerDay⟩ else none

/-- The dated instants at which local clocks show a local time. -/
def instantsShowing (z : Zone) (localTime : Int) : List Int :=
  (z.offsets.map fun o => localTime - o * msPerSecond).filter fun ts =>
    z.localMs ts = localTime && isDated ts

/-- The instant at which local clocks show a local time, if they show it exactly once. -/
def instantShowing? (z : Zone) (localTime : Int) : Option Int :=
  match z.instantsShowing localTime with
  | [] => none
  | ts :: others => if others.all (· = ts) then some ts else none

/-- Local noon of a date, as milliseconds since 1970-01-01 00:00 local time. -/
def noon (d : CivilDate) : Int := d.day * msPerDay + msPerDay / 2

/-- The instant from which the schedule of a service day counts. -/
def midnight (z : Zone) (d : CivilDate) : Int :=
  match z.instantShowing? (noon d) with
  | some ts => ts - msPerDay / 2
  | none => d.day * msPerDay

end Zone

end TransitDwell
