import TransitDwell.Time.CivilDate

/-!
# Yearly changes of clocks

Where clocks are put forward in spring and back in autumn, the change comes every year on the same
kind of day: a day of a month, the last of the weekdays of some name in it, or the first on or
after a day, or the last on or before one. The time of day of a change is told by the clocks as
they are until then, by clocks that show standard time, or by UTC.

Changes are laid down up to the year 2099, and clocks then stay as they are.
-/

namespace TransitDwell

/-! ### Times of day -/

/-- What a time of day is told by. -/
inductive Dial where
  /-- The clocks as they are until then. -/
  | shown
  /-- Clocks that show standard time. -/
  | standard
  /-- Clocks that show UTC. -/
  | universal
  deriving DecidableEq

/-- A time of day. -/
structure DialTime where
  /-- Seconds after midnight; the time may lie on a day before or after. -/
  seconds : Int
  /-- What the time is told by. -/
  dial : Dial
  deriving DecidableEq

namespace DialTime

/-- Seconds by which what tells a time is ahead of UTC, where clocks show a saving besides a
standard offset. -/
def ahead (t : DialTime) (standard saving : Int) : Int :=
  match t.dial with
  | .shown => standard + saving
  | .standard => standard
  | .universal => 0

/-- The second since 1970-01-01 UTC at which it is that time on a date. -/
def second (t : DialTime) (date : CivilDate) (standard saving : Int) : Int :=
  date.day * 86400 + t.seconds - t.ahead standard saving

end DialTime

/-! ### Days of a month -/

namespace CivilDate

/-- The first date of a weekday, on or after a date. -/
def onOrAfter (d : CivilDate) (weekday : Nat) : CivilDate :=
  ⟨d.day + ((weekday + 7 - d.weekday) % 7 : Nat)⟩

/-- The last date of a weekday, on or before a date. -/
def onOrBefore (d : CivilDate) (weekday : Nat) : CivilDate :=
  ⟨d.day - ((d.weekday + 7 - weekday) % 7 : Nat)⟩

end CivilDate

/-- A day of a month. Weekdays are counted from Sunday as 0. -/
inductive MonthDay where
  /-- The day of a number. -/
  | day (n : Nat)
  /-- The last day of a weekday. -/
  | last (weekday : Nat)
  /-- The first day of a weekday, on or after a day. -/
  | onOrAfter (weekday n : Nat)
  /-- The last day of a weekday, on or before a day. -/
  | onOrBefore (weekday n : Nat)
  deriving DecidableEq

/-- The date of such a day in a month of a year. -/
def MonthDay.date (year : Int) (month : Nat) : MonthDay → CivilDate
  | .day n => .ofYmd year month n
  | .last weekday => CivilDate.onOrBefore ⟨(CivilDate.firstOfNextMonth year month).day - 1⟩ weekday
  | .onOrAfter weekday n => (CivilDate.ofYmd year month n).onOrAfter weekday
  | .onOrBefore weekday n => (CivilDate.ofYmd year month n).onOrBefore weekday

/-! ### Changes -/

/-- A change of clocks that comes in every year of a time. -/
structure YearlyChange where
  /-- The first year. -/
  firstYear : Nat
  /-- The last year. -/
  lastYear : Nat
  /-- The month. -/
  month : Nat
  /-- The day of the month. -/
  day : MonthDay
  /-- The time of day. -/
  time : DialTime
  /-- Seconds that clocks are ahead of standard time from then on. -/
  saving : Int
  deriving DecidableEq

/-- A change of clocks on a date. -/
structure Occasion where
  /-- The date. -/
  date : CivilDate
  /-- The time of day. -/
  time : DialTime
  /-- Seconds that clocks are ahead of standard time from then on. -/
  saving : Int
  deriving DecidableEq

/-- The last year for which changes are laid down. -/
def lastRuledYear : Nat := 2099

namespace Occasion

/-- Whether an occasion comes before another or at the same time, whatever their times are told
by. -/
def notAfter (a b : Occasion) : Bool :=
  a.date.day * 86400 + a.time.seconds ≤ b.date.day * 86400 + b.time.seconds

end Occasion

namespace YearlyChange

/-- The occasions of a change, year by year. -/
def occasions (c : YearlyChange) : List Occasion :=
  (List.range (min c.lastYear lastRuledYear + 1 - c.firstYear)).map fun i =>
    ⟨c.day.date ((c.firstYear + i : Nat) : Int) c.month, c.time, c.saving⟩

/-- The occasions of some changes in their order. -/
def occasionsOf (changes : List YearlyChange) : List Occasion :=
  (changes.flatMap occasions).mergeSort Occasion.notAfter

end YearlyChange

end TransitDwell
