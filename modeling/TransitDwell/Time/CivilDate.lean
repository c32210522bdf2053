import TransitDwell.Text.Decimal

/-!
# Civil dates

A date of the Gregorian calendar, carried back before its introduction and on without end. A date
is kept as the number of days since 1970-01-01, so that the day after is one more and the order of
dates is the order of numbers; year, month and day of the month are read off from that.

The calendar repeats every 400 years of 146097 days. Counting years from March puts the leap day
at the end of a year, and the months of such a year begin at days `(153 m + 2) / 5`.

The written form is `YYYY-MM-DD`. A year above 9999 is written with a plus sign, a year below 0
with a minus sign and at least four digits.
-/

namespace TransitDwell

/-- A date of the Gregorian calendar. -/
structure CivilDate where
  /-- Days since 1970-01-01. -/
  day : Int
  deriving DecidableEq

namespace CivilDate

/-! ### Year, month and day -/

/-- Days from 0000-03-01 to 1970-01-01. -/
def epochShift : Int := 719468

/-- The date of a year, a month from 1 to 12 and a day of that month. -/
def ofYmd (year : Int) (month dayOfMonth : Nat) : CivilDate :=
  let y := if month ≤ 2 then year - 1 else year
  let era := y / 400
  let yearOfEra := y - era * 400
  let monthFromMarch : Int := if month ≤ 2 then month + 9 else (month : Int) - 3
  let dayOfYear := (153 * monthFromMarch + 2) / 5 + dayOfMonth - 1
  let dayOfEra := yearOfEra * 365 + yearOfEra / 4 - yearOfEra / 100 + dayOfYear
  ⟨era * 146097 + dayOfEra - epochShift⟩

/-- A date taken apart. -/
structure Parts where
  /-- The year; the year before year 1 is year 0. -/
  year : Int
  /-- The month, from 1 to 12. -/
  month : Nat
  /-- The day of the month, from 1. -/
  dayOfMonth : Nat
  deriving DecidableEq

/-- Year, month and day of the month of a date. -/
def parts (d : CivilDate) : Parts :=
  let z := d.day + epochShift
  let era := z / 146097
  let dayOfEra := z - era * 146097
  let yearOfEra := (dayOfEra - dayOfEra / 1460 + dayOfEra / 36524 - dayOfEra / 146096) / 365
  let dayOfYear := dayOfEra - (365 * yearOfEra + yearOfEra / 4 - yearOfEra / 100)
  let monthFromMarch := (5 * dayOfYear + 2) / 153
  let dayOfMonth := dayOfYear - (153 * monthFromMarch + 2) / 5 + 1
  let month := if monthFromMarch < 10 then monthFromMarch + 3 else monthFromMarch - 9
  ⟨yearOfEra + era * 400 + (if month ≤ 2 then 1 else 0), month.toNat, dayOfMonth.toNat⟩

/-- The year of a date. -/
def year (d : CivilDate) : Int := d.parts.year

/-- The day of the week, counted from Sunday as 0. -/
def weekday (d : CivilDate) : Nat := ((d.day + 4) % 7).toNat

/-- The first day of the month after a month. -/
def firstOfNextMonth (year : Int) (month : Nat) : CivilDate :=
  if month = 12 then ofYmd (year + 1) 1 1 else ofYmd year (month + 1) 1

/-- The number of days of a month. -/
def monthLength (year : Int) (month : Nat) : Nat :=
  ((firstOfNextMonth year month).day - (ofYmd year month 1).day).toNat

/-! ### Written form -/

/-- A number with zeros before it up to a number of digits. -/
def padded (width n : Nat) : String :=
  let digits := toString n
  String.ofList (List.replicate (width - digits.length) '0') ++ digits

/-- A year: four digits, and a sign where four digits do not do. -/
def yearText (year : Int) : String :=
  if year < 0 then "-" ++ padded 4 year.natAbs
  else if 9999 < year then "+" ++ padded 5 year.natAbs
  else padded 4 year.natAbs

/-- The written form of a date. -/
def text (d : CivilDate) : String :=
  let p := d.parts
  yearText p.year ++ "-" ++ padded 2 p.month ++ "-" ++ padded 2 p.dayOfMonth

/-- Reads a written date: an optional sign, and year, month and day in digits. A month or a day
that the calendar does not have is refused. -/
def ofText? (s : String) : Option CivilDate :=
  let (sign, body) : Int × List Char :=
    match s.toList with
    | '+' :: cs => (1, cs)
    | '-' :: cs => (-1, cs)
    | cs => (1, cs)
  match (String.ofList body).splitOn "-" with
  | [y, m, d] =>
    match Digits.toNat? 10 y.toList, Digits.toNat? 10 m.toList, Digits.toNat? 10 d.toList with
    | some y, some m, some d =>
      let year := sign * y
      if 1 ≤ m && m ≤ 12 && 1 ≤ d && d ≤ monthLength year m then some (ofYmd year m d) else none
    | _, _, _ => none
  | _ => none

end CivilDate

end TransitDwell
