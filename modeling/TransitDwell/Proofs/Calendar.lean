import Mathlib.Data.Nat.Find
import Mathlib.Tactic.IntervalCases
import TransitDwell.Time.CivilDate

/-!
# The calendar

A date is a number of days, and year, month and day of the month are computed from it. That the
computation comes to the Gregorian calendar is said by two round trips, for all years, those before
year 1 too.

Years are counted from March here and within an era of 400 years, so that a day of an era is given
by a year, a month and the days before it in the month. The year of a day is found by a division in
which the leap days passed are taken off first (`yearHolding`); that this gives the right year even
on the leap day at the end of a year, of a century or of an era is the core of it
(`yearHolding_eq`).

## What is proved

* `CivilDate.monthLength_eq`: the months have the lengths of the Gregorian calendar.
* `CivilDate.isGregorian_parts`: every date is a day of that calendar, and the date of its year,
  month and day.
* `CivilDate.Parts.IsGregorian.parts_date`: a day of that calendar is the year, month and day of its
  date.
-/

namespace TransitDwell

namespace CivilDate

/-! ### Years of an era -/

/-- Days from the first of March that an era begins with to that of one of its years. -/
def daysToYear (y : Int) : Int := y * 365 + y / 4 - y / 100

/-- Days from the first of March that an era begins with to that after one of its years. -/
def daysToNextYear (y : Int) : Int := if y = 399 then 146097 else daysToYear (y + 1)

/-- The year of an era in which one of its days lies. -/
def yearHolding (n : Int) : Int := (n - n / 1460 + n / 36524 - n / 146096) / 365

theorem yearHolding_eq {y n : Int} (hzero : 0 ≤ y) (hlast : y < 400) (hfrom : daysToYear y ≤ n)
    (hto : n < daysToNextYear y) : yearHolding n = y := by
  -- the year by century, leap cycle and year of the cycle, and the days left in it
  obtain ⟨c, hc⟩ : ∃ c, c = y / 100 := ⟨_, rfl⟩
  obtain ⟨q, hq⟩ : ∃ q, q = y % 100 / 4 := ⟨_, rfl⟩
  obtain ⟨r, hr⟩ : ∃ r, r = y % 4 := ⟨_, rfl⟩
  have hy : y = 100 * c + 4 * q + r := by omega
  have hbounds : 0 ≤ c ∧ c ≤ 3 ∧ 0 ≤ q ∧ q ≤ 24 ∧ 0 ≤ r ∧ r ≤ 3 := by omega
  have hbegin : daysToYear y = 36524 * c + 1461 * q + 365 * r := by
    unfold daysToYear
    omega
  obtain ⟨d, hzero', hd⟩ : ∃ d, 0 ≤ d ∧ n = 36524 * c + 1461 * q + 365 * r + d :=
    ⟨n - daysToYear y, by omega, by omega⟩
  have hdays : d ≤ 364 ∨ d = 365 ∧ r = 3 ∧ (q < 24 ∨ c = 3) := by
    unfold daysToNextYear daysToYear at hto
    split at hto <;> omega
  have hcentury : 1461 * q + 365 * r + d ≤ 36523 ∨ c = 3 ∧ q = 24 ∧ r = 3 ∧ d = 365 := by
    clear hd hfrom hto hbegin
    omega
  have hcenturies : n / 36524 - n / 146096 = c := by
    clear hc hq hr hy hfrom hto hbegin
    rcases hcentury with hcentury | ⟨rfl, rfl, rfl, rfl⟩ <;> omega
  have hcycles : n / 1460 = 25 * c + q + (24 * c + q + 365 * r + d) / 1460 := by omega
  unfold yearHolding
  omega

/-- Every day of an era lies in one of its years. -/
theorem exists_year {n : Int} (hzero : 0 ≤ n) (hlast : n < 146097) :
    ∃ y, 0 ≤ y ∧ y < 400 ∧ daysToYear y ≤ n ∧ n < daysToNextYear y := by
  -- the last year that does not begin later
  let hasBegun : Nat → Prop := fun y => daysToYear y ≤ n
  obtain ⟨y, hy⟩ : ∃ y, y = Nat.findGreatest hasBegun 399 := ⟨_, rfl⟩
  have hle : y ≤ 399 := hy ▸ Nat.findGreatest_le 399
  have hbegun : daysToYear y ≤ n := by
    rw [hy]
    exact Nat.findGreatest_spec (P := hasBegun) (Nat.zero_le 399) hzero
  refine ⟨y, by omega, by omega, hbegun, ?_⟩
  unfold daysToNextYear
  split
  · exact hlast
  · have hnext : ¬ hasBegun (y + 1) :=
      Nat.findGreatest_is_greatest (n := 399) (hy ▸ Nat.lt_succ_self y) (by omega)
    exact Int.not_le.mp hnext

/-! ### Months of a year -/

/-- The day of an era on which a month of one of its years begins; March is month 0. -/
def monthStart (y m : Int) : Int := daysToYear y + (153 * m + 2) / 5

/-- The day of an era after the last of a month of one of its years. -/
def monthEnd (y m : Int) : Int := if m = 11 then daysToNextYear y else monthStart y (m + 1)

/-- Every day of a year lies in one of its months. -/
theorem exists_month {y n : Int} (hfrom : daysToYear y ≤ n) (hto : n < daysToNextYear y) :
    ∃ m k, 0 ≤ m ∧ m ≤ 11 ∧ 0 ≤ k ∧ n = monthStart y m + k ∧ n < monthEnd y m := by
  obtain ⟨m, hm⟩ : ∃ m, m = (5 * (n - daysToYear y) + 2) / 153 := ⟨_, rfl⟩
  have hlength : daysToNextYear y ≤ daysToYear y + 366 := by
    unfold daysToNextYear daysToYear
    split <;> omega
  refine ⟨m, n - monthStart y m, ?_⟩
  unfold monthEnd monthStart
  refine ⟨by omega, by omega, by omega, by omega, ?_⟩
  split <;> omega

/-- A date is a day of an era, in a month of a year. -/
theorem exists_month_of_era (d : CivilDate) : ∃ era y m k, 0 ≤ y ∧ y < 400 ∧ 0 ≤ m ∧ m ≤ 11 ∧
    0 ≤ k ∧ monthStart y m + k < monthEnd y m ∧
      d = ⟨era * 146097 + monthStart y m + k - epochShift⟩ := by
  obtain ⟨y, hy, hy', hfrom, hto⟩ :=
    exists_year (n := (d.day + epochShift) % 146097) (by omega) (by omega)
  obtain ⟨m, k, hm, hm', hk, hsplit, hend⟩ := exists_month hfrom hto
  refine ⟨(d.day + epochShift) / 146097, y, m, k, hy, hy', hm, hm', hk, hsplit ▸ hend, ?_⟩
  obtain ⟨day⟩ := d
  rw [mk.injEq]
  simp only at hsplit ⊢
  omega

/-- What such a day is taken apart to: the months of a year begin with January. -/
theorem parts_eq (era : Int) {y m k : Int} (hy : 0 ≤ y) (hy' : y < 400) (hm : 0 ≤ m)
    (hm' : m ≤ 11) (hk : 0 ≤ k) (hend : monthStart y m + k < monthEnd y m) :
    parts ⟨era * 146097 + monthStart y m + k - epochShift⟩ =
      let month := if m < 10 then m + 3 else m - 9
      ⟨y + era * 400 + (if month ≤ 2 then 1 else 0), month.toNat, (k + 1).toNat⟩ := by
  obtain ⟨n, hn⟩ : ∃ n, n = monthStart y m + k := ⟨_, rfl⟩
  have hyear : daysToYear y ≤ n ∧ n < daysToNextYear y ∧ 0 ≤ n ∧ n < 146097 := by
    unfold monthEnd monthStart daysToNextYear daysToYear at *
    split at hend <;> split <;> omega
  have hera : era * 146097 + monthStart y m + k = era * 146097 + n := by omega
  have hera' : (era * 146097 + n) / 146097 = era := by omega
  have hofEra : era * 146097 + n - era * 146097 = n := by omega
  have hofYear : n - (365 * y + y / 4 - y / 100) = (153 * m + 2) / 5 + k := by
    unfold monthStart daysToYear at hn
    omega
  have hmonth : (5 * ((153 * m + 2) / 5 + k) + 2) / 153 = m := by
    unfold monthEnd monthStart daysToNextYear daysToYear at hend
    split at hend
    · split at hend <;> omega
    · omega
  have hofMonth : (153 * m + 2) / 5 + k - (153 * m + 2) / 5 + 1 = k + 1 := by omega
  rw [parts, hera]
  simp only [Int.sub_add_cancel, hera', hofEra]
  rw [← yearHolding, yearHolding_eq hy hy' hyear.1 hyear.2.1, hofYear, hmonth, hofMonth]

/-! ### Year, month and day -/

/-- The year in which a month lies, where years begin with March. -/
def marchYear (year : Int) (month : Nat) : Int := if month ≤ 2 then year - 1 else year

/-- The number of a month, where years begin with March. -/
def monthFromMarch (month : Nat) : Int := if month ≤ 2 then month + 9 else month - 3

theorem ofYmd_day (year : Int) (month dayOfMonth : Nat) :
    (ofYmd year month dayOfMonth).day =
      marchYear year month / 400 * 146097 +
        monthStart (marchYear year month % 400) (monthFromMarch month) + (dayOfMonth - 1) -
          epochShift := by
  unfold ofYmd monthStart daysToYear marchYear monthFromMarch
  simp only
  split <;> omega

/-- A month ends where the next one begins. -/
theorem firstOfNextMonth_day (year : Int) {month : Nat} (hfirst : 1 ≤ month)
    (hlast : month ≤ 12) :
    (firstOfNextMonth year month).day =
      marchYear year month / 400 * 146097 +
        monthEnd (marchYear year month % 400) (monthFromMarch month) - epochShift := by
  unfold firstOfNextMonth ofYmd monthEnd monthStart daysToNextYear daysToYear marchYear
    monthFromMarch
  interval_cases month <;> simp <;> omega

/-- Whether a year has a leap day. -/
def IsLeap (year : Int) : Prop := year % 4 = 0 ∧ (year % 100 ≠ 0 ∨ year % 400 = 0)

instance (year : Int) : Decidable (IsLeap year) :=
  inferInstanceAs (Decidable (year % 4 = 0 ∧ (year % 100 ≠ 0 ∨ year % 400 = 0)))

/-- The months have the lengths that the Gregorian calendar gives them. -/
theorem monthLength_eq (year : Int) {month : Nat} (hfirst : 1 ≤ month) (hlast : month ≤ 12) :
    monthLength year month =
      if month = 2 then (if IsLeap year then 29 else 28)
      else if month ∈ [4, 6, 9, 11] then 30 else 31 := by
  unfold monthLength firstOfNextMonth ofYmd
  by_cases hmonth : month = 2
  · subst hmonth
    by_cases hleap : IsLeap year
    · simp [hleap]
      unfold IsLeap at hleap
      omega
    · simp [hleap]
      unfold IsLeap at hleap
      omega
  · interval_cases month <;> simp at hmonth ⊢

/-- Whether there is such a year, month and day in the Gregorian calendar. -/
structure Parts.IsGregorian (p : Parts) : Prop where
  /-- Months are counted from 1. -/
  month_pos : 1 ≤ p.month
  /-- There are twelve. -/
  month_le : p.month ≤ 12
  /-- Days of a month are counted from 1. -/
  day_pos : 1 ≤ p.dayOfMonth
  /-- There are as many as the month has in that year. -/
  day_le : p.dayOfMonth ≤
    if p.month = 2 then (if IsLeap p.year then 29 else 28)
    else if p.month ∈ [4, 6, 9, 11] then 30 else 31

/-- The date of a year, month and day. -/
def Parts.date (p : Parts) : CivilDate := ofYmd p.year p.month p.dayOfMonth

/-- Every date is a day of the Gregorian calendar, and that of its year, month and day. -/
theorem isGregorian_parts (d : CivilDate) : d.parts.IsGregorian ∧ d.parts.date = d := by
  obtain ⟨era, y, m, k, hy, hy', hm, hm', hk, hend, rfl⟩ := exists_month_of_era d
  obtain ⟨month, hmonth⟩ : ∃ month, month = if m < 10 then m + 3 else m - 9 := ⟨_, rfl⟩
  obtain ⟨year, hyear⟩ : ∃ year, year = y + era * 400 + if month ≤ 2 then 1 else 0 := ⟨_, rfl⟩
  have hmarch : marchYear year month.toNat = y + era * 400 := by
    unfold marchYear
    split at hyear <;> split <;> omega
  have hfromMarch : monthFromMarch month.toNat = m := by
    unfold monthFromMarch
    split <;> split at hmonth <;> omega
  have hera : (y + era * 400) / 400 = era ∧ (y + era * 400) % 400 = y := by omega
  have hbounds : 1 ≤ month.toNat ∧ month.toNat ≤ 12 := by
    split at hmonth <;> omega
  have hfirst := ofYmd_day year month.toNat 1
  have hday := ofYmd_day year month.toNat (k + 1).toNat
  have hnext := firstOfNextMonth_day year hbounds.1 hbounds.2
  rw [hmarch, hfromMarch, hera.1, hera.2] at hfirst hday hnext
  rw [parts_eq era hy hy' hm hm' hk hend, ← hmonth]
  simp only [← hyear]
  refine ⟨⟨hbounds.1, hbounds.2, ?_, ?_⟩, congrArg CivilDate.mk (hday.trans ?_)⟩
  · simp only
    omega
  · simp only
    rw [← monthLength_eq year hbounds.1 hbounds.2]
    unfold monthLength
    omega
  · omega

/-- A day of the Gregorian calendar is the year, month and day of its date. -/
theorem Parts.IsGregorian.parts_date {p : Parts} (h : p.IsGregorian) : p.date.parts = p := by
  obtain ⟨year, month, dayOfMonth⟩ := p
  obtain ⟨hfirst, hlast, hdayPos, hdayLe⟩ := h
  simp only at hfirst hlast hdayPos hdayLe
  obtain ⟨m, hm⟩ : ∃ m, m = monthFromMarch month := ⟨_, rfl⟩
  obtain ⟨y, hy⟩ : ∃ y, y = marchYear year month := ⟨_, rfl⟩
  have hbegin := ofYmd_day year month 1
  have hday := ofYmd_day year month dayOfMonth
  have hnext := firstOfNextMonth_day year hfirst hlast
  rw [← hm, ← hy] at hbegin hday hnext
  have hend : monthStart (y % 400) m + (dayOfMonth - 1) < monthEnd (y % 400) m := by
    rw [← monthLength_eq year hfirst hlast, monthLength] at hdayLe
    omega
  have hrange : 0 ≤ m ∧ m ≤ 11 := by
    unfold monthFromMarch at hm
    split at hm <;> omega
  have hparts := parts_eq (y / 400) (by omega) (by omega) hrange.1 hrange.2 (by omega) hend
  have hdate : ofYmd year month dayOfMonth =
      ⟨y / 400 * 146097 + monthStart (y % 400) m + (dayOfMonth - 1) - epochShift⟩ :=
    congrArg CivilDate.mk hday
  rw [Parts.date, hdate, hparts]
  unfold monthFromMarch at hm
  unfold marchYear at hy
  simp only [Parts.mk.injEq]
  split at hm <;> split <;> omega

/-- So a date is known by its year, month and day. -/
theorem Parts.IsGregorian.map_parts_eq_some_iff {p : Parts} (h : p.IsGregorian)
    (o : Option CivilDate) : o.map parts = some p ↔ o = some p.date := by
  rw [Option.map_eq_some_iff]
  constructor
  · rintro ⟨d, rfl, rfl⟩
    rw [d.isGregorian_parts.2]
  · rintro rfl
    exact ⟨p.date, rfl, h.parts_date⟩

end CivilDate

end TransitDwell
