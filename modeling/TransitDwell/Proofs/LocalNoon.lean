import TransitDwell.Proofs.Calendar
import TransitDwell.Time.Zone

/-!
# Noon and midnight of a service day

The midnight of a service day is found by way of its noon. Local noon is looked for among the
instants that local clocks can show it at, and midnight is twelve hours before. The way back is the
service day that is shown twelve hours after midnight.

Less than a day from either end of time this does not work out. There are dates whose noon is not an
instant that has a date. Such a date counts from 00:00 UTC, as does one whose noon is skipped or
shown twice; and then its midnight may be on another day. There are dates, too, whose noon has a
date, but twelve hours before it nothing has, and instants at which local clocks show a date beyond
the calendar. The program stops at these. What can be told is said by `Zone.TellsMidnight` and
`Zone.TellsDate`.

## What is proved

* The instants found are those that show a local time (`Zone.mem_instantsShowing_iff`), so that a
  local time is resolved exactly if one dated instant shows it (`Zone.instantShowing?_eq_some_iff`).
* In a zone whose clocks are never changed, the midnight of a date can be told if its noon and the
  instant twelve hours before it have a date (`Zone.tellsMidnight_iff_of_constant`).
* Main statement: `midnight_inverts_serviceDate`. It needs a noon (`noon_beyond_time_not_inverted`).
-/

namespace TransitDwell

open CivilDate

namespace Zone

variable {z : Zone} {ts localTime : Int} {d : CivilDate}

/-! ### Resolving local times -/

/-- The instants found are all those that show the local time. -/
theorem mem_instantsShowing_iff :
    ts ∈ z.instantsShowing localTime ↔ isDated ts = true ∧ z.localMs ts = localTime := by
  unfold instantsShowing
  rw [List.mem_filter, List.mem_map, Bool.and_eq_true, decide_eq_true_eq]
  constructor
  · rintro ⟨-, hshown, hdated⟩
    exact ⟨hdated, hshown⟩
  · rintro ⟨hdated, hshown⟩
    refine ⟨⟨z.offsetAt (ts / msPerSecond), z.offsetAt_mem _, ?_⟩, hshown, hdated⟩
    rw [← hshown, localMs, offsetMs]
    omega

/-- A local time is resolved to the one dated instant that shows it. -/
theorem instantShowing?_eq_some_iff :
    z.instantShowing? localTime = some ts ↔
      (isDated ts = true ∧ z.localMs ts = localTime) ∧
        ∀ other, isDated other = true ∧ z.localMs other = localTime → other = ts := by
  simp only [← mem_instantsShowing_iff]
  unfold instantShowing?
  cases z.instantsShowing localTime with
  | nil => simp
  | cons first others =>
    simp only [Option.ite_none_right_eq_some, List.all_eq_true, decide_eq_true_eq,
      Option.some.injEq, List.mem_cons]
    constructor
    · rintro ⟨hall, rfl⟩
      exact ⟨.inl rfl, fun other hother => hother.elim id (hall other)⟩
    · rintro ⟨-, hunique⟩
      obtain rfl := hunique first (.inl rfl)
      exact ⟨fun other hother => hunique other (.inr hother), rfl⟩

/-- Whether the calendar, which reaches as far as time, has a date. -/
def InCalendar (d : CivilDate) : Prop := isDated (d.day * msPerDay) = true

instance (d : CivilDate) : Decidable (InCalendar d) := inferInstanceAs (Decidable (_ = true))

/-- Whether there is exactly one instant at which local clocks show noon of a date. -/
def HasOneNoon (z : Zone) (d : CivilDate) : Prop := ∃! ts, z.localMs ts = noon d

/-- Whether the midnight of a date can be told by its noon. -/
structure TellsMidnight (z : Zone) (d : CivilDate) : Prop where
  /-- The calendar has the date. -/
  inCalendar : InCalendar d
  /-- Its noon is shown exactly once. -/
  oneNoon : z.HasOneNoon d
  /-- The instant that shows it has a date, and so has the one twelve hours before. -/
  dated : ∀ ts, z.localMs ts = noon d → isDated ts = true ∧ isDated (ts - msPerDay / 2) = true

/-- Twelve hours after such a midnight local clocks show noon. -/
theorem TellsMidnight.midnight_spec (h : z.TellsMidnight d) :
    isDated (z.midnight d + msPerDay / 2) = true ∧
      z.localMs (z.midnight d + msPerDay / 2) = noon d := by
  obtain ⟨ts, hshown, hunique⟩ := h.oneNoon
  have hdated : isDated ts = true := (h.dated ts hshown).1
  have hresolved : z.instantShowing? (noon d) = some ts :=
    instantShowing?_eq_some_iff.mpr ⟨⟨hdated, hshown⟩, fun other hother => hunique other hother.2⟩
  rw [midnight, hresolved, Int.sub_add_cancel]
  exact ⟨hdated, hshown⟩

/-! ### Service days -/

/-- A service day is shown from its local midnight until the next. -/
theorem serviceDate_eq_some_iff :
    z.serviceDate ts = some d ↔
      isDated ts = true ∧ d.day * msPerDay ≤ z.localMs ts ∧
        z.localMs ts < (d.day + 1) * msPerDay := by
  obtain ⟨day⟩ := d
  unfold serviceDate msPerDay
  rw [Option.ite_none_right_eq_some, Option.some.injEq, CivilDate.mk.injEq]
  refine and_congr_right fun _ => ?_
  simp only
  omega

/-- Whether the service day of an instant can be told: the instant has a date, and the calendar has
the date that local clocks show. -/
structure TellsDate (z : Zone) (ts : Int) : Prop where
  /-- The instant has a date. -/
  dated : isDated ts = true
  /-- The calendar has the date that is shown. -/
  inCalendar : InCalendar ⟨z.localMs ts / msPerDay⟩

/-- The service day twelve hours after a midnight that can be told is the date that it is the
midnight of. -/
theorem TellsMidnight.serviceDate_midnight (h : z.TellsMidnight d) :
    z.serviceDate (z.midnight d + msPerDay / 2) = some d := by
  obtain ⟨hdated, hnoon⟩ := h.midnight_spec
  rw [serviceDate_eq_some_iff, hnoon]
  unfold noon msPerDay
  exact ⟨hdated, by omega, by omega⟩

theorem TellsMidnight.tellsDate_midnight (h : z.TellsMidnight d) :
    z.TellsDate (z.midnight d + msPerDay / 2) := by
  obtain ⟨hdated, hnoon⟩ := h.midnight_spec
  have hday : (⟨noon d / msPerDay⟩ : CivilDate) = d := by
    unfold noon msPerDay
    congr 1
    omega
  exact ⟨hdated, by rw [hnoon, hday]; exact h.inCalendar⟩

/-! ### Clocks that are never changed -/

section Constant

variable {offset : Int} (hconstant : ∀ second, z.offsetAt second = offset)
include hconstant

theorem localMs_of_constant (ts : Int) : z.localMs ts = ts + offset * msPerSecond := by
  rw [localMs, offsetMs, hconstant]

theorem localMs_eq_iff_of_constant {localTime : Int} :
    z.localMs ts = localTime ↔ ts = localTime - offset * msPerSecond := by
  rw [localMs_of_constant hconstant]
  omega

/-- There every date has one noon. -/
theorem hasOneNoon_of_constant (d : CivilDate) : z.HasOneNoon d :=
  ⟨noon d - offset * msPerSecond, (localMs_eq_iff_of_constant hconstant).mpr rfl,
    fun _ hother => (localMs_eq_iff_of_constant hconstant).mp hother⟩

theorem tellsMidnight_iff_of_constant :
    z.TellsMidnight d ↔ InCalendar d ∧ isDated (noon d - offset * msPerSecond) = true ∧
      isDated (noon d - offset * msPerSecond - msPerDay / 2) = true := by
  constructor
  · rintro ⟨hd, -, hdated⟩
    exact ⟨hd, hdated _ ((localMs_eq_iff_of_constant hconstant).mpr rfl)⟩
  · rintro ⟨hd, hdated⟩
    refine ⟨hd, hasOneNoon_of_constant hconstant d, fun ts hshown => ?_⟩
    rwa [(localMs_eq_iff_of_constant hconstant).mp hshown]

/-- There a service day is the twenty-four hours from its midnight on. -/
theorem serviceDate_eq_some_iff_of_constant (h : z.TellsMidnight d) (hts : isDated ts = true) :
    z.serviceDate ts = some d ↔ z.midnight d ≤ ts ∧ ts < z.midnight d + msPerDay := by
  have hmidnight := h.midnight_spec.2
  rw [localMs_of_constant hconstant] at hmidnight
  rw [serviceDate_eq_some_iff, localMs_of_constant hconstant, and_iff_right hts]
  unfold noon msPerDay at *
  omega

end Constant

end Zone

/-- **Service date and midnight are inverse through noon.** In every zone, twelve hours after the
midnight of a date, if that can be told by its noon, the service day can be told and is that date,
its year, month and day; so different such dates have different midnights. In a zone whose clocks
are never changed, of the instants whose service day can be told, those of such a date are the ones
from its midnight on for twenty-four hours. -/
theorem midnight_inverts_serviceDate (z : Zone) :
    (∀ p : Parts, p.IsGregorian → z.TellsMidnight p.date →
      z.TellsDate (z.midnight p.date + msPerDay / 2) ∧
        (z.serviceDate (z.midnight p.date + msPerDay / 2)).map parts = some p) ∧
    (∀ p q : Parts, p.IsGregorian → q.IsGregorian → z.TellsMidnight p.date →
      z.TellsMidnight q.date → z.midnight p.date = z.midnight q.date → p = q) ∧
    ∀ offset, (∀ second, z.offsetAt second = offset) → ∀ p : Parts, p.IsGregorian →
      z.TellsMidnight p.date → ∀ ts, z.TellsDate ts →
        ((z.serviceDate ts).map parts = some p ↔
          z.midnight p.date ≤ ts ∧ ts < z.midnight p.date + msPerDay) := by
  have hback : ∀ p : Parts, p.IsGregorian → z.TellsMidnight p.date →
      (z.serviceDate (z.midnight p.date + msPerDay / 2)).map parts = some p :=
    fun p hp hmidnight => (hp.map_parts_eq_some_iff _).mpr hmidnight.serviceDate_midnight
  refine ⟨fun p hp hmidnight => ⟨hmidnight.tellsDate_midnight, hback p hp hmidnight⟩,
    fun p q hp hq hmidnight hmidnight' hsame => ?_,
    fun offset hconstant p hp hmidnight ts hts => ?_⟩
  · have hp' := hback p hp hmidnight
    rw [hsame, hback q hq hmidnight'] at hp'
    exact (Option.some.inj hp').symm
  · rw [hp.map_parts_eq_some_iff]
    exact Zone.serviceDate_eq_some_iff_of_constant hconstant hmidnight hts.dated

/-- An hour ahead of UTC the midnight of the second date of all can be told by its noon, and so can
the date of the instant just before it. -/
theorem second_date_inverted :
    let z := Zone.fixed "Etc/GMT-1" 3600
    let second : Parts := ⟨-262143, 1, 2⟩
    z.TellsMidnight second.date ∧ z.midnight second.date = -8334601146000000 ∧
      (z.serviceDate (z.midnight second.date + msPerDay / 2)).map parts = some second ∧
      z.TellsDate (z.midnight second.date - 1) ∧
      (z.serviceDate (z.midnight second.date - 1)).map parts ≠ some second := by
  intro z second
  have hconstant : ∀ s, z.offsetAt s = 3600 := fun _ => rfl
  have hgregorian : second.IsGregorian := ⟨by decide, by decide, by decide, by decide⟩
  have hmidnight : z.TellsMidnight second.date :=
    (Zone.tellsMidnight_iff_of_constant hconstant).mpr ⟨by decide, by decide, by decide⟩
  have hts : z.TellsDate (z.midnight second.date - 1) := ⟨by decide, by decide⟩
  obtain ⟨hback, -, hdays⟩ := midnight_inverts_serviceDate z
  refine ⟨hmidnight, by decide, (hback second hgregorian hmidnight).2, hts, fun hsecond => ?_⟩
  obtain ⟨hle, -⟩ := (hdays 3600 hconstant second hgregorian hmidnight _ hts).mp hsecond
  omega

/-- Fourteen hours ahead of UTC the first date has one noon, but before the first instant that has a
date. Its midnight is then 00:00 UTC, and twelve hours after it the next date is shown. -/
theorem noon_beyond_time_not_inverted :
    let z := Zone.fixed "Etc/GMT-14" 50400
    let first : Parts := ⟨-262143, 1, 1⟩
    let ts := z.midnight first.date + msPerDay / 2
    first.IsGregorian ∧ Zone.InCalendar first.date ∧ (∀ second, z.offsetAt second = 50400) ∧
      z.HasOneNoon first.date ∧ z.TellsDate ts ∧
      ts = -8334601185600000 ∧ (z.serviceDate ts).map parts = some ⟨-262143, 1, 2⟩ ∧
      z.midnight first.date ≤ ts ∧ ts < z.midnight first.date + msPerDay := by
  intro z first ts
  have hconstant : ∀ second, z.offsetAt second = 50400 := fun _ => rfl
  exact ⟨⟨by decide, by decide, by decide, by decide⟩, by decide, hconstant,
    Zone.hasOneNoon_of_constant hconstant first.date, ⟨by decide, by decide⟩, by decide, by decide,
    by decide, by decide⟩

end TransitDwell
