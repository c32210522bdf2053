import TransitDwell.Proofs.Completion

/-!
# Historical dwells

An attempt that has a rate and a headway asks for the dwell of one earlier day after another until
it has as many as the filter takes or has searched all the days it may. A day without a dwell and a
day whose dwell cannot be read are passed over. The configuration has a bound on the dwells that
are needed, one on those that are taken, and one on the days that are searched; three of its checks
hold these against each other.

## What is proved

* The attempt asks no day after the one that completes the dwells (`Attempt.Spaced.questions_eq`).
* It reaches the filter exactly with enough dwells, one at the least
  (`Attempt.Spaced.filtered_iff`).
* If every day has a dwell, the three checks are the right ones: apart from a configuration that
  needs no dwells, the filter is reached exactly if they pass
  (`Attempt.history_gathers_first_days`).
-/

namespace TransitDwell

/-! ### The bounds on days -/

namespace ConfigFault

/-- Whether the check is one of the bounds on days. -/
def isOfDays : ConfigFault → Bool
  | noMinDays | maxBelowMin _ _ | searchBelowMin _ _ => true
  | initialError | retention | maxHeadway | secondsPerBoarding => false

end ConfigFault

namespace DwellConfig

variable {α : Type} [Scalar α] (c : DwellConfig α)

/-- The bounds on days leave room for the dwells that are needed. -/
structure LeavesRoom : Prop where
  /-- A dwell is needed. -/
  needed : 1 ≤ c.minDays
  /-- As many are taken as are needed. -/
  taken : c.minDays ≤ c.maxDays
  /-- As many days are searched. -/
  searched : c.minDays ≤ c.searchDays

/-- The checks of the bounds on days come before all others. -/
theorem leavesRoom_iff_fault :
    c.LeavesRoom ↔ ∀ fault, c.fault? = some fault → fault.isOfDays = false := by
  constructor
  · rintro ⟨hneeded, htaken, hsearched⟩ fault hfault
    rw [fault?, if_neg (Nat.one_le_iff_ne_zero.mp hneeded), if_neg (Nat.not_lt.mpr htaken),
      if_neg (Nat.not_lt.mpr hsearched)] at hfault
    -- what may still fail are the checks of other settings
    grind [ConfigFault.isOfDays]
  · intro hother
    have hneeded : c.minDays ≠ 0 := by
      intro hzero
      have hfault : c.fault? = some .noMinDays := if_pos hzero
      exact Bool.noConfusion (hother _ hfault)
    have htaken : ¬ c.maxDays < c.minDays := by
      intro hbelow
      have hfault : c.fault? = some (.maxBelowMin c.maxDays c.minDays) := by
        rw [fault?, if_neg hneeded, if_pos hbelow]
      exact Bool.noConfusion (hother _ hfault)
    have hsearched : ¬ c.searchDays < c.minDays := by
      intro hbelow
      have hfault : c.fault? = some (.searchBelowMin c.searchDays c.minDays) := by
        rw [fault?, if_neg hneeded, if_neg htaken, if_pos hbelow]
      exact Bool.noConfusion (hother _ hfault)
    exact ⟨Nat.one_le_iff_ne_zero.mpr hneeded, Nat.not_lt.mp htaken, Nat.not_lt.mp hsearched⟩

theorem leavesRoom_of_isValid (h : c.isValid = true) : c.LeavesRoom := by
  obtain ⟨hneeded, htaken, hsearched, -⟩ := c.isValid_iff.mp h
  exact ⟨hneeded, htaken, hsearched⟩

/-- If every day searched had a dwell, enough would be taken, and one at the least, in two cases. -/
theorem enough_iff_leavesRoom :
    c.minDays ≤ min c.maxDays c.searchDays ∧ 0 < min c.maxDays c.searchDays ↔
      c.LeavesRoom ∨ c.minDays = 0 ∧ 0 < c.maxDays ∧ 0 < c.searchDays := by
  rw [Nat.le_min, Nat.lt_min]
  constructor
  · rintro ⟨⟨htaken, hsearched⟩, hpositive⟩
    rcases Nat.eq_zero_or_pos c.minDays with hzero | hneeded
    · exact .inr ⟨hzero, hpositive⟩
    · exact .inl ⟨hneeded, htaken, hsearched⟩
  · rintro (⟨hneeded, htaken, hsearched⟩ | ⟨hzero, hmax, hsearch⟩)
    · exact ⟨⟨htaken, hsearched⟩, Nat.le_trans hneeded htaken, Nat.le_trans hneeded hsearched⟩
    · exact ⟨⟨hzero ▸ Nat.zero_le _, hzero ▸ Nat.zero_le _⟩, hmax, hsearch⟩

end DwellConfig

/-! ### The stage of history -/

namespace Attempt

section Stage

variable {α : Type} [Scalar α] {c : DwellConfig α} {s : Sources α} {now : Int} {stores : Stores α}
  {r : DwellRequest} {context : PredictionContext} {ts : Int} {rate : α} {headway : Int}

theorem Spaced.questions_eq (h : Spaced c s now stores r context ts rate headway) :
    (make c s now stores r).questions =
      [.rate r.route r.trip r.stop ts, .headway r.stop r.route ts, .doors r.vehicle] ++
        (List.range (DaysBack.asked (DwellConfig.dwellBack s r ts) c.maxDays c.searchDays)).map
          fun back => .dwell r.route r.stop (DaysBack.before ts (back + 1)) := by
  have hts : r.adjustedArrival.getD 0 = ts := by rw [h.adjustedArrival_eq, Option.getD_some]
  simp only [make, h.ending_eq, DwellConfig.endingWith, hts]
  -- the days have been asked wherever the attempt ends from here on
  split
  · rfl
  · split <;> rfl

theorem Spaced.filtered_iff (h : Spaced c s now stores r context ts rate headway) :
    (∃ daysAsked step, c.ending s now stores r = .filtered context daysAsked step) ↔
      c.minDays ≤ (collected c s r ts).length ∧ 0 < (collected c s r ts).length := by
  constructor
  · rintro ⟨daysAsked, step, hending⟩
    have hneeded : c.minDays ≤ (collected c s r ts).length := by
      rcases Nat.lt_or_ge (collected c s r ts).length c.minDays with hfew | hneeded
      · obtain ⟨_, htooFew, -, hstep⟩ := (Stops.tooFewDwells h hfew).exists_ending
        rw [← htooFew, hending] at hstep
        cases hstep
      · exact hneeded
    refine ⟨hneeded, List.length_pos_iff.mpr fun hnil => ?_⟩
    rw [(Completes.mk h hneeded).ending_eq_match, hnil] at hending
    cases hending
  · rintro ⟨hneeded, hsome⟩
    obtain ⟨step, hstep⟩ := FilterStep.exists_run (c.rawDwellFor s r rate headway)
      (c.priorFor s now stores r) (List.length_pos_iff.mp hsome)
    refine ⟨DaysBack.asked (DwellConfig.dwellBack s r ts) c.maxDays c.searchDays, step, ?_⟩
    rw [(Completes.mk h hneeded).ending_eq_match, hstep]

/-- With a dwell for every day as many are collected as are taken and days are searched. -/
theorem length_collected
    (h : ∀ back, 1 ≤ back → back ≤ c.searchDays →
      ∃ dwell, s.dwell r.route r.stop (DaysBack.before ts back) = .ok (some dwell)) :
    (collected c s r ts).length = min c.maxDays c.searchDays := by
  refine DaysBack.length_gather_of_isSome _ fun back hone hsearched => ?_
  obtain ⟨dwell, hdwell⟩ := h back hone hsearched
  rw [DwellConfig.dwellBack, Lookup.value?_eq_some.mpr hdwell, Option.isSome_some]

theorem outcome_ne_noSamples (hmin : 1 ≤ c.minDays) :
    (make c s now stores r).outcome ≠ .declined .noSamples := by
  rcases stops_or_completes c s now stores r with
    ⟨answer, hstops⟩ | ⟨context, ts, rate, headway, hcompletes⟩
  · rw [hstops.make_eq.1]
    exact hstops.answer_ne.1
  · obtain ⟨step, -, -, -, houtcome⟩ := hcompletes.make_eq hmin
    rw [houtcome]
    nofun

end Stage

/-! ### Main statement -/

/-- **The history is searched exactly, and the bounds on days are the right ones.** The collected
dwells are the nearest of those that the days searched have, as many as are taken. The attempt asks
for yesterday's dwell and on to the day that completes them, or to the last of the days. If every
day has a dwell, the filter is reached with a dwell exactly if the checks on days pass or no dwells
are needed but some are taken and some days searched. A valid configuration never leaves the filter
without samples. -/
theorem history_gathers_first_days {α : Type} [Scalar α] (c : DwellConfig α) (s : Sources α)
    (now : Int) (stores : Stores α) (r : DwellRequest) :
    (∀ ts, collected c s r ts =
      (DaysBack.found (DwellConfig.dwellBack s r ts) c.searchDays).take c.maxDays) ∧
    (∀ context ts rate headway, Spaced c s now stores r context ts rate headway →
      ∃ daysAsked,
        (make c s now stores r).questions =
          [.rate r.route r.trip r.stop ts, .headway r.stop r.route ts, .doors r.vehicle] ++
            (List.range daysAsked).map (fun back =>
              .dwell r.route r.stop (DaysBack.before ts (back + 1))) ∧
        ∀ back, back < daysAsked ↔ back < c.searchDays ∧
          (DaysBack.found (DwellConfig.dwellBack s r ts) back).length < c.maxDays) ∧
    (∀ context ts rate headway, Spaced c s now stores r context ts rate headway →
      (∀ back, 1 ≤ back → back ≤ c.searchDays →
        ∃ dwell, s.dwell r.route r.stop (DaysBack.before ts back) = .ok (some dwell)) →
      ((∃ daysAsked step, c.ending s now stores r = .filtered context daysAsked step ∧
          0 < (collected c s r ts).length) ↔
        c.LeavesRoom ∨ c.minDays = 0 ∧ 0 < c.maxDays ∧ 0 < c.searchDays)) ∧
    (c.LeavesRoom ↔ ∀ fault, c.fault? = some fault → fault.isOfDays = false) ∧
    (c.isValid = true → (∀ daysAsked, c.ending s now stores r ≠ .noSamples daysAsked) ∧
      (make c s now stores r).outcome ≠ .declined .noSamples) := by
  refine ⟨?_, ?_, ?_, c.leavesRoom_iff_fault, ?_⟩
  · intro ts
    exact DaysBack.gather_eq_take (DwellConfig.dwellBack s r ts) c.maxDays c.searchDays
  · intro context ts rate headway hspaced
    refine ⟨_, hspaced.questions_eq, fun back => ?_⟩
    exact DaysBack.lt_asked_iff (DwellConfig.dwellBack s r ts) c.maxDays c.searchDays
  · intro context ts rate headway hspaced hevery
    have hlength := length_collected hevery
    rw [← c.enough_iff_leavesRoom, ← hlength, ← hspaced.filtered_iff]
    constructor
    · rintro ⟨daysAsked, step, hending, -⟩
      exact ⟨daysAsked, step, hending⟩
    · intro hfiltered
      obtain ⟨-, hsome⟩ := hspaced.filtered_iff.mp hfiltered
      obtain ⟨daysAsked, step, hending⟩ := hfiltered
      exact ⟨daysAsked, step, hending, hsome⟩
  · intro hvalid
    have hneeded := (c.leavesRoom_of_isValid hvalid).needed
    exact ⟨c.ending_ne_noSamples s now stores r hneeded, outcome_ne_noSamples hneeded⟩

/-- Settings that take two dwells from five days. -/
def twoOfFive : DwellConfig Rat := { minDays := 2, maxDays := 2, searchDays := 5 }

/-- Sources that cannot read yesterday's dwell, and have none for the third day back. -/
def patchySources : Sources Rat :=
  { steadySources with
    dwell := fun _ _ ts =>
      if ts = 370000 - msPerDay then .error (.unavailable "unreadable")
      else if ts = 370000 - 3 * msPerDay then .ok none
      else .ok (some (20000 - ts / msPerDay)) }

theorem steadyRequest_spaced (ask : (route stop : String) → Int → Lookup Int) :
    Spaced twoOfFive { steadySources with dwell := ask } 7 (.empty 0) steadyRequest
      ⟨"t", 1, "1", 300000⟩ 370000 0.125 600 where
  later := by decide
  data := rfl
  scheduled := ⟨310000, rfl, by decide, rfl⟩
  fresh := rfl
  rated := .inl rfl
  spaced := ⟨600999, rfl, by decide, by decide⟩

/-- From patchy sources the second and the fourth day are collected, and the fifth is not asked.
With a dwell for every day the filter is reached. -/
theorem patchyDays_gathered :
    collected twoOfFive patchySources steadyRequest 370000 = [20002, 20004] ∧
    (make twoOfFive patchySources 7 (.empty 0) steadyRequest).questions =
      [.rate "r" "t" "pier" 370000, .headway "pier" "r" 370000, .doors "1",
        .dwell "r" "pier" (370000 - msPerDay), .dwell "r" "pier" (370000 - 2 * msPerDay),
        .dwell "r" "pier" (370000 - 3 * msPerDay), .dwell "r" "pier" (370000 - 4 * msPerDay)] ∧
    (∃ daysAsked step, twoOfFive.ending steadySources 7 (.empty 0) steadyRequest =
      .filtered ⟨"t", 1, "1", 300000⟩ daysAsked step) ∧
    ∀ daysAsked, twoOfFive.ending patchySources 7 (.empty 0) steadyRequest ≠
      .noSamples daysAsked := by
  obtain ⟨hcollected, hquestions, -, -, hvalid⟩ :=
    history_gathers_first_days twoOfFive patchySources 7 (.empty 0) steadyRequest
  obtain ⟨-, -, hfiltered, -, -⟩ :=
    history_gathers_first_days twoOfFive steadySources 7 (.empty 0) steadyRequest
  have hleaves : twoOfFive.LeavesRoom := ⟨by decide, by decide, by decide⟩
  refine ⟨?_, ?_, ?_, (hvalid (by decide +kernel)).1⟩
  · rw [hcollected]
    decide
  · obtain ⟨daysAsked, hquestions, hasked⟩ := hquestions _ _ _ _ (steadyRequest_spaced _)
    have hfour : daysAsked = 4 := by
      have hlast := (hasked 3).mpr (by decide)
      have hover := mt (hasked 4).mp (by decide)
      omega
    rw [hquestions, hfour]
    decide
  · obtain ⟨daysAsked, step, hending, -⟩ := (hfiltered _ _ _ _ (steadyRequest_spaced _)
      fun _ _ _ => ⟨20000, rfl⟩).mpr (.inl hleaves)
    exact ⟨daysAsked, step, hending⟩

end Attempt

end TransitDwell
