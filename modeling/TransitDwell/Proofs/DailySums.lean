import Mathlib.Algebra.BigOperators.Ring.Finset
import Mathlib.Algebra.Order.BigOperators.Group.List
import Mathlib.Tactic.Linarith
import TransitDwell.Proofs.HistorySweep
import TransitDwell.Proofs.StopHistory

/-!
# Daily sums

A match that is recorded counts for one day: the route, the stop and the date of its nearest event.
What it adds to the total of that day hangs on it and on the events that are held at the time, as
these tell whether its vehicle had a usable headway, but not on any total. So what a run counts can
be listed beside it (`PassengerHistory.counted`), and the total of a day is compared with what the
list has for that day.

A total that is swept begins anew. The comparison is for days whose total no sweep of the run
removes (`PassengerHistory.KeepsTotal`); a sweep that comes before the first observation of a day
removes nothing. Headways are added up as rational numbers here.

## What is proved

* What is held for a day sums up what was counted for it (`PassengerHistory.after_sumsUp`).
* The rate of a sum of boardings and headways lies between the least and the greatest rate in it
  (`Rated.rate_sum_between`).
* Over every run of a history that is empty to begin with, every usable observation is counted once,
  and what follows for the total and the rate of a day: `observations_counted_once`.
-/

namespace TransitDwell

/-! ### What is counted -/

/-- An observation that is counted. -/
structure Counted where
  /-- The day that it counts for. -/
  day : RouteStopDay
  /-- The observation. -/
  observation : Observation
  /-- The headway of its vehicle in milliseconds, if it was usable. -/
  headway : Option Int

/-- Boardings that count towards a rate. -/
structure Rated where
  /-- Passengers who got on. -/
  boardings : Nat
  /-- The headway in seconds. -/
  seconds : ℚ
  deriving DecidableEq

/-- Boardings per second of headway. -/
def Rated.rate (r : Rated) : ℚ := r.boardings / r.seconds

namespace Rated

/-- Boardings and headways in all. -/
def sum (rs : List Rated) : Rated := ⟨(rs.map (·.boardings)).sum, (rs.map (·.seconds)).sum⟩

variable {rs : List Rated} (hne : rs ≠ []) (hpos : ∀ r ∈ rs, 0 < r.seconds)
include hne hpos

theorem seconds_sum_pos : 0 < (sum rs).seconds :=
  List.sum_pos _ (List.forall_mem_map.mpr hpos) (by simpa using hne)

/-- What no rate is below, the rate of the sum is not below. -/
theorem le_rate_sum {low : ℚ} (hlow : ∀ r ∈ rs, low ≤ r.rate) : low ≤ (sum rs).rate := by
  rw [rate, le_div_iff₀ (seconds_sum_pos hne hpos)]
  calc low * (rs.map (·.seconds)).sum = (rs.map fun r => low * r.seconds).sum :=
        (rs.sum_map_mul_left _ low).symm
    _ ≤ (rs.map fun r => (r.boardings : ℚ)).sum :=
        List.sum_le_sum fun r hr => (le_div_iff₀ (hpos r hr)).mp (hlow r hr)
    _ = ((sum rs).boardings : ℚ) := by simp [sum, Nat.cast_list_sum, Function.comp_def]

/-- What no rate is above, the rate of the sum is not above. -/
theorem rate_sum_le {high : ℚ} (hhigh : ∀ r ∈ rs, r.rate ≤ high) : (sum rs).rate ≤ high := by
  rw [rate, div_le_iff₀ (seconds_sum_pos hne hpos)]
  calc ((sum rs).boardings : ℚ) = (rs.map fun r => (r.boardings : ℚ)).sum := by
        simp [sum, Nat.cast_list_sum, Function.comp_def]
    _ ≤ (rs.map fun r => high * r.seconds).sum :=
        List.sum_le_sum fun r hr => (div_le_iff₀ (hpos r hr)).mp (hhigh r hr)
    _ = high * (rs.map (·.seconds)).sum := rs.sum_map_mul_left _ high

/-- The rate of the sum lies between the least rate and the greatest. -/
theorem rate_sum_between :
    ∃ least ∈ rs, ∃ greatest ∈ rs,
      (∀ r ∈ rs, least.rate ≤ r.rate ∧ r.rate ≤ greatest.rate) ∧
        least.rate ≤ (sum rs).rate ∧ (sum rs).rate ≤ greatest.rate := by
  have hnonempty : rs.toFinset.Nonempty := List.toFinset_nonempty_iff rs |>.mpr hne
  obtain ⟨least, hleast, hlow⟩ := rs.toFinset.exists_min_image rate hnonempty
  obtain ⟨greatest, hgreatest, hhigh⟩ := rs.toFinset.exists_max_image rate hnonempty
  simp only [List.mem_toFinset] at hleast hlow hgreatest hhigh
  exact ⟨least, hleast, greatest, hgreatest, fun r hr => ⟨hlow r hr, hhigh r hr⟩,
    le_rate_sum hne hpos hlow, rate_sum_le hne hpos hhigh⟩

end Rated

namespace Counted

/-- What an observation counts towards a rate, if it had a usable headway. -/
def rated? (c : Counted) : Option Rated :=
  c.headway.map fun ms : Int => ⟨c.observation.boardings, (ms : ℚ) / msPerSecond⟩

/-- What observations count towards a rate. -/
def rated (cs : List Counted) : List Rated := cs.filterMap rated?

/-- The headway, if there is one, is longer than nothing and no longer than the longest that is
usable. -/
def IsUsable (maxHeadwaySecs : Int) (c : Counted) : Prop :=
  ∀ ms, c.headway = some ms → 0 < ms ∧ ms ≤ maxHeadwaySecs * msPerSecond

variable {maxHeadwaySecs : Int} {cs : List Counted}

theorem rated_eq_nil : rated cs = [] ↔ ∀ c ∈ cs, c.headway = none := by
  simp [rated, rated?, Option.eq_none_iff_forall_ne_some]

/-- Then so are the seconds that count towards a rate. -/
theorem seconds_of_mem_rated (h : ∀ c ∈ cs, c.IsUsable maxHeadwaySecs) {r : Rated}
    (hr : r ∈ rated cs) : 0 < r.seconds ∧ r.seconds ≤ maxHeadwaySecs := by
  obtain ⟨c, hc, hrated⟩ := List.mem_filterMap.mp hr
  obtain ⟨ms, hms, rfl⟩ := Option.map_eq_some_iff.mp hrated
  obtain ⟨hpos, hle⟩ := h c hc ms hms
  have hsecond : (0 : ℚ) < msPerSecond := by norm_num [msPerSecond]
  refine ⟨div_pos (by exact_mod_cast hpos) hsecond, ?_⟩
  rw [div_le_iff₀ hsecond]
  exact_mod_cast hle

/-- No more boardings count towards a rate than there are. -/
theorem sum_rated_boardings_le (cs : List Counted) :
    ((rated cs).map (·.boardings)).sum ≤ (cs.map (·.observation.boardings)).sum := by
  induction cs with
  | nil => exact Nat.le_refl 0
  | cons c cs ih =>
    cases hc : c.headway <;> simp [rated, rated?, hc] at ih ⊢ <;> omega

end Counted

/-! ### Sums -/

namespace DailyTotals

/-- A total sums up what was counted. -/
structure Sums (t : DailyTotals ℚ) (cs : List Counted) : Prop where
  /-- Passengers who got on. -/
  boardings : t.boardings = (cs.map (·.observation.boardings)).sum
  /-- Passengers who got off. -/
  alightings : t.alightings = (cs.map (·.observation.alightings)).sum
  /-- Every observation counts once. -/
  observations : t.observations = cs.length
  /-- Passengers who got on where there was a usable headway. -/
  ratedBoardings : t.ratedBoardings = ((Counted.rated cs).map (·.boardings)).sum
  /-- The usable headways. -/
  headwaySecs : t.headwaySecs = ((Counted.rated cs).map (·.seconds)).sum

theorem sums_single (c : Counted) : (single c.observation c.headway).Sums [c] := by
  cases hc : c.headway <;> constructor <;> simp [single, Counted.rated, Counted.rated?, hc] <;> rfl

theorem Sums.add {t u : DailyTotals ℚ} {cs ds : List Counted} (h : t.Sums cs) (h' : u.Sums ds) :
    (t.add u).Sums (cs ++ ds) where
  boardings := by simp [DailyTotals.add, h.boardings, h'.boardings]
  alightings := by simp [DailyTotals.add, h.alightings, h'.alightings]
  observations := by simp [DailyTotals.add, h.observations, h'.observations]
  ratedBoardings := by simp [DailyTotals.add, Counted.rated, h.ratedBoardings, h'.ratedBoardings]
  headwaySecs := by
    simp only [DailyTotals.add, Counted.rated, List.filterMap_append, List.map_append,
      List.sum_append, h.headwaySecs, h'.headwaySecs]

theorem rate_rat (t : DailyTotals ℚ) :
    t.rate = if 0 < t.headwaySecs then some (t.ratedBoardings / t.headwaySecs) else none := by
  have hbelow : Scalar.below (Scalar.ofInt 0) t.headwaySecs = true ↔ 0 < t.headwaySecs := Iff.rfl
  simp only [rate, hbelow]
  rfl

/-- What follows from the sums, where a headway is never longer than a maximum. -/
structure Accounts (t : DailyTotals ℚ) (maxHeadwaySecs : Int) (cs : List Counted) : Prop
    extends Sums t cs where
  /-- Nobody counts towards the rate who does not count. -/
  ratedBoardings_le : t.ratedBoardings ≤ t.boardings
  /-- Headways are not negative. -/
  headwaySecs_nonneg : 0 ≤ t.headwaySecs
  /-- Every observation adds one headway at most. -/
  headwaySecs_le : t.headwaySecs ≤ t.observations * maxHeadwaySecs
  /-- There is a rate if some observation had a usable headway. -/
  rate_isSome : t.rate.isSome ↔ ∃ c ∈ cs, c.headway.isSome
  /-- The rate lies between the least and the greatest rate of the observations. -/
  rate_between : ∀ rate, t.rate = some rate →
    ∃ least ∈ Counted.rated cs, ∃ greatest ∈ Counted.rated cs,
      (∀ r ∈ Counted.rated cs, least.rate ≤ r.rate ∧ r.rate ≤ greatest.rate) ∧
        least.rate ≤ rate ∧ rate ≤ greatest.rate

theorem Sums.accounts {t : DailyTotals ℚ} {cs : List Counted} (h : t.Sums cs)
    {maxHeadwaySecs : Int} (hmax : 0 ≤ maxHeadwaySecs)
    (husable : ∀ c ∈ cs, c.IsUsable maxHeadwaySecs) : t.Accounts maxHeadwaySecs cs := by
  have hseconds : ∀ r ∈ Counted.rated cs, 0 < r.seconds ∧ r.seconds ≤ maxHeadwaySecs :=
    fun r => Counted.seconds_of_mem_rated husable
  have hpos : 0 < t.headwaySecs ↔ Counted.rated cs ≠ [] := by
    rw [h.headwaySecs]
    refine ⟨?_, fun hne => Rated.seconds_sum_pos hne fun r hr => (hseconds r hr).1⟩
    rintro hsum hnil
    rw [hnil] at hsum
    exact lt_irrefl _ hsum
  refine ⟨h, ?_, ?_, ?_, ?_, ?_⟩
  · rw [h.ratedBoardings, h.boardings]
    exact Counted.sum_rated_boardings_le cs
  · rw [h.headwaySecs]
    exact List.sum_nonneg (List.forall_mem_map.mpr fun r hr => (hseconds r hr).1.le)
  · have hlength : ((Counted.rated cs).length : ℚ) ≤ t.observations := by
      rw [h.observations]
      exact_mod_cast List.length_filterMap_le _ _
    calc t.headwaySecs ≤ (Counted.rated cs).length * maxHeadwaySecs := by
          rw [h.headwaySecs]
          simpa using List.sum_le_card_nsmul ((Counted.rated cs).map (·.seconds)) _
            (List.forall_mem_map.mpr fun r hr => (hseconds r hr).2)
      _ ≤ t.observations * maxHeadwaySecs :=
          mul_le_mul_of_nonneg_right hlength (by exact_mod_cast hmax)
  · rw [t.rate_rat, Option.isSome_ite, hpos, ne_eq, Counted.rated_eq_nil]
    simp [Option.isSome_iff_ne_none]
  · intro rate hrate
    rw [t.rate_rat, Option.ite_none_right_eq_some] at hrate
    obtain ⟨hsome, hrate⟩ := hrate
    obtain rfl : (Rated.sum (Counted.rated cs)).rate = rate := by
      rw [← Option.some.inj hrate, h.ratedBoardings, h.headwaySecs]
      rfl
    exact Rated.rate_sum_between (hpos.mp hsome) fun r hr => (hseconds r hr).1

end DailyTotals

namespace PassengerHistory

variable {α : Type}

/-! ### What a run counts -/

/-- What is counted of a match: it counts for the route, the stop and the date of the nearest event,
with the headway that there is before that event. -/
def counted? (h : PassengerHistory α) (events : EventStore) (now : Int) (m : CountMatch) :
    Option Counted :=
  m.nearest?.bind fun e =>
    (dayOf events e.route e.stop e.time).map fun day =>
      ⟨day, m.observation, h.headwayBefore events now e⟩

/-- What an action counts. -/
def countedBy (h : PassengerHistory α) (events : EventStore) : Int × Action → List Counted
  | (now, .record days ms) => ms.filterMap (h.counted? { events with days := days } now)
  | _ => []

/-- What a run counts. -/
def counted (h : PassengerHistory α) (events : EventStore) (actions : List (Int × Action)) :
    List Counted :=
  actions.flatMap (h.countedBy events)

/-- What is counted has a usable headway if it has one. -/
theorem isUsable_of_mem_counted {h : PassengerHistory α} {maxHeadwaySecs : Int}
    (hmax : h.maxHeadway ≤ maxHeadwaySecs * msPerSecond) {events : EventStore}
    {actions : List (Int × Action)} {c : Counted} (hc : c ∈ h.counted events actions) :
    c.IsUsable maxHeadwaySecs := by
  obtain ⟨⟨now, action⟩, -, hc⟩ := List.mem_flatMap.mp hc
  cases action with
  | record days ms =>
    obtain ⟨m, -, hm⟩ := List.mem_filterMap.mp hc
    obtain ⟨e, -, he⟩ := Option.bind_eq_some_iff.mp hm
    obtain ⟨day, -, rfl⟩ := Option.map_eq_some_iff.mp he
    intro ms hms
    obtain ⟨hpos, hle⟩ := headwayBefore_bounds hms
    exact ⟨hpos, hle.trans hmax⟩
  | switch enabled => cases hc
  | evict => cases hc

/-- What is counted hangs on nothing in the history but the longest usable headway. -/
theorem counted?_congr {h h' : PassengerHistory α} (hmax : h.maxHeadway = h'.maxHeadway) :
    h.counted? = h'.counted? := by
  funext events now m
  simp only [counted?, headwayBefore, hmax]

theorem countedBy_congr {h h' : PassengerHistory α} (hmax : h.maxHeadway = h'.maxHeadway) :
    h.countedBy = h'.countedBy := by
  funext events action
  simp only [countedBy, counted?_congr hmax]

/-! ### Recording -/

variable [Scalar α]

theorem record_eq (h : PassengerHistory α) (events : EventStore) (now : Int) (m : CountMatch) :
    h.record events now m =
      match h.counted? events now m with
      | none => (false, h)
      | some c =>
        let one := DailyTotals.single c.observation c.headway
        (true, { h with totals := h.totals.upsert c.day one (·.add one) }) := by
  unfold record counted?
  cases m.nearest? with
  | none => rfl
  | some e => cases hday : dayOf events e.route e.stop e.time <;> simp [hday]

theorem record_maxHeadway (h : PassengerHistory α) (events : EventStore) (now : Int)
    (m : CountMatch) : (h.record events now m).2.maxHeadway = h.maxHeadway :=
  record_rule maxHeadway (fun _ _ => rfl) h events now m

theorem act_maxHeadway (events : EventStore) (h : PassengerHistory α) (action : Int × Action) :
    (act events h action).2.maxHeadway = h.maxHeadway :=
  act_rule maxHeadway (fun _ _ => rfl) (fun _ _ => rfl) events h action

/-- As many matches are told as are counted. -/
theorem recordAll_fst (h : PassengerHistory α) (events : EventStore) (now : Int)
    (ms : List CountMatch) :
    (h.recordAll events now ms).1 = (ms.filterMap (h.counted? events now)).length := by
  unfold recordAll
  -- The induction is for any number of observations that were counted before.
  rw [← Nat.zero_add (List.length _)]
  generalize 0 = n
  induction ms generalizing n h with
  | nil => rfl
  | cons m ms ih =>
    have hcongr := counted?_congr (h.record_maxHeadway events now m)
    rw [List.foldl_cons, ih, hcongr, record_eq]
    cases hm : h.counted? events now m with
    | none => rw [List.filterMap_cons_none hm]; rfl
    | some c => rw [List.filterMap_cons_some hm, List.length_cons]; simp only [if_true]; omega

omit [Scalar α] in
/-- An observation that nothing joined is passed over. -/
theorem counted?_of_not_isMatched (h : PassengerHistory α) (events : EventStore) (now : Int)
    {m : CountMatch} (hm : m.isMatched = false) : h.counted? events now m = none := by
  have hempty : m.events = [] := by simpa [CountMatch.isMatched] using hm
  simp [counted?, CountMatch.nearest?, hempty]

/-- Recording is not changed by observations that nothing joined. -/
theorem recordAll_filter_isMatched (h : PassengerHistory α) (events : EventStore) (now : Int)
    (ms : List CountMatch) :
    h.recordAll events now (ms.filter (·.isMatched)) = h.recordAll events now ms := by
  unfold recordAll
  rw [List.foldl_filter]
  congr 1
  funext ⟨n, h⟩ m
  by_cases hm : m.isMatched
  · rw [if_pos hm]
  · have hnone := h.counted?_of_not_isMatched events now (Bool.eq_false_iff.mpr hm)
    simp only [if_neg hm, record_eq, hnone, Bool.false_eq_true, if_false]

/-! ### The totals of a day -/

/-- No action of a run removes the total of a day. -/
def KeepsTotal (events : EventStore) (day : RouteStopDay) :
    PassengerHistory α → List (Int × Action) → Prop
  | _, [] => True
  | h, action :: actions =>
    ((h.totals.get? day).isSome → ((act events h action).2.totals.get? day).isSome) ∧
      KeepsTotal events day (act events h action).2 actions

/-- What is held for a day, if anything, sums up what was counted for it. -/
def SumsUp (held : Option (DailyTotals ℚ)) (cs : List Counted) : Prop :=
  held.elim (cs = []) fun total => cs ≠ [] ∧ total.Sums cs

/-- What is counted for a day. -/
def countedOn (day : RouteStopDay) (cs : List Counted) : List Counted :=
  cs.filter fun c => c.day = day

theorem countedOn_append (day : RouteStopDay) (cs ds : List Counted) :
    countedOn day (cs ++ ds) = countedOn day cs ++ countedOn day ds :=
  List.filter_append cs ds

variable {h : PassengerHistory ℚ} {events : EventStore} {day : RouteStopDay} {cs : List Counted}

theorem record_sumsUp (hcs : SumsUp (h.totals.get? day) cs) (events : EventStore) (now : Int)
    (m : CountMatch) :
    SumsUp ((h.record events now m).2.totals.get? day)
      (cs ++ countedOn day (h.counted? events now m).toList) := by
  rw [record_eq]
  cases h.counted? events now m with
  | none => simpa [countedOn] using hcs
  | some c =>
    simp only [countedOn, Option.toList_some, Keyed.get?_upsert]
    by_cases hday : day = c.day
    · subst hday
      cases hheld : h.totals.get? c.day with
      | none =>
        rw [hheld] at hcs
        obtain rfl : cs = [] := hcs
        simpa [SumsUp] using DailyTotals.sums_single c
      | some total =>
        rw [hheld] at hcs
        simpa [SumsUp] using hcs.2.add (DailyTotals.sums_single c)
    · simpa [hday, Ne.symm hday] using hcs

theorem recordAll_sumsUp (hcs : SumsUp (h.totals.get? day) cs) (events : EventStore) (now : Int)
    (ms : List CountMatch) :
    SumsUp ((h.recordAll events now ms).2.totals.get? day)
      (cs ++ countedOn day (ms.filterMap (h.counted? events now))) := by
  rw [recordAll_snd]
  induction ms generalizing h cs with
  | nil => simpa [countedOn] using hcs
  | cons m ms ih =>
    have hsplit : (m :: ms).filterMap (h.counted? events now) =
        (h.counted? events now m).toList ++ ms.filterMap (h.counted? events now) := by
      cases hm : h.counted? events now m <;> simp [hm]
    have hnext := ih (record_sumsUp hcs events now m)
    rw [counted?_congr (h.record_maxHeadway events now m)] at hnext
    rwa [Run.after_cons, hsplit, countedOn_append, ← List.append_assoc]

theorem act_sumsUp (hcs : SumsUp (h.totals.get? day) cs) {action : Int × Action}
    (hkeeps : (h.totals.get? day).isSome → ((act events h action).2.totals.get? day).isSome) :
    SumsUp ((act events h action).2.totals.get? day)
      (cs ++ countedOn day (h.countedBy events action)) := by
  obtain ⟨now, action⟩ := action
  cases action with
  | record days ms => exact recordAll_sumsUp hcs _ now ms
  | switch enabled => simpa [act, countedOn, countedBy] using hcs
  | evict =>
    have hsame : (h.evict events now).2.totals.get? day = h.totals.get? day := by
      have hkeeps' : (h.totals.get? day).isSome →
          ((h.evict events now).2.totals.get? day).isSome := hkeeps
      rw [get?_evict] at hkeeps' ⊢
      cases hheld : h.totals.get? day with
      | none => rfl
      | some total => simpa [hheld, Option.filter] using hkeeps'
    simpa [act, countedOn, countedBy, hsame] using hcs

/-- **What is held for a day sums up what the run counted for it**, if no action removed it. -/
theorem after_sumsUp (hcs : SumsUp (h.totals.get? day) cs) {actions : List (Int × Action)}
    (hkeeps : KeepsTotal events day h actions) :
    SumsUp ((Run.after (act events) h actions).totals.get? day)
      (cs ++ countedOn day (h.counted events actions)) := by
  -- The induction is for any list that what is held sums up at the beginning.
  induction actions generalizing h cs with
  | nil => simpa [countedOn, counted] using hcs
  | cons action actions ih =>
    obtain ⟨hfirst, hrest⟩ := hkeeps
    have hnext := ih (act_sumsUp hcs hfirst) hrest
    rw [counted, countedBy_congr (act_maxHeadway events h action)] at hnext
    rwa [Run.after_cons, counted, List.flatMap_cons, countedOn_append, ← List.append_assoc]

/-! ### What the recordings tell -/

/-- Whether an action is a recording. -/
def Action.isRecording : Action → Bool
  | record _ _ => true
  | _ => false

/-- The number of observations that the recordings of a run tell. -/
def told (events : EventStore) (h : PassengerHistory α) (actions : List (Int × Action)) : Nat :=
  ((actions.zip (Run.answers (act events) h actions)).map fun (action, answer) =>
    if action.2.isRecording then answer else 0).sum

theorem told_eq (events : EventStore) (h : PassengerHistory α) (actions : List (Int × Action)) :
    told events h actions = (h.counted events actions).length := by
  induction actions generalizing h with
  | nil => rfl
  | cons action actions ih =>
    have hrest := ih (act events h action).2
    rw [counted, countedBy_congr (act_maxHeadway events h action)] at hrest
    have hfirst : (if action.2.isRecording then (act events h action).1 else 0) =
        (h.countedBy events action).length := by
      obtain ⟨now, action⟩ := action
      cases action with
      | record days ms => exact h.recordAll_fst _ now ms
      | switch enabled => rfl
      | evict => rfl
    rw [counted, List.flatMap_cons, List.length_append, ← hrest, ← hfirst]
    simp [told]

/-- The observations of all totals that are held. -/
def observed (h : PassengerHistory ℚ) : Nat := (h.totals.entries.map (·.2.observations)).sum

/-- If all that is held sums up what was counted, every observation is in one total. -/
theorem observed_eq (hcs : ∀ day, SumsUp (h.totals.get? day) (countedOn day cs)) :
    h.observed = cs.length := by
  have hcount : ∀ day, (countedOn day cs).length = (cs.map (·.day)).count day := by
    intro day
    rw [countedOn, List.count_eq_countP, List.countP_map, List.countP_eq_length_filter]
    rfl
  have hrows : h.observed = (h.totals.keys.map (cs.map (·.day)).count).sum := by
    rw [observed, Keyed.keys, List.map_map]
    refine congrArg List.sum (List.map_congr_left fun ⟨day, total⟩ hrow => ?_)
    have hsums := hcs day
    rw [(h.totals.mem_entries_iff day total).mp hrow] at hsums
    rw [hsums.2.observations, hcount]
    rfl
  have hkeys : h.totals.keys.Perm (cs.map (·.day)).dedup := by
    refine (List.perm_ext_iff_of_nodup h.totals.nodup (List.nodup_dedup _)).mpr fun day => ?_
    have hcounted : day ∈ cs.map (·.day) ↔ countedOn day cs ≠ [] := by
      rw [← List.count_pos_iff, ← hcount, List.length_pos_iff]
    rw [List.mem_dedup, hcounted]
    have hsums := hcs day
    cases hheld : h.totals.get? day with
    | none =>
      rw [hheld] at hsums
      simp [Keyed.mem_entries_iff, hheld, show countedOn day cs = [] from hsums]
    | some total =>
      rw [hheld] at hsums
      simp [Keyed.mem_entries_iff, hheld, hsums.1]
  rw [hrows, (hkeys.map _).sum_eq, List.sum_map_count_dedup_eq_length, List.length_map]

/-- **Every usable observation is counted once.** Take a run of a history that is empty to begin
with, whatever events are held as it goes on. For a day whose total no action removes, there is a
total if anything was counted for the day, and it accounts for that: it has the sums, and its rate
lies between those of the observations. The recordings tell as many observations as are counted, and
if no total was removed, the totals have as many. Observations that nothing joined change
nothing. -/
theorem observations_counted_once {maxHeadwaySecs : Int} (hmax : 0 ≤ maxHeadwaySecs)
    (lookbackDays : Nat) (retention : Int) (events : EventStore)
    (actions : List (Int × Action)) :
    let start : PassengerHistory ℚ := .empty maxHeadwaySecs lookbackDays retention
    let after := Run.after (act events) start actions
    let all := start.counted events actions
    (∀ day, KeepsTotal events day start actions →
      (after.totals.get? day = none ↔ countedOn day all = []) ∧
      ∀ total, after.totals.get? day = some total →
        total.Accounts maxHeadwaySecs (countedOn day all)) ∧
    told events start actions = all.length ∧
    ((∀ day, KeepsTotal events day start actions) → after.observed = all.length) ∧
    ∀ (h : PassengerHistory ℚ) (now : Int) (ms : List CountMatch),
      h.recordAll events now (ms.filter (·.isMatched)) = h.recordAll events now ms := by
  intro start after all
  have hsums : ∀ day, KeepsTotal events day start actions →
      SumsUp (after.totals.get? day) (countedOn day all) := by
    intro day hkeeps
    have hnothing : SumsUp (start.totals.get? day) [] := rfl
    exact after_sumsUp hnothing hkeeps
  refine ⟨fun day hkeeps => ⟨?_, fun total htotal => ?_⟩, told_eq events start actions,
    fun hkeeps => observed_eq fun day => hsums day (hkeeps day),
    fun h now ms => h.recordAll_filter_isMatched events now ms⟩
  · have hday := hsums day hkeeps
    cases hheld : after.totals.get? day with
    | none =>
      rw [hheld] at hday
      exact iff_of_true rfl hday
    | some total =>
      rw [hheld] at hday
      exact iff_of_false (Option.some_ne_none total) hday.1
  · have hday := hsums day hkeeps
    rw [htotal] at hday
    refine hday.2.accounts hmax fun c hc => ?_
    have hlimit : start.maxHeadway ≤ maxHeadwaySecs * msPerSecond :=
      wrapWhole_le (Int.mul_nonneg hmax (by decide))
    exact isUsable_of_mem_counted hlimit (List.mem_of_mem_filter hc)

/-- A vehicle comes to a pier and is counted, while the count of another joins nothing. Then the
history is swept. Two more vehicles come, ten minutes and fifteen minutes after the first, and are
counted. -/
def morningAtPier : List (Int × Action) :=
  let first : StopEvent := ⟨"1", "pier", "t1", "r", 0, true, 0⟩
  let second : StopEvent := ⟨"2", "pier", "t2", "r", 600000, true, 0⟩
  let third : StopEvent := ⟨"3", "pier", "t3", "r", 900000, true, 0⟩
  let days := (utcEvents.populate 900000 [first, second, third]).2.days
  [(0, .record (utcEvents.put 0 first).2.days
      [⟨⟨"1", 0, 3, 1, none, none⟩, [first]⟩, ⟨⟨"9", 0, 8, 8, none, none⟩, []⟩]),
    (600000, .evict),
    (900000, .record days
      [⟨⟨"2", 600000, 6, 0, none, none⟩, [second]⟩, ⟨⟨"3", 900000, 6, 2, none, none⟩, [third]⟩])]

/-- The rate of the day lies between that of the second vehicle and that of the third. -/
theorem morningAtPier_counted_once :
    let day : RouteStopDay := ⟨"r", "pier", ⟨0⟩⟩
    let start : PassengerHistory ℚ := .empty 7200 5 345600000
    let after := Run.after (act utcEvents) start morningAtPier
    KeepsTotal utcEvents day start morningAtPier ∧
      (after.totals.get? day).map (fun total => (total.boardings, total.ratedBoardings)) =
        some (15, 12) ∧
      (after.totals.get? day).bind DailyTotals.rate = some (1 / 75) ∧
      ∀ total, after.totals.get? day = some total →
        total.headwaySecs ≤ total.observations * 7200 := by
  intro day start after
  have hkeeps : KeepsTotal utcEvents day start morningAtPier := by
    refine ⟨?_, ?_, ?_, trivial⟩ <;> decide +kernel
  refine ⟨hkeeps, by decide +kernel, by decide +kernel, fun total htotal => ?_⟩
  have haccounts := ((observations_counted_once (by decide) 5 345600000 utcEvents morningAtPier).1
    day hkeeps).2 total htotal
  exact_mod_cast haccounts.headwaySecs_le

end PassengerHistory

end TransitDwell
