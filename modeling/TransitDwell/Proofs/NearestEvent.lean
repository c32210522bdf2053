import TransitDwell.Proofs.JoinOrder

/-!
# The nearest event

A match is counted where its nearest event stands. The join searches buckets, however, and not
distances: an event that is near may lie in a bucket that is not searched, and the match lists its
events bucket by bucket, not by time. A rule that widens by `n` reaches every event at most `n`
widths away, as two instants `n` widths apart lie in buckets no more than `n` widths apart
(`BucketWidth.natAbs_floor_sub_floor_le`), and none that is `n + 1` widths away or more. In between
it may or may not reach. So if any event is within `n` widths, those that were not found are all
farther away than it, and the nearest of the match is the nearest of all.

## What is proved

* What a rule finds is what joins, each event as often as it is listed (`EventIndex.matchOne_perm`).
* What joins is near, and what is near enough joins (`MatchRule.joins_of_near`,
  `MatchRule.near_of_joins`).
* The nearest event of a match stands before all others that are as near
  (`CountMatch.exists_nearest`).
* Main statement: `nearest_event_within_reach`.
-/

namespace TransitDwell

/-! ### Distances and buckets -/

namespace BucketWidth

variable {w : BucketWidth} {t ts : Int}

theorem floor_mono (h : t ≤ ts) : w.floor t ≤ w.floor ts :=
  (le_floor_iff (w.dvd_floor t)).mpr ((w.floor_le t).trans h)

/-- Whole widths later is as many buckets later. -/
theorem floor_add_widths (w : BucketWidth) (t : Int) (n : Nat) :
    w.floor (t + n * w.ms) = w.floor t + n * w.ms := by
  have hle := w.floor_le t
  have hlt := w.lt_floor_add t
  have hdvd : w.ms ∣ w.floor t + n * w.ms := Int.dvd_add (w.dvd_floor t) (Int.dvd_mul_left _ _)
  exact (eq_floor_iff.mpr ⟨hdvd, by omega, by omega⟩).symm

/-- Instants at most `n` widths apart lie in buckets at most `n` widths apart. -/
theorem natAbs_floor_sub_floor_le {n : Nat} (h : (t - ts).natAbs ≤ n * w.ms.natAbs) :
    (w.floor t - w.floor ts).natAbs ≤ n * w.ms.natAbs := by
  rw [← w.natAbs_widths] at h ⊢
  have hwidths : 0 ≤ (n : Int) * w.ms := Int.mul_nonneg (Int.natCast_nonneg n) w.pos.le
  have hlater : w.floor t ≤ w.floor ts + n * w.ms := by
    rw [← floor_add_widths]
    exact floor_mono (by omega)
  have hearlier : w.floor ts ≤ w.floor t + n * w.ms := by
    rw [← floor_add_widths]
    exact floor_mono (by omega)
  omega

end BucketWidth

/-! ### What is near and what joins -/

namespace MatchRule

variable {r : MatchRule} {o : Observation} {e : StopEvent}

/-- Whether an event takes part in the join and is of the vehicle of an observation. -/
def IsCandidate (r : MatchRule) (o : Observation) (e : StopEvent) : Prop :=
  r.considers e = true ∧ e.vehicle = o.vehicle

theorem isCandidate_of_joins (h : r.joins o e = true) : r.IsCandidate o e := by
  simp only [joins, Bool.and_eq_true, beq_iff_eq] at h
  exact ⟨h.1.1.2, h.1.2⟩

/-- Every candidate joins that is no more than the widening away. -/
theorem joins_of_near (hnamed : o.vehicle ≠ "") (he : r.IsCandidate o e)
    (hnear : (e.time - o.time).natAbs ≤ r.widening * r.width.ms.natAbs) : r.joins o e = true := by
  simp only [joins, Bool.and_eq_true, bne_iff_ne, beq_iff_eq, decide_eq_true_eq]
  exact ⟨⟨⟨hnamed, he.1⟩, he.2⟩, BucketWidth.natAbs_floor_sub_floor_le hnear⟩

/-- What joins is less than one width more than the widening away. -/
theorem near_of_joins (h : r.joins o e = true) :
    (e.time - o.time).natAbs < (r.widening + 1) * r.width.ms.natAbs := by
  obtain ⟨-, -, haround⟩ := (joins_iff r o e).mp h
  obtain ⟨hafter, hbefore⟩ := BucketKey.near_of_mem_around haround
  have hreach : ((r.widening + 1 : Nat) : Int) * r.width.ms = r.width.ms * (1 + r.widening) := by
    push_cast
    rw [Int.mul_comm, Int.add_comm]
  rw [← r.width.natAbs_widths]
  omega

end MatchRule

/-! ### What a match has -/

namespace EventIndex

variable {r : MatchRule} {events : List StopEvent} {o : Observation}

/-- What an observation is matched with is what joins it, each event as often as it is listed. -/
theorem matchOne_perm (r : MatchRule) (events : List StopEvent) (o : Observation) :
    (matchOne r (build r events) o).events.Perm (events.filter (r.joins o)) := by
  have hplaces : (placesFound r events o).Perm
      ((List.finRange events.length).filter fun i => r.joins o (events.get i)) := by
    refine (List.perm_ext_iff_of_nodup (placesFound_isJoin r events o).nodup
      ((List.nodup_finRange _).filter _)).mpr fun i => ?_
    rw [mem_placesFound_iff, List.mem_filter]
    exact (and_iff_right (List.mem_finRange i)).symm
  have hevents : ((List.finRange events.length).filter fun i => r.joins o (events.get i)).map
      events.get = events.filter (r.joins o) := by
    conv_rhs => rw [← List.map_get_finRange events, List.filter_map]
    rfl
  rw [← map_placesFound, ← hevents]
  exact hplaces.map events.get

theorem mem_matchOne_iff {e : StopEvent} :
    e ∈ (matchOne r (build r events) o).events ↔ e ∈ events ∧ r.joins o e = true := by
  rw [(matchOne_perm r events o).mem_iff, List.mem_filter]

end EventIndex

/-- A match with events has a nearest one, and it is the first that is as near. -/
theorem CountMatch.exists_nearest {m : CountMatch} (h : m.events ≠ []) :
    ∃ before e after, m.events = before ++ e :: after ∧ m.nearest? = some e ∧
      (∀ d ∈ before, m.distance e < m.distance d) ∧
      ∀ d ∈ m.events, m.distance e ≤ m.distance d := by
  have hlt : m.events.minIdxOn m.distance h < m.events.length := List.minIdxOn_lt_length h
  have hplace : m.events[m.events.minIdxOn m.distance h] = m.events.minOn m.distance h :=
    List.getElem_minIdxOn h
  refine ⟨m.events.take (m.events.minIdxOn m.distance h), m.events.minOn m.distance h,
    m.events.drop (m.events.minIdxOn m.distance h + 1), ?_, List.minOn?_eq_some_minOn h, ?_, ?_⟩
  · rw [← hplace, List.getElem_cons_drop, List.take_append_drop]
  · intro d hd
    obtain ⟨i, hi, rfl⟩ := List.mem_take_iff_getElem.mp hd
    exact List.apply_minOn_lt_apply_getElem_of_lt_minIdxOn h (by omega)
  · exact fun d hd => List.apply_minOn_le_of_mem hd

/-! ### The nearest of all -/

/-- **Within its reach a match has the nearest event of all.** Let an observation name a vehicle,
and take the events of that vehicle that take part in the join. Every one of them that is at most
`n` widths away, `n` being the widening of the rule, is in the match as often as it is listed. All
that are in the match are less than `n + 1` widths away. And if one is at most `n` widths away, the
nearest event of the match is no farther away than any of them, whether in the match or not, and
none that stands before it in the match is as near. -/
theorem nearest_event_within_reach {o : Observation} (hnamed : o.vehicle ≠ "") (r : MatchRule)
    (events : List StopEvent) :
    let m := EventIndex.matchOne r (.build r events) o
    (∀ e ∈ events, r.IsCandidate o e → m.distance e ≤ r.widening * r.width.ms.natAbs →
      e ∈ m.events ∧ m.events.count e = events.count e) ∧
    (∀ e ∈ m.events, m.distance e < (r.widening + 1) * r.width.ms.natAbs) ∧
    ((∃ e ∈ events, r.IsCandidate o e ∧ m.distance e ≤ r.widening * r.width.ms.natAbs) →
      ∃ before e after, m.events = before ++ e :: after ∧ m.nearest? = some e ∧
        e ∈ events ∧ r.IsCandidate o e ∧
        (∀ d ∈ events, r.IsCandidate o d → m.distance e ≤ m.distance d) ∧
        ∀ d ∈ before, m.distance e < m.distance d) := by
  intro m
  have hdistance (e : StopEvent) : m.distance e = (e.time - o.time).natAbs := by
    rw [CountMatch.distance, EventIndex.matchOne_observation]
  have hjoins {e : StopEvent} (he : r.IsCandidate o e)
      (hnear : m.distance e ≤ r.widening * r.width.ms.natAbs) : r.joins o e = true :=
    MatchRule.joins_of_near hnamed he (hdistance e ▸ hnear)
  refine ⟨fun e hlisted he hnear => ⟨?_, ?_⟩, fun e he => ?_, ?_⟩
  · exact EventIndex.mem_matchOne_iff.mpr ⟨hlisted, hjoins he hnear⟩
  · rw [(EventIndex.matchOne_perm r events o).count_eq, List.count_filter (hjoins he hnear)]
  · rw [hdistance]
    exact MatchRule.near_of_joins (EventIndex.mem_matchOne_iff.mp he).2
  · rintro ⟨near, hlisted, hcandidate, hnear⟩
    have hmem : near ∈ m.events :=
      EventIndex.mem_matchOne_iff.mpr ⟨hlisted, hjoins hcandidate hnear⟩
    obtain ⟨before, e, after, hsplit, hnearest, hfirst, hleast⟩ :=
      CountMatch.exists_nearest (List.ne_nil_of_mem hmem)
    have he : e ∈ m.events := by simp [hsplit]
    obtain ⟨helisted, hejoins⟩ := EventIndex.mem_matchOne_iff.mp he
    refine ⟨before, e, after, hsplit, hnearest, helisted, MatchRule.isCandidate_of_joins hejoins,
      fun d hd hdcandidate => ?_, hfirst⟩
    by_cases hfound : d ∈ m.events
    · exact hleast d hfound
    · -- what was not found is out of reach, and so farther away than what is within it
      have hfar : r.widening * r.width.ms.natAbs < m.distance d := by
        by_contra hreached
        exact hfound (EventIndex.mem_matchOne_iff.mpr
          ⟨hd, hjoins hdcandidate (Nat.le_of_not_lt hreached)⟩)
      exact ((hleast near hmem).trans hnear).trans hfar.le

/-- A vehicle that came and went around midnight, and another that was there at midnight. -/
def midnightEvents : List StopEvent :=
  [⟨"1", "pier", "t", "r", -300000, true, 0⟩, ⟨"1", "pier", "t", "r", -10000, false, 0⟩,
    ⟨"2", "pier", "t", "r", 0, true, 0⟩, ⟨"1", "mall", "t", "r", 10000, true, 0⟩,
    ⟨"1", "mall", "t", "r", 590000, false, 0⟩]

/-- A reading of the vehicle at midnight. -/
def midnightReading : Observation := ⟨"1", 0, 3, 1, none, none⟩

/-- Buckets of five minutes, and one more on each side. -/
def widenedRule : MatchRule := ⟨.ofMinutes 5, false, 1⟩

/-- What the reading is matched with. -/
def midnightMatch : CountMatch :=
  EventIndex.matchOne widenedRule (.build widenedRule midnightEvents) midnightReading

/-- Two events are equally near, and the one in the bucket that begins at midnight is the first of
them in the match. -/
theorem midnightMatch_nearest :
    midnightReading.vehicle ≠ "" ∧
      (∃ e ∈ midnightEvents, widenedRule.IsCandidate midnightReading e ∧
        midnightMatch.distance e ≤ widenedRule.widening * widenedRule.width.ms.natAbs) ∧
      midnightMatch.nearest? = some ⟨"1", "mall", "t", "r", 10000, true, 0⟩ ∧
      ∃ before e after, midnightMatch.events = before ++ e :: after ∧
        midnightMatch.nearest? = some e ∧
        e ∈ midnightEvents ∧ widenedRule.IsCandidate midnightReading e ∧
        (∀ d ∈ midnightEvents, widenedRule.IsCandidate midnightReading d →
          midnightMatch.distance e ≤ midnightMatch.distance d) ∧
        ∀ d ∈ before, midnightMatch.distance e < midnightMatch.distance d := by
  have hnamed : midnightReading.vehicle ≠ "" := by decide
  have hnear : ∃ e ∈ midnightEvents, widenedRule.IsCandidate midnightReading e ∧
      midnightMatch.distance e ≤ widenedRule.widening * widenedRule.width.ms.natAbs :=
    ⟨⟨"1", "pier", "t", "r", -300000, true, 0⟩, by decide, ⟨by decide, by decide⟩, by decide⟩
  exact ⟨hnamed, hnear, by decide,
    (nearest_event_within_reach hnamed widenedRule midnightEvents).2.2 hnear⟩

end TransitDwell
