import Mathlib.Data.List.Basic
import TransitDwell.Correlation

/-!
# Buckets and distances

The start of a bucket is the one multiple of the width that is not after an instant in it and less
than a width before (`BucketWidth.eq_floor_iff`). All that is said of buckets rests on that, and not
on how the start is computed.

An instant lies in its bucket, so that two instants whose buckets are `k` widths apart are less
than `k + 1` widths apart themselves (`BucketKey.near_of_mem_around`). This is how far a join that
widens by buckets can reach (`EventIndex.near_of_mem_matchOne`).
-/

namespace TransitDwell

/-! ### Instants and their buckets -/

namespace BucketWidth

theorem floor_le (w : BucketWidth) (ts : Int) : w.floor ts ≤ ts :=
  Int.ediv_mul_le ts (Int.ne_of_gt w.pos)

theorem lt_floor_add (w : BucketWidth) (ts : Int) : ts < w.floor ts + w.ms := by
  have h := Int.lt_ediv_add_one_mul_self ts w.pos
  rwa [Int.add_mul, Int.one_mul] at h

/-- A bucket starts at a multiple of the width. -/
theorem dvd_floor (w : BucketWidth) (ts : Int) : w.ms ∣ w.floor ts := Int.dvd_mul_left _ _

/-- A multiple of the width that is not after an instant is not after the start of its bucket. -/
theorem le_floor_iff {w : BucketWidth} {m ts : Int} (hm : w.ms ∣ m) :
    m ≤ w.floor ts ↔ m ≤ ts := by
  constructor
  · intro h
    exact Int.le_trans h (w.floor_le ts)
  · obtain ⟨k, rfl⟩ := hm
    intro h
    rw [Int.mul_comm] at h ⊢
    exact Int.mul_le_mul_of_nonneg_right ((Int.le_ediv_iff_mul_le w.pos).mpr h)
      (Int.le_of_lt w.pos)

/-- The start of the bucket of an instant is the only multiple of the width that is not after the
instant and less than one width before it. -/
theorem eq_floor_iff {w : BucketWidth} {m ts : Int} :
    m = w.floor ts ↔ w.ms ∣ m ∧ ts - w.ms < m ∧ m ≤ ts := by
  constructor
  · rintro rfl
    have hlt := w.lt_floor_add ts
    exact ⟨w.dvd_floor ts, by omega, w.floor_le ts⟩
  · rintro ⟨hm, hafter, hbefore⟩
    have hle : m ≤ w.floor ts := (le_floor_iff hm).mpr hbefore
    -- the next multiple is after the instant already
    have hnext : ¬ m + w.ms ≤ w.floor ts := by
      rw [le_floor_iff (Int.dvd_add hm (Int.dvd_refl _))]
      omega
    by_contra hne
    have hwidth : w.ms ≤ w.floor ts - m :=
      Int.le_of_dvd (by omega) (Int.dvd_sub (w.dvd_floor ts) hm)
    omega

end BucketWidth

namespace BucketKey

/-- The keys around an instant are those of its owner at most `n` widths away. -/
theorem mem_around_iff {key : BucketKey} {owner : String} {ts : Int} {w : BucketWidth} {n : Nat} :
    key ∈ around owner ts w n ↔ key.owner = owner ∧
      ∃ k : Nat, k ≤ n ∧
        (key.start = w.floor ts - k * w.ms ∨ key.start = w.floor ts + k * w.ms) := by
  obtain ⟨o, start⟩ := key
  simp only [around, holding, pair, List.mem_cons, List.mem_flatMap, List.mem_range, mk.injEq,
    List.not_mem_nil, or_false]
  constructor
  · rintro (⟨rfl, rfl⟩ | ⟨k, hk, ⟨rfl, rfl⟩ | ⟨rfl, rfl⟩⟩)
    · exact ⟨rfl, 0, Nat.zero_le n, .inl (by simp)⟩
    · exact ⟨rfl, k + 1, hk, .inl rfl⟩
    · exact ⟨rfl, k + 1, hk, .inr rfl⟩
  · rintro ⟨rfl, k, hk, h⟩
    cases k with
    | zero => exact .inl ⟨rfl, by simpa using h⟩
    | succ k => exact .inr ⟨k, hk, h.imp (⟨rfl, ·⟩) (⟨rfl, ·⟩)⟩

/-- An instant whose bucket is at most `n` widths away is less than `n + 1` widths away. -/
theorem near_of_mem_around {owner owner' : String} {t ts : Int} {w : BucketWidth} {n : Nat}
    (h : holding owner' t w ∈ around owner ts w n) :
    ts - w.ms * (1 + n) < t ∧ t < ts + w.ms * (1 + n) := by
  obtain ⟨-, k, hk, hstart⟩ := mem_around_iff.mp h
  have hreach : (k : Int) * w.ms ≤ n * w.ms :=
    Int.mul_le_mul_of_nonneg_right (by exact_mod_cast hk) (Int.le_of_lt w.pos)
  have hback : 0 ≤ (k : Int) * w.ms := Int.mul_nonneg (Int.natCast_nonneg k) (Int.le_of_lt w.pos)
  have hle := w.floor_le t
  have hlt := w.lt_floor_add t
  have hle' := w.floor_le ts
  have hlt' := w.lt_floor_add ts
  have hwidths : w.ms * (1 + n) = w.ms + n * w.ms := by
    rw [Int.mul_add, Int.mul_one, Int.mul_comm]
  change w.floor t = _ ∨ w.floor t = _ at hstart
  omega

end BucketKey

/-! ### How far a join reaches -/

/-- How far from an observation the events are to which it may be joined. -/
def MatchRule.reach (r : MatchRule) : Int := r.width.ms * (1 + r.widening)

theorem MatchRule.reach_nonneg (r : MatchRule) : 0 ≤ r.reach :=
  Int.mul_nonneg (Int.le_of_lt r.width.pos) (by omega)

namespace EventIndex

/-- An observation is joined to the events of its own bucket and the ones around it, each of them
found in the list as it stands. -/
theorem matchOne_build_events (r : MatchRule) (events : List StopEvent) (o : Observation) :
    (matchOne r (build r events) o).events =
      if o.vehicle = "" then []
      else (BucketKey.around o.vehicle o.time r.width r.widening).flatMap fun key =>
        events.filter fun e => r.considers e && r.keyOf e == key := by
  unfold matchOne
  split
  · rfl
  · exact List.flatMap_congr fun key _ => eventsAt_build r events key

theorem matchOne_eq_mk (r : MatchRule) (index : EventIndex) (o : Observation) :
    matchOne r index o = ⟨o, (matchOne r index o).events⟩ := by
  unfold matchOne
  split <;> rfl

theorem matchOne_observation (r : MatchRule) (index : EventIndex) (o : Observation) :
    (matchOne r index o).observation = o := by
  rw [matchOne_eq_mk]

/-- If some events are left out, those that remain join an observation as before. -/
theorem matchOne_filter (r : MatchRule) (events : List StopEvent) (o : Observation)
    (p : StopEvent → Bool) :
    (matchOne r (build r (events.filter p)) o).events =
      (matchOne r (build r events) o).events.filter p := by
  rw [matchOne_build_events, matchOne_build_events]
  split
  · rfl
  · rw [List.filter_flatMap]
    exact List.flatMap_congr fun key _ => List.filter_comm _ _ events

/-- Events that join an observation are in its reach. -/
theorem near_of_mem_matchOne {r : MatchRule} {events : List StopEvent} {o : Observation}
    {e : StopEvent} (he : e ∈ (matchOne r (build r events) o).events) :
    o.time - r.reach < e.time ∧ e.time < o.time + r.reach := by
  rw [matchOne_build_events] at he
  split at he
  · cases he
  · obtain ⟨key, hkey, he⟩ := List.mem_flatMap.mp he
    obtain ⟨-, hholds⟩ := Bool.and_eq_true_iff.mp (List.mem_filter.mp he).2
    obtain rfl : r.keyOf e = key := eq_of_beq hholds
    exact BucketKey.near_of_mem_around hkey

end EventIndex

end TransitDwell
