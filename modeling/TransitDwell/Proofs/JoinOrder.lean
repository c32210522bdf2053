import Mathlib.Data.List.FinRange
import Mathlib.Data.List.Forall2
import TransitDwell.Proofs.Buckets

/-!
# The order of a join

What an observation is joined to can be said without an index, over the places of the list of
events: the places at which an event joins it, each of them once, in the order in which the
buckets are searched and then in that of the list (`IsJoin`). No two lists of places are a join of
the same observation (`IsJoin.unique`), so that this says all about the answer, its order included,
and the order counts where several events are equally near.

The buckets are searched from the nearest outwards, of two as near the earlier first, and none is
searched twice (`BucketKey.pairwise_around`). A place is therefore found once, although nothing
is remembered of the places found before. A wider join searches further buckets after the others.

Main statement: `matchAll_isJoin`.
-/

namespace TransitDwell

/-! ### The order of the search -/

namespace BucketWidth

theorem natAbs_widths (w : BucketWidth) (k : Nat) :
    ((k : Int) * w.ms).natAbs = k * w.ms.natAbs := by
  rw [Int.natAbs_mul, Int.natAbs_natCast]

theorem natAbs_pos (w : BucketWidth) : 0 < w.ms.natAbs := Int.natAbs_pos.mpr w.pos.ne'

/-- Two buckets are a whole number of widths apart. -/
theorem exists_floor_sub_floor (w : BucketWidth) (t ts : Int) :
    ∃ a : Int, w.floor t - w.floor ts = a * w.ms := by
  obtain ⟨a, ha⟩ := Int.dvd_sub (w.dvd_floor t) (w.dvd_floor ts)
  exact ⟨a, ha.trans (Int.mul_comm w.ms a)⟩

end BucketWidth

namespace BucketKey

/-- Whether a bucket is searched before another from the bucket that starts at `start`: the nearer
of the two, and of two as near the earlier. -/
def NearerTo (start : Int) (a b : BucketKey) : Prop :=
  (a.start - start).natAbs < (b.start - start).natAbs ∨
    (a.start - start).natAbs = (b.start - start).natAbs ∧ a.start < b.start

namespace NearerTo

variable {start : Int} {a b : BucketKey}

theorem ne (h : NearerTo start a b) : a ≠ b := by
  rintro rfl
  unfold NearerTo at h
  omega

theorem asymm (h : NearerTo start a b) : ¬ NearerTo start b a := by
  intro h'
  unfold NearerTo at h h'
  omega

end NearerTo

variable {owner : String} {start : Int} {w : BucketWidth} {k : Nat}

/-- The `k`th neighbours are `k` widths away. -/
theorem natAbs_of_mem_pair {key : BucketKey} (h : key ∈ pair owner start w k) :
    (key.start - start).natAbs = k * w.ms.natAbs := by
  rw [← w.natAbs_widths]
  rcases List.mem_pair.mp h with rfl | rfl
  · change (start - k * w.ms - start).natAbs = _
    omega
  · change (start + k * w.ms - start).natAbs = _
    omega

/-- The earlier of two neighbours is searched first. -/
theorem pairwise_pair (hk : 0 < k) : (pair owner start w k).Pairwise (NearerTo start) := by
  have hpos : 0 < (k : Int) * w.ms := Int.mul_pos (by exact_mod_cast hk) w.pos
  refine List.pairwise_pair.mpr ?_
  change (start - k * w.ms - start).natAbs < (start + k * w.ms - start).natAbs ∨
    (start - k * w.ms - start).natAbs = (start + k * w.ms - start).natAbs ∧
      start - k * w.ms < start + k * w.ms
  omega

/-- The buckets around an instant stand in the order of the search. -/
theorem pairwise_around (owner : String) (ts : Int) (w : BucketWidth) (n : Nat) :
    (around owner ts w n).Pairwise (NearerTo (w.floor ts)) := by
  refine List.pairwise_cons.mpr ⟨?_, List.pairwise_flatMap.mpr ⟨?_, ?_⟩⟩
  · intro key hkey
    obtain ⟨k, -, hpair⟩ := List.mem_flatMap.mp hkey
    refine .inl ?_
    -- the bucket of the instant is no distance away
    change (w.floor ts - w.floor ts).natAbs < _
    rw [Int.sub_self, natAbs_of_mem_pair hpair]
    exact Nat.mul_pos k.succ_pos w.natAbs_pos
  · intro k _
    exact pairwise_pair k.succ_pos
  · refine List.pairwise_lt_range.imp fun {j k} hjk key hkey key' hkey' => .inl ?_
    rw [natAbs_of_mem_pair hkey, natAbs_of_mem_pair hkey']
    exact Nat.mul_lt_mul_of_pos_right (Nat.succ_lt_succ hjk) w.natAbs_pos

/-- The buckets around ten seconds past five minutes, in the order of the search. -/
example : (around "1" 310000 (.ofMinutes 5) 2).map BucketKey.start =
    [300000, 0, 600000, -300000, 900000] := by
  decide

/-- Widening by one more appends a pair of neighbours. -/
theorem around_succ (owner : String) (ts : Int) (w : BucketWidth) (n : Nat) :
    around owner ts w (n + 1) = around owner ts w n ++ pair owner (w.floor ts) w (n + 1) := by
  simp only [around, List.range_succ, List.flatMap_append, List.flatMap_singleton, List.cons_append]

/-- The bucket of an instant is among those around another if the two are at most `n` widths
apart. -/
theorem holding_mem_around_iff {owner owner' : String} {t ts : Int} {w : BucketWidth} {n : Nat} :
    holding owner' t w ∈ around owner ts w n ↔
      owner' = owner ∧ (w.floor t - w.floor ts).natAbs ≤ n * w.ms.natAbs := by
  rw [mem_around_iff]
  refine and_congr_right fun _ => ?_
  change (∃ k : Nat, k ≤ n ∧
    (w.floor t = w.floor ts - k * w.ms ∨ w.floor t = w.floor ts + k * w.ms)) ↔ _
  constructor
  · rintro ⟨k, hk, hstart⟩
    have hapart : (w.floor t - w.floor ts).natAbs = k * w.ms.natAbs := by
      rw [← w.natAbs_widths]
      omega
    rw [hapart]
    exact Nat.mul_le_mul_right _ hk
  · intro hle
    obtain ⟨a, hapart⟩ := w.exists_floor_sub_floor t ts
    rw [hapart, Int.natAbs_mul] at hle
    refine ⟨a.natAbs, Nat.le_of_mul_le_mul_right hle w.natAbs_pos, ?_⟩
    rcases Int.natAbs_eq a with ha | ha <;> rw [ha] at hapart
    · right
      omega
    · left
      rw [Int.neg_mul] at hapart
      omega

end BucketKey

/-! ### The join without an index -/

/-- The places of a list of events that an observation is joined to, and their order: places in
different buckets in the order of the search from the bucket of the observation, places in the
same bucket in the order of the list. -/
structure IsJoin (r : MatchRule) (events : List StopEvent) (o : Observation)
    (places : List (Fin events.length)) : Prop where
  /-- The places are those at which an event joins the observation. -/
  mem_iff : ∀ i, i ∈ places ↔ r.joins o (events.get i) = true
  /-- No place occurs twice. -/
  nodup : places.Nodup
  /-- The order of the places. -/
  ordered : places.Pairwise fun i j =>
    BucketKey.NearerTo (r.width.floor o.time) (r.keyOf (events.get i)) (r.keyOf (events.get j)) ∨
      r.keyOf (events.get i) = r.keyOf (events.get j) ∧ i < j

namespace IsJoin

variable {r : MatchRule} {events : List StopEvent} {o : Observation}
  {places places' : List (Fin events.length)}

/-- There is one join of an observation at most. -/
theorem unique (h : IsJoin r events o places) (h' : IsJoin r events o places') :
    places = places' := by
  have hperm : places.Perm places' :=
    (List.perm_ext_iff_of_nodup h.nodup h'.nodup).mpr fun i =>
      (h.mem_iff i).trans (h'.mem_iff i).symm
  refine hperm.eq_of_pairwise ?_ h.ordered h'.ordered
  rintro i j - - (hij | ⟨hkeys, hij⟩) (hji | ⟨hkeys', hji⟩)
  · exact absurd hji hij.asymm
  · exact absurd hkeys'.symm hij.ne
  · exact absurd hkeys.symm hji.ne
  · exact absurd hji (Fin.lt_asymm hij)

end IsJoin

namespace MatchRule

/-- The rule that widens by one more. -/
def wider (r : MatchRule) : MatchRule := { r with widening := r.widening + 1 }

/-- An event joins an observation if it takes part in the join and its bucket is searched. -/
theorem joins_iff (r : MatchRule) (o : Observation) (e : StopEvent) :
    r.joins o e = true ↔ o.vehicle ≠ "" ∧ r.considers e = true ∧
      r.keyOf e ∈ BucketKey.around o.vehicle o.time r.width r.widening := by
  unfold joins keyOf
  rw [BucketKey.holding_mem_around_iff]
  simp only [Bool.and_eq_true, bne_iff_ne, beq_iff_eq, decide_eq_true_eq, and_assoc]

end MatchRule

namespace EventIndex

variable (r : MatchRule) (events : List StopEvent) (o : Observation)

/-- The places of a list of events that belong to a bucket. -/
def placesAt (key : BucketKey) : List (Fin events.length) :=
  (List.finRange events.length).filter fun i =>
    r.considers (events.get i) && r.keyOf (events.get i) == key

/-- The places found in one bucket after the other. -/
def placesFound : List (Fin events.length) :=
  if o.vehicle = "" then []
  else (BucketKey.around o.vehicle o.time r.width r.widening).flatMap (placesAt r events)

variable {r events o} in
theorem mem_placesAt_iff {key : BucketKey} {i : Fin events.length} :
    i ∈ placesAt r events key ↔
      r.considers (events.get i) = true ∧ r.keyOf (events.get i) = key := by
  rw [placesAt, List.mem_filter, Bool.and_eq_true, beq_iff_eq]
  exact and_iff_right (List.mem_finRange i)

/-- The events at the places of a bucket are those that a search of the list finds there. -/
theorem map_placesAt (key : BucketKey) : (placesAt r events key).map events.get =
    events.filter fun e => r.considers e && r.keyOf e == key := by
  rw [placesAt]
  conv_rhs => rw [← List.map_get_finRange events, List.filter_map]
  rfl

/-- The events at the places found are those of the match. -/
theorem map_placesFound :
    (placesFound r events o).map events.get = (matchOne r (build r events) o).events := by
  rw [matchOne_build_events, placesFound]
  split
  · rfl
  · rw [List.map_flatMap]
    exact List.flatMap_congr fun key _ => map_placesAt r events key

variable {r events o} in
/-- A place is found if its event joins the observation. -/
theorem mem_placesFound_iff {i : Fin events.length} :
    i ∈ placesFound r events o ↔ r.joins o (events.get i) = true := by
  rw [MatchRule.joins_iff, placesFound]
  split
  · next hnameless => exact iff_of_false List.not_mem_nil fun h => h.1 hnameless
  · next hnamed =>
    rw [List.mem_flatMap]
    constructor
    · rintro ⟨key, hkey, hi⟩
      obtain ⟨hconsiders, rfl⟩ := mem_placesAt_iff.mp hi
      exact ⟨hnamed, hconsiders, hkey⟩
    · rintro ⟨-, hconsiders, hkey⟩
      exact ⟨_, hkey, mem_placesAt_iff.mpr ⟨hconsiders, rfl⟩⟩

/-- Places are found in the order of the search, and in one bucket in that of the list. -/
theorem pairwise_placesFound : (placesFound r events o).Pairwise fun i j =>
    BucketKey.NearerTo (r.width.floor o.time) (r.keyOf (events.get i)) (r.keyOf (events.get j)) ∨
      r.keyOf (events.get i) = r.keyOf (events.get j) ∧ i < j := by
  unfold placesFound
  split
  · exact List.Pairwise.nil
  · refine List.pairwise_flatMap.mpr ⟨fun key _ => ?_, ?_⟩
    · have hlist : (placesAt r events key).Pairwise (· < ·) :=
        (List.pairwise_lt_finRange _).filter _
      refine hlist.imp_of_mem fun {i j} hi hj hlt => .inr ⟨?_, hlt⟩
      rw [(mem_placesAt_iff.mp hi).2, (mem_placesAt_iff.mp hj).2]
    · refine (BucketKey.pairwise_around _ _ _ _).imp fun {key key'} hnearer i hi j hj => .inl ?_
      rw [(mem_placesAt_iff.mp hi).2, (mem_placesAt_iff.mp hj).2]
      exact hnearer

/-- What is found in one bucket after the other is the join. -/
theorem placesFound_isJoin : IsJoin r events o (placesFound r events o) := by
  refine ⟨fun i => mem_placesFound_iff, ?_, pairwise_placesFound r events o⟩
  refine (pairwise_placesFound r events o).imp ?_
  rintro i j (hnearer | ⟨-, hlt⟩)
  · rintro rfl
    exact hnearer.ne rfl
  · exact Fin.ne_of_lt hlt

/-- What a rule finds, the wider rule finds first. -/
theorem matchOne_prefix_wider : (matchOne r (build r events) o).events <+:
    (matchOne r.wider (build r.wider events) o).events := by
  rw [matchOne_build_events, matchOne_build_events]
  split
  · exact List.prefix_rfl
  · rw [MatchRule.wider, BucketKey.around_succ, List.flatMap_append]
    exact List.prefix_append _ _

end EventIndex

/-- **The index joins as a search of all events would, in a fixed order.** There is one match for
each observation, in their order and with the observation itself, and its events are those at the
places of the join. What a rule matches stands first in what the wider rule matches. -/
theorem matchAll_isJoin (r : MatchRule) (events : List StopEvent)
    (observations : List Observation) :
    List.Forall₂ (fun o m => m.observation = o ∧
        ∃ places, IsJoin r events o places ∧ m.events = places.map events.get)
      observations (EventIndex.matchAll r (EventIndex.build r events) observations) ∧
    List.Forall₂ (fun m m' => m.events <+: m'.events)
      (EventIndex.matchAll r (EventIndex.build r events) observations)
      (EventIndex.matchAll r.wider (EventIndex.build r.wider events) observations) := by
  unfold EventIndex.matchAll
  constructor
  · rw [List.forall₂_map_right_iff, List.forall₂_same]
    intro o _
    exact ⟨EventIndex.matchOne_observation r _ o, EventIndex.placesFound r events o,
      EventIndex.placesFound_isJoin r events o, (EventIndex.map_placesFound r events o).symm⟩
  · rw [List.forall₂_map_left_iff, List.forall₂_map_right_iff, List.forall₂_same]
    intro o _
    exact EventIndex.matchOne_prefix_wider r events o

end TransitDwell
