import TransitDwell.Proofs.JoinOrder

/-!
# Buckets tile the time line

Two feeds are joined on the keys of buckets, so that what they have in common shows only if equal
keys mean what they are taken to mean. They do, for instants before 1970 too: the start of a bucket
is the one multiple of the width that is less than a width back (`BucketWidth.eq_floor_iff`), and so
two instants lie in one bucket unless a multiple of the width comes between them
(`BucketWidth.floor_eq_floor_iff`). A multiple of the width that is itself one of the two instants
belongs to the bucket it starts.

A reader that widens looks at the neighbours of a bucket as well. It must look at no bucket twice,
or it would find the same event again, and it should not matter which of the two feeds widens. The
list of keys is built pair by pair from the nearest neighbours outwards, and what is said of it here
is by induction on the number of pairs (`BucketKey.around_succ`): how long it is and what stands
where. That no key is repeated follows from the order of the search (`BucketKey.pairwise_around`),
and that buckets are around each other mutually from their distance, which has no direction
(`BucketKey.holding_mem_around_iff`).

Main statement: `bucket_keys_tile_time`.
-/

namespace TransitDwell

/-! ### Boundaries between instants -/

/-- Whether an instant comes between two others, whichever of them is the earlier: it is after the
earlier one and not after the later one. -/
def Separates (m t ts : Int) : Prop := t < m ∧ m ≤ ts ∨ ts < m ∧ m ≤ t

theorem not_separates_iff {m t ts : Int} : ¬ Separates m t ts ↔ (m ≤ t ↔ m ≤ ts) := by
  unfold Separates
  omega

/-- Two instants lie in one bucket if no multiple of the width separates them. -/
theorem BucketWidth.floor_eq_floor_iff {w : BucketWidth} {t ts : Int} :
    w.floor t = w.floor ts ↔ ¬ ∃ m, w.ms ∣ m ∧ Separates m t ts := by
  simp only [not_exists, not_and, not_separates_iff]
  constructor
  · intro h m hm
    rw [← le_floor_iff hm, h, le_floor_iff hm]
  · -- each of the two starts is a multiple, and so it is on the same side of both instants
    intro h
    have hle : w.floor t ≤ ts := (h _ (w.dvd_floor t)).mp (w.floor_le t)
    have hge : w.floor ts ≤ t := (h _ (w.dvd_floor ts)).mpr (w.floor_le ts)
    exact le_antisymm ((le_floor_iff (w.dvd_floor t)).mpr hle)
      ((le_floor_iff (w.dvd_floor ts)).mpr hge)

/-! ### The keys around an instant -/

namespace BucketKey

variable {owner owner' : String} {t ts : Int} {w : BucketWidth} {n k : Nat}

theorem holding_eq_holding_iff :
    holding owner t w = holding owner' ts w ↔ owner = owner' ∧ w.floor t = w.floor ts := by
  unfold holding
  rw [mk.injEq]

theorem length_around (owner : String) (ts : Int) (w : BucketWidth) (n : Nat) :
    (around owner ts w n).length = 2 * n + 1 := by
  induction n with
  | zero => rfl
  | succ n ih =>
    rw [around_succ, List.length_append, ih]
    rfl

theorem nodup_around (owner : String) (ts : Int) (w : BucketWidth) (n : Nat) :
    (around owner ts w n).Nodup :=
  (pairwise_around owner ts w n).imp NearerTo.ne

/-- After the bucket of the instant, each pair of neighbours takes two places. -/
theorem getElem?_around (owner : String) (ts : Int) (w : BucketWidth) (hk : k < n) :
    (around owner ts w n)[2 * k + 1]? = some ⟨owner, w.floor ts - (k + 1) * w.ms⟩ ∧
      (around owner ts w n)[2 * k + 2]? = some ⟨owner, w.floor ts + (k + 1) * w.ms⟩ := by
  induction n with
  | zero => exact absurd hk k.not_lt_zero
  | succ n ih =>
    rw [around_succ]
    rcases Nat.lt_succ_iff_lt_or_eq.mp hk with hlt | rfl
    · rw [List.getElem?_append_left (by rw [length_around]; omega),
        List.getElem?_append_left (by rw [length_around]; omega)]
      exact ih hlt
    · -- the last pair stands right after all the others
      rw [List.getElem?_append_right (by rw [length_around]),
        List.getElem?_append_right (by rw [length_around]; omega), length_around,
        Nat.sub_self, Nat.add_sub_cancel_left (2 * k + 1) 1]
      exact ⟨rfl, rfl⟩

/-- A bucket is around another if the other is around it. -/
theorem holding_mem_around_comm :
    holding owner' t w ∈ around owner ts w n ↔ holding owner ts w ∈ around owner' t w n := by
  rw [holding_mem_around_iff, holding_mem_around_iff, eq_comm, ← Int.natAbs_neg, Int.neg_sub]

end BucketKey

/-- **The keys of buckets tile the time line.** Let buckets have any width. The start of the bucket
of an instant is the only multiple of the width that is not after the instant and less than one
width before it, so that an owner has one key for two instants if and only if no multiple of the
width separates them. The keys around an instant, `n` neighbours on each side, are `2 * n + 1`
different keys of the owner: first the key of the instant, and then for each `k` from one to `n`
those of the buckets `k` widths earlier and `k` widths later. Among them is the key of another
instant if and only if the key of the first is among those around the other. -/
theorem bucket_keys_tile_time (w : BucketWidth) (owner : String) :
    (∀ ts m : Int, m = w.floor ts ↔ w.ms ∣ m ∧ ts - w.ms < m ∧ m ≤ ts) ∧
    (∀ t ts : Int, BucketKey.holding owner t w = BucketKey.holding owner ts w ↔
      ¬ ∃ m, w.ms ∣ m ∧ Separates m t ts) ∧
    ∀ (ts : Int) (n : Nat),
      let keys := BucketKey.around owner ts w n
      keys.length = 2 * n + 1 ∧ keys.Nodup ∧ (∀ key ∈ keys, key.owner = owner) ∧
      keys[0]? = some (BucketKey.holding owner ts w) ∧
      (∀ k < n, keys[2 * k + 1]? = some ⟨owner, w.floor ts - (k + 1) * w.ms⟩ ∧
        keys[2 * k + 2]? = some ⟨owner, w.floor ts + (k + 1) * w.ms⟩) ∧
      ∀ t : Int, BucketKey.holding owner t w ∈ keys ↔
        BucketKey.holding owner ts w ∈ BucketKey.around owner t w n := by
  refine ⟨fun ts m => BucketWidth.eq_floor_iff, fun t ts => ?_, fun ts n => ?_⟩
  · rw [BucketKey.holding_eq_holding_iff, BucketWidth.floor_eq_floor_iff]
    exact and_iff_right rfl
  · intro keys
    refine ⟨BucketKey.length_around owner ts w n, BucketKey.nodup_around owner ts w n, ?_, rfl, ?_,
      fun t => BucketKey.holding_mem_around_comm⟩
    · intro key hkey
      exact (BucketKey.mem_around_iff.mp hkey).1
    · intro k hk
      exact BucketKey.getElem?_around owner ts w hk

end TransitDwell
