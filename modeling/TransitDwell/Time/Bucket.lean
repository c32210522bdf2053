/-!
# Time buckets

Instants are whole milliseconds since 1970-01-01 00:00 UTC, and may be negative. Two feeds with
clocks of their own are joined on coarse keys: an owner (a vehicle, a stop) and the bucket of
fixed width in which an instant lies. Buckets start at the multiples of the width, and an instant
on a boundary belongs to the bucket that starts there.
-/

namespace TransitDwell

/-- Milliseconds in a second. -/
def msPerSecond : Int := 1000

/-- Milliseconds in a minute. -/
def msPerMinute : Int := 60000

/-- Milliseconds in a day of twenty-four hours. -/
def msPerDay : Int := 86400000

/-- The width of a bucket. -/
structure BucketWidth where
  /-- The width in milliseconds. -/
  ms : Int
  /-- A bucket is never empty. -/
  pos : 0 < ms

namespace BucketWidth

/-- A width in whole minutes; no minutes count as one. -/
def ofMinutes (minutes : Nat) : BucketWidth where
  ms := (max minutes 1 : Nat) * msPerMinute
  pos := by
    have h : (1 : Int) ≤ (max minutes 1 : Nat) := by exact_mod_cast Nat.le_max_right minutes 1
    unfold msPerMinute
    omega

/-- The start of the bucket in which an instant lies. -/
def floor (w : BucketWidth) (ts : Int) : Int := ts / w.ms * w.ms

end BucketWidth

/-- A bucket of one owner. -/
structure BucketKey where
  /-- Whose bucket it is. -/
  owner : String
  /-- The start of the bucket. -/
  start : Int
  deriving DecidableEq

namespace BucketKey

/-- The bucket of `owner` in which an instant lies. -/
def holding (owner : String) (ts : Int) (w : BucketWidth) : BucketKey := ⟨owner, w.floor ts⟩

/-- The buckets `k` widths before and after the bucket that starts at `start`. -/
def pair (owner : String) (start : Int) (w : BucketWidth) (k : Nat) : List BucketKey :=
  [⟨owner, start - k * w.ms⟩, ⟨owner, start + k * w.ms⟩]

/-- The bucket in which an instant lies, and then its `n` neighbours on each side, nearest first
and the earlier of two before the later. -/
def around (owner : String) (ts : Int) (w : BucketWidth) (n : Nat) : List BucketKey :=
  holding owner ts w :: (List.range n).flatMap fun k => pair owner (w.floor ts) w (k + 1)

/-- The order of keys: by owner, code point by code point, and then by start. -/
def notAfter (a b : BucketKey) : Bool :=
  a.owner < b.owner || (a.owner = b.owner && a.start ≤ b.start)

/-- Puts keys into order. -/
def sort (keys : List BucketKey) : List BucketKey := keys.mergeSort notAfter

end BucketKey

end TransitDwell
