import TransitDwell.Keyed

/-!
# Aged stores

A table whose values are forgotten: a value is answered for as long as it is no older than the
retention, counted from when it was last written. Writing gives up the value before. Sweeping
removes what is no longer answered, and nothing else: by `get?_evict` no later answer shows whether
and when a store was swept.
-/

namespace TransitDwell

/-- A value and when it was written. -/
structure Dated (ν : Type) where
  /-- The value. -/
  value : ν
  /-- When it was written. -/
  writtenAt : Int

/-- A table that forgets. -/
structure AgedStore (κ ν : Type) where
  /-- Milliseconds for which a value is answered. -/
  retention : Int
  /-- The values with the times of their writing. -/
  rows : Keyed κ (Dated ν)

namespace AgedStore

variable {κ ν : Type}

/-- A store without values. -/
def empty (retention : Int) : AgedStore κ ν := ⟨retention, .empty⟩

/-- Whether a value is still answered. -/
def isCurrent (s : AgedStore κ ν) (now : Int) (d : Dated ν) : Bool :=
  now - s.retention ≤ d.writtenAt

/-- The number of values held, answered or not. -/
def size (s : AgedStore κ ν) : Nat := s.rows.size

variable [DecidableEq κ]

/-- The value at a key, if it is still answered. -/
def get? (s : AgedStore κ ν) (now : Int) (k : κ) : Option ν :=
  match s.rows.get? k with
  | some d => if s.isCurrent now d then some d.value else none
  | none => none

/-- Writes a value. -/
def put (s : AgedStore κ ν) (now : Int) (k : κ) (v : ν) : AgedStore κ ν :=
  { s with rows := s.rows.insert k ⟨v, now⟩ }

/-- Removes what is no longer answered and tells how many values that were. -/
def evict (s : AgedStore κ ν) (now : Int) : Nat × AgedStore κ ν :=
  let swept := { s with rows := s.rows.filter fun _ d => s.isCurrent now d }
  (s.size - swept.size, swept)

/-! ### What operations do to the answers -/

theorem get?_put (s : AgedStore κ ν) (now later : Int) (k j : κ) (v : ν) :
    (s.put now k v).get? later j =
      if j = k then if later - s.retention ≤ now then some v else none else s.get? later j := by
  unfold get? put
  rw [Keyed.get?_insert]
  by_cases h : j = k <;> simp [h, isCurrent]

/-- Sweeping removes nothing that would be answered from then on. -/
theorem get?_evict (s : AgedStore κ ν) (now later : Int) (k : κ) (h : now ≤ later) :
    (s.evict now).2.get? later k = s.get? later k := by
  unfold get? evict
  simp only [Keyed.get?_filter]
  cases s.rows.get? k with
  | none => rfl
  | some d =>
    by_cases hd : now - s.retention ≤ d.writtenAt
    · simp [Option.filter, isCurrent, hd]
    · have hlater : ¬ later - s.retention ≤ d.writtenAt := by omega
      simp [Option.filter, isCurrent, hd, hlater]

end AgedStore

end TransitDwell
