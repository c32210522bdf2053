import TransitDwell.Time.YearlyChange
import TransitDwell.Time.Zone

/-!
# Eras of a zone

The clocks of a place have been set by one standard offset after another, each for an era. In an
era clocks are ahead of standard time by a saving: always the same one, or one that yearly changes
set. When an era begins, the last yearly change before it is in force already. An era ends at a
date and a time of day, told like that of a change.

The eras of a place give the history of its clocks: an offset to begin with, and the seconds at
which the offset changes. A change that is followed by another before clocks show again what they
showed at it counts as one with it: clocks that go back at the end of an era, and forward at once,
do not go back.
-/

namespace TransitDwell

/-! ### Eras -/

/-- An era of the clocks of a place. -/
structure ZoneEra where
  /-- The offset from UTC of standard time, in seconds. -/
  standard : Int
  /-- Seconds that clocks are ahead of standard time before any change. -/
  saving : Int := 0
  /-- The yearly changes. -/
  changes : List YearlyChange := []
  /-- The date and the time of day at which the era ends, if it does. -/
  stop : Option (CivilDate × DialTime) := none
  deriving DecidableEq

/-- An offset from UTC and the second from which on it holds. -/
structure OffsetChange where
  /-- The second since 1970-01-01 UTC. -/
  second : Int
  /-- The offset in seconds. -/
  offset : Int
  deriving DecidableEq

namespace ZoneEra

/-- The second at which an era ends, where clocks show a saving by then. -/
def stopSecond? (e : ZoneEra) (saving : Int) : Option Int :=
  e.stop.map fun stop => stop.2.second stop.1 e.standard saving

/-- The seconds of some occasions with the savings that hold from them on, up to the end of the
era. -/
def savingsFrom (e : ZoneEra) : (saving : Int) → List Occasion → List (Int × Int)
  | _, [] => []
  | saving, o :: os =>
    let second := o.time.second o.date e.standard saving
    if (e.stopSecond? saving).any (· ≤ second) then []
    else (second, o.saving) :: e.savingsFrom o.saving os

/-- The seconds of all changes up to the end of the era with the savings that hold from them on. -/
def savings (e : ZoneEra) : List (Int × Int) :=
  e.savingsFrom e.saving (YearlyChange.occasionsOf e.changes)

/-- The saving that the last of some changes has left. -/
def savingAfter (e : ZoneEra) (savings : List (Int × Int)) : Int :=
  (savings.getLast?.map Prod.snd).getD e.saving

/-- The offset with a saving. -/
def offsetChange (e : ZoneEra) (saving : Int × Int) : OffsetChange :=
  ⟨saving.1, e.standard + saving.2⟩

/-- The second at which the era ends. -/
def endSecond? (e : ZoneEra) : Option Int := e.stopSecond? (e.savingAfter e.savings)

/-- The changes of offset in an era that begins at a second. -/
def offsetsSince (e : ZoneEra) (start : Int) : List OffsetChange :=
  let earlier := e.savings.takeWhile (·.1 < start)
  let later := e.savings.dropWhile (·.1 < start)
  e.offsetChange (start, e.savingAfter earlier) :: later.map e.offsetChange

end ZoneEra

/-! ### The history of the clocks -/

/-- The offsets that the clocks of a place have had. -/
structure ClockHistory where
  /-- The offset to begin with. -/
  first : Int
  /-- The changes of offset, the latest first. -/
  latest : List OffsetChange := []

namespace ClockHistory

/-- The offset at a second. -/
def offsetAt (h : ClockHistory) (second : Int) : Int :=
  match h.latest.find? fun c => c.second ≤ second with
  | some c => c.offset
  | none => h.first

/-- The offsets that occur. -/
def offsets (h : ClockHistory) : List Int := (h.first :: h.latest.map (·.offset)).eraseDups

theorem offsetAt_mem (h : ClockHistory) (second : Int) : h.offsetAt second ∈ h.offsets := by
  unfold offsetAt offsets
  rw [List.mem_eraseDups]
  split
  · next c found =>
    exact List.mem_cons_of_mem _ (List.mem_map_of_mem (List.mem_of_find?_eq_some found))
  · exact List.mem_cons_self

/-- The history with a change that comes later than the others. -/
def change (h : ClockHistory) (c : OffsetChange) : ClockHistory :=
  match h.latest with
  | [] => { h with latest := [c] }
  | last :: before =>
    let previous := (before.head?.map (·.offset)).getD h.first
    if c.second = last.second || c.second + last.offset ≤ last.second + previous then
      { h with latest := ⟨last.second, c.offset⟩ :: before }
    else { h with latest := c :: last :: before }

/-- The changes of offset in eras that follow each other, the first from a second on. -/
def offsetsOfEras : Option Int → List ZoneEra → List OffsetChange
  | some start, e :: es => e.offsetsSince start ++ offsetsOfEras e.endSecond? es
  | _, _ => []

/-- The history of clocks with some eras. Clocks with none show UTC. -/
def ofEras : List ZoneEra → ClockHistory
  | [] => ⟨0, []⟩
  | e :: es =>
    (e.savings.map e.offsetChange ++ offsetsOfEras e.endSecond? es).foldl change
      ⟨e.standard + e.saving, []⟩

/-- The zone of a name whose clocks have a history. -/
def zone (h : ClockHistory) (name : String) : Zone where
  name := name
  offsetAt := h.offsetAt
  offsets := h.offsets
  offsetAt_mem := h.offsetAt_mem

end ClockHistory

end TransitDwell
