import TransitDwell.Keyed
import TransitDwell.Record
import TransitDwell.Time.Zone

/-!
# The event store

Arrivals and departures, kept by stop and service day. Within a stop-day the events stand in
order of time, arrivals before departures at one instant, and otherwise in the order in which they
came; an event is kept once. An event that is added is put into its place in that order
(`pairwise_insertInOrder`).

Everything is judged by age. An event is *current* at an instant `now` if it is no older than the
retention, and the store answers with current events only. An event that is past retention when it
comes is refused, so that the store never grows by what it would not show. Sweeping removes what
is past retention, and then the stop-days left without events.

A range of time is read across all stop-days. The order in which stop-days are visited is not laid
down, and shows only in the order of events of different stops at one instant and in one
direction; it is a parameter of the reading.
-/

namespace TransitDwell

/-- A service day at a stop. -/
structure StopDay where
  /-- The stop. -/
  stop : String
  /-- The service day. -/
  date : CivilDate
  deriving DecidableEq

namespace StopDay

/-- The written form of a stop-day. -/
def text (k : StopDay) : String := k.stop ++ "@" ++ k.date.text

/-- The order of stop-days: by stop, code point by code point, and then by date. -/
def notAfter (a b : StopDay) : Bool :=
  a.stop < b.stop || (a.stop = b.stop && a.date.day ≤ b.date.day)

end StopDay

/-- Puts an event behind all events that are not after it. -/
def insertInOrder (e : StopEvent) : List StopEvent → List StopEvent
  | [] => [e]
  | d :: ds => if d.notAfter e then d :: insertInOrder e ds else e :: d :: ds

/-- The events that an event ties with, looked for backwards from its place among events in
order. -/
def tiesBefore (e : StopEvent) (events : List StopEvent) : List StopEvent :=
  (events.takeWhile fun d => d.notAfter e).reverse.takeWhile fun d => d.ties e

/-- Adds an event to the events of a stop-day, unless it is there already. -/
def addEvent (e : StopEvent) (events : List StopEvent) : List StopEvent :=
  if e ∈ tiesBefore e events then events else insertInOrder e events

theorem mem_of_mem_tiesBefore {e d : StopEvent} {events : List StopEvent}
    (h : d ∈ tiesBefore e events) : d ∈ events :=
  List.takeWhile_subset _ (List.mem_reverse.mp (List.takeWhile_subset _ h))

theorem mem_insertInOrder (e d : StopEvent) (events : List StopEvent) :
    d ∈ insertInOrder e events ↔ d = e ∨ d ∈ events := by
  induction events with
  | nil => simp [insertInOrder]
  | cons c cs ih => by_cases h : c.notAfter e <;> simp [insertInOrder, h, ih, or_left_comm]

theorem mem_addEvent (e d : StopEvent) (events : List StopEvent) :
    d ∈ addEvent e events ↔ d = e ∨ d ∈ events := by
  unfold addEvent
  split
  · next h => exact ⟨.inr, fun hd => hd.elim (· ▸ mem_of_mem_tiesBefore h) id⟩
  · exact mem_insertInOrder e d events

/-- Events in order stay in order. -/
theorem pairwise_insertInOrder (e : StopEvent) (events : List StopEvent)
    (h : events.Pairwise fun a b => a.notAfter b) :
    (insertInOrder e events).Pairwise fun a b => a.notAfter b := by
  induction events with
  | nil => simp [insertInOrder]
  | cons c cs ih =>
    rw [List.pairwise_cons] at h
    by_cases hc : c.notAfter e
    · simp only [insertInOrder, hc, if_true, List.pairwise_cons]
      refine ⟨fun d hd => ?_, ih h.2⟩
      rcases (mem_insertInOrder e d cs).1 hd with rfl | hd
      · exact hc
      · exact h.1 d hd
    · have he : e.notAfter c := by simpa [hc] using StopEvent.notAfter_total c e
      simp only [insertInOrder, hc, Bool.false_eq_true, if_false, List.pairwise_cons]
      refine ⟨fun d hd => ?_, h⟩
      rcases List.mem_cons.1 hd with rfl | hd
      · exact he
      · exact StopEvent.notAfter_trans he (h.1 d hd)

/-- An order in which the rows of a table are visited: each once. -/
structure ScanOrder where
  /-- The rows in the order of the visit. -/
  visit : List (StopDay × List StopEvent) → List (StopDay × List StopEvent)
  /-- Every row is visited once. -/
  perm : ∀ rows, (visit rows).Perm rows

/-- The rows in the order in which their stop-days were first entered. -/
def ScanOrder.entered : ScanOrder := ⟨id, fun _ => .refl _⟩

/-- The events of every stop, by stop-day. -/
structure EventStore where
  /-- Milliseconds for which an event is kept. -/
  retention : Int
  /-- The zone whose calendar gives the service days. -/
  zone : Zone
  /-- The events of each stop-day. -/
  days : Keyed StopDay (List StopEvent)

namespace EventStore

/-- A store without events. -/
def empty (retention : Int) (zone : Zone) : EventStore := ⟨retention, zone, .empty⟩

/-- The earliest instant that is not past retention. -/
def cutoff (s : EventStore) (now : Int) : Int := now - s.retention

/-- Whether an event is not past retention. -/
def isCurrent (s : EventStore) (now : Int) (e : StopEvent) : Bool := s.cutoff now ≤ e.time

/-- The stop-day of a stop at an instant. -/
def dayOf (s : EventStore) (stop : String) (ts : Int) : Option StopDay :=
  (s.zone.serviceDate ts).map fun date => ⟨stop, date⟩

/-! ### Writing -/

/-- Adds an event and tells its stop-day. An event without a stop, past retention or at an instant
without a date is refused. -/
def put (s : EventStore) (now : Int) (e : StopEvent) : Option StopDay × EventStore :=
  if e.stop = "" || !s.isCurrent now e then (none, s)
  else match s.dayOf e.stop e.time with
    | none => (none, s)
    | some day => (some day, { s with days := s.days.upsert day [e] (addEvent e) })

/-- Adds events one after the other and tells how many were accepted. -/
def populate (s : EventStore) (now : Int) (events : List StopEvent) : Nat × EventStore :=
  events.foldl (fun (accepted, s) e =>
    let (day, s) := s.put now e
    (if day.isSome then accepted + 1 else accepted, s)) (0, s)

/-- What sweeping leaves of the events of a stop-day, if anything. -/
def keepCurrent (s : EventStore) (now : Int) (events : List StopEvent) : Option (List StopEvent) :=
  match events.filter (s.isCurrent now) with
  | [] => none
  | kept => some kept

/-- The number of events, current or not. -/
def eventCount (s : EventStore) : Nat :=
  s.days.entries.foldr (fun row n => row.2.length + n) 0

/-- Removes what is past retention and tells how many events that were. -/
def evict (s : EventStore) (now : Int) : Nat × EventStore :=
  let swept := { s with days := s.days.filterMap fun _ events => s.keepCurrent now events }
  (s.eventCount - swept.eventCount, swept)

/-! ### Reading -/

/-- The current events of a stop-day, in order. -/
def get (s : EventStore) (now : Int) (day : StopDay) : List StopEvent :=
  ((s.days.get? day).getD []).filter (s.isCurrent now)

/-- The current events of the stop-day of a stop at an instant. -/
def getForTime (s : EventStore) (now : Int) (stop : String) (ts : Int) : List StopEvent :=
  match s.dayOf stop ts with
  | some day => s.get now day
  | none => []

/-- The stop-days, in order. -/
def keys (s : EventStore) : List StopDay := s.days.keys.mergeSort StopDay.notAfter

/-- The current events from `start` up to, and not including, `stop`, in order. -/
def between (s : EventStore) (scan : ScanOrder) (now start stop : Int) : List StopEvent :=
  let lower := max start (s.cutoff now)
  let found := (scan.visit s.days.entries).flatMap fun row =>
    row.2.filter fun e => lower ≤ e.time && e.time < stop
  found.mergeSort StopEvent.notAfter

end EventStore

end TransitDwell
