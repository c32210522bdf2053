import TransitDwell.Config
import TransitDwell.Keyed
import TransitDwell.Record
import TransitDwell.Time.Bucket

/-!
# Joining observations to events

Passenger counters and vehicle positions come from different systems with different clocks, so
that an observation is joined to the events of its vehicle in the same time bucket, and in as many
neighbouring buckets on each side as the rule widens to.

The events are indexed by bucket once, and each observation then looks its buckets up. By
`EventIndex.eventsAt_build` it finds there what a search of all events would find. What the
index answers is said without it in `MatchRule.joins`: an event joins an observation if the
vehicle is the same, the event is of a kind that the rule considers, and the buckets are no
further apart than the widening.
-/

namespace TransitDwell

namespace MatchRule

/-- Whether an event takes part in the join: it names a vehicle, and is an arrival where only
arrivals are joined. -/
def considers (r : MatchRule) (e : StopEvent) : Bool :=
  e.vehicle != "" && (e.isArrival || !r.arrivalsOnly)

/-- The bucket of an event. -/
def keyOf (r : MatchRule) (e : StopEvent) : BucketKey := .holding e.vehicle e.time r.width

/-- Whether an event joins an observation. -/
def joins (r : MatchRule) (o : Observation) (e : StopEvent) : Bool :=
  o.vehicle != "" && r.considers e && e.vehicle == o.vehicle &&
    (r.width.floor e.time - r.width.floor o.time).natAbs ≤ r.widening * r.width.ms.natAbs

end MatchRule

/-- Events by the bucket of their vehicle and time; those of one bucket in the order in which they
were given. -/
abbrev EventIndex := Keyed BucketKey (List StopEvent)

namespace EventIndex

/-- Adds an event behind those of its bucket, if it takes part in the join. -/
def add (r : MatchRule) (index : EventIndex) (e : StopEvent) : EventIndex :=
  if r.considers e then index.upsert (r.keyOf e) [e] (· ++ [e]) else index

/-- The index of a list of events. -/
def build (r : MatchRule) (events : List StopEvent) : EventIndex :=
  events.foldl (add r) Keyed.empty

/-- The events of a bucket. -/
def eventsAt (index : EventIndex) (key : BucketKey) : List StopEvent := (index.get? key).getD []

theorem eventsAt_add (r : MatchRule) (index : EventIndex) (e : StopEvent) (key : BucketKey) :
    (add r index e).eventsAt key =
      index.eventsAt key ++ [e].filter fun e => r.considers e && r.keyOf e == key := by
  unfold add eventsAt
  by_cases hc : r.considers e
  · by_cases hk : r.keyOf e = key
    · subst hk
      cases h : Keyed.get? index (r.keyOf e) <;> simp [hc, Keyed.get?_upsert, h]
    · have hk' : ¬ key = r.keyOf e := fun h => hk h.symm
      simp [hc, Keyed.get?_upsert, hk, hk']
  · simp [hc]

/-- The index has under a key what a search of all events finds there. -/
theorem eventsAt_build (r : MatchRule) (events : List StopEvent) (key : BucketKey) :
    (build r events).eventsAt key = events.filter fun e => r.considers e && r.keyOf e == key := by
  have main (index : EventIndex) : (events.foldl (add r) index).eventsAt key =
      index.eventsAt key ++ events.filter fun e => r.considers e && r.keyOf e == key := by
    induction events generalizing index with
    | nil => simp
    | cons e es ih =>
      rw [List.foldl_cons, ih, eventsAt_add, List.append_assoc, ← List.filter_append]
      rfl
  simpa [build, eventsAt] using main Keyed.empty

end EventIndex

/-- An observation with the events that joined it. -/
structure CountMatch where
  /-- The observation. -/
  observation : Observation
  /-- The events: none where nothing shares a bucket, several where the join is ambiguous. -/
  events : List StopEvent
  deriving DecidableEq

namespace CountMatch

/-- Whether any event joined the observation. -/
def isMatched (m : CountMatch) : Bool := !m.events.isEmpty

/-- How far an event is from the observation in time. -/
def distance (m : CountMatch) (e : StopEvent) : Nat := (e.time - m.observation.time).natAbs

/-- The event nearest to the observation in time; of equally near ones the first. -/
def nearest? (m : CountMatch) : Option StopEvent := m.events.minOn? m.distance

end CountMatch

namespace EventIndex

/-- The match of one observation: the events of its own bucket, then of the neighbouring buckets,
nearest first. An observation without a vehicle matches nothing. -/
def matchOne (r : MatchRule) (index : EventIndex) (o : Observation) : CountMatch :=
  if o.vehicle = "" then ⟨o, []⟩
  else ⟨o, (BucketKey.around o.vehicle o.time r.width r.widening).flatMap index.eventsAt⟩

/-- One match for each observation, in their order. -/
def matchAll (r : MatchRule) (index : EventIndex) (observations : List Observation) :
    List CountMatch :=
  observations.map (matchOne r index)

end EventIndex

end TransitDwell
