import TransitDwell.Keyed
import TransitDwell.Scalar

/-!
# Metrics

Counts of what happened at the stages of a prediction: for a named outcome how often it was a hit
and how often a miss, and for a named stage how often it was timed and how long it took in all.
Durations are counted in whole microseconds, each cut off on its own.
-/

namespace TransitDwell

/-- How often an outcome was a hit and how often a miss. -/
structure OutcomeCounts where
  /-- Hits. -/
  hits : Nat
  /-- Misses. -/
  misses : Nat
  deriving DecidableEq

/-- How often a stage was timed and how long it took. -/
structure DurationTotals where
  /-- The number of timings. -/
  samples : Nat
  /-- Their sum in microseconds. -/
  micros : Nat
  deriving DecidableEq

/-- The counts by name. -/
structure Metrics where
  /-- The counts of each outcome. -/
  outcomes : Keyed String OutcomeCounts
  /-- The times of each stage. -/
  durations : Keyed String DurationTotals

/-- A row of the summary. -/
structure MetricRow (α : Type) where
  /-- The name. -/
  name : String
  /-- Hits and misses, for an outcome. -/
  counts : Option OutcomeCounts
  /-- The mean in milliseconds, for a stage. -/
  averageMs : Option α

namespace Metrics

/-- No counts. -/
def empty : Metrics := ⟨.empty, .empty⟩

/-- Counts an outcome. -/
def recordOutcome (m : Metrics) (name : String) (hit : Bool) : Metrics :=
  let one : OutcomeCounts := if hit then ⟨1, 0⟩ else ⟨0, 1⟩
  { m with
    outcomes := m.outcomes.upsert name one fun c => ⟨c.hits + one.hits, c.misses + one.misses⟩ }

/-- Counts a timing given in nanoseconds. -/
def recordDuration (m : Metrics) (name : String) (nanos : Nat) : Metrics :=
  let micros := nanos / 1000
  { m with
    durations := m.durations.upsert name ⟨1, micros⟩ fun d =>
      ⟨d.samples + 1, d.micros + micros⟩ }

/-- How often an outcome was a hit. -/
def hits (m : Metrics) (name : String) : Nat := ((m.outcomes.get? name).map (·.hits)).getD 0

/-- How often an outcome was a miss. -/
def misses (m : Metrics) (name : String) : Nat := ((m.outcomes.get? name).map (·.misses)).getD 0

/-- How often a stage was timed. -/
def samples (m : Metrics) (name : String) : Nat := ((m.durations.get? name).map (·.samples)).getD 0

variable {α : Type} [Scalar α]

/-- The mean of timings in milliseconds. -/
def average (d : DurationTotals) : α :=
  Scalar.ofInt d.micros / Scalar.ofInt d.samples / Scalar.ofInt 1000

/-- All counts, in order of their names; of one name the outcome stands before the stage. -/
def summary (m : Metrics) : List (MetricRow α) :=
  let outcomeRows := m.outcomes.entries.map fun (name, c) => ⟨name, some c, none⟩
  let durationRows := m.durations.entries.map fun (name, d) => ⟨name, none, some (average d)⟩
  (outcomeRows ++ durationRows).mergeSort fun a b => a.name ≤ b.name

end Metrics

end TransitDwell
