import TransitDwell.Scalar
import TransitDwell.Time.ZoneTable

/-!
# Configuration

The settings of the dwell service, their defaults, and the checks that a configuration must pass
before a service is built from it. The checks run in a fixed order and the first that fails is the
one reported.

Of the retention and of the longest headway it is checked that they are positive, but not that 64
bits hold them in milliseconds. A retention that does not fit, such as the greatest number of
seconds that can be set, wraps around (`DwellConfig.retentionMs`), and may come to be negative.
-/

namespace TransitDwell

/-- How door counts change boarding times: one row for each boarding type, one column for each
door count. -/
structure DoorFactors (α : Type) where
  /-- The rows. -/
  rows : List (List α)

/-- The factor of a boarding type and a door count, where the matrix has one. -/
def DoorFactors.factor? {α : Type} (m : DoorFactors α) (boardingType doors : Nat) : Option α :=
  m.rows[boardingType]?.bind fun row => row[doors]?

/-- How observations are joined to events. -/
structure MatchRule where
  /-- The width of the buckets of the join. -/
  width : BucketWidth
  /-- Whether observations are joined to arrivals only. -/
  arrivalsOnly : Bool
  /-- How many neighbouring buckets on each side are searched. -/
  widening : Nat

/-- The settings of the dwell service. -/
structure DwellConfig (α : Type) [Scalar α] where
  /-- Width of a time bucket in minutes. -/
  bucketMinutes : Nat := 5
  /-- Whether observations are joined to arrivals only. -/
  arrivalsOnly : Bool := false
  /-- How many neighbouring buckets on each side the join searches. -/
  widening : Nat := 0
  /-- Historical dwells that the filter needs. -/
  minDays : Nat := 3
  /-- Historical dwells that the filter takes at most. -/
  maxDays : Nat := 5
  /-- Days back that are searched for historical dwells. -/
  searchDays : Nat := 21
  /-- The filter error assumed where the filter has not run yet. -/
  initialError : α := 50.0
  /-- Seconds that opening and closing the doors take. -/
  boardingConstant : α := 2.6
  /-- The longest gap between vehicles, in seconds, that counts as a headway. -/
  maxHeadway : Int := 7200
  /-- Whether a stop without enough history is taken to see no passengers. -/
  allowEmptyDwell : Bool := true
  /-- Seconds per boarding passenger, by boarding type. -/
  secondsPerBoarding : List α := [4.3, 2.5, 3.4]
  /-- Seconds per boarding passenger for every other boarding type. -/
  defaultSecondsPerBoarding : α := 2.5
  /-- How door counts change boarding times. -/
  doorFactors : Option (DoorFactors α) := none
  /-- The boarding rate assumed where none is known. -/
  defaultRate : Option α := none
  /-- Seconds for which anything is kept. -/
  retention : Int := 345600
  /-- The zone whose calendar gives the service days. -/
  zone : Zone := Zone.losAngeles
  /-- The dwell, in milliseconds, where nothing better is known. -/
  baselineDwell : Int := 10000

/-- A check that a configuration fails. -/
inductive ConfigFault where
  /-- No historical dwell is asked for. -/
  | noMinDays
  /-- Fewer dwells are taken than are needed. -/
  | maxBelowMin (max min : Nat)
  /-- Too few days are searched to find the dwells needed. -/
  | searchBelowMin (search min : Nat)
  /-- The initial filter error is negative or no ordinary number. -/
  | initialError
  /-- Nothing is kept for any time. -/
  | retention
  /-- No gap counts as a headway. -/
  | maxHeadway
  /-- Some time per boarding is negative or no ordinary number. -/
  | secondsPerBoarding
  deriving DecidableEq

namespace ConfigFault

/-- What is said of the check, in terms of the names of the settings. -/
def detail : ConfigFault → String
  | noMinDays => "min_kalman_days must be at least 1"
  | maxBelowMin max min =>
    "max_kalman_days (" ++ toString max ++ ") is below min_kalman_days (" ++ toString min ++ ")"
  | searchBelowMin search min =>
    "max_kalman_days_to_search (" ++ toString search ++ ") can never collect min_kalman_days ("
      ++ toString min ++ ") samples"
  | initialError => "initial_error_value must be a finite, non-negative number"
  | retention => "retention_secs must be positive"
  | maxHeadway => "max_headway_secs must be positive"
  | secondsPerBoarding => "seconds per boarding values must be finite and non-negative"

/-- The message of a configuration that fails the check. -/
def message (f : ConfigFault) : String := "invalid config: " ++ f.detail

end ConfigFault

namespace DwellConfig

variable {α : Type} [Scalar α]

/-- The first check that the configuration fails. -/
def fault? (c : DwellConfig α) : Option ConfigFault :=
  if c.minDays = 0 then some .noMinDays
  else if c.maxDays < c.minDays then some (.maxBelowMin c.maxDays c.minDays)
  else if c.searchDays < c.minDays then some (.searchBelowMin c.searchDays c.minDays)
  else if !Scalar.isSize c.initialError then some .initialError
  else if c.retention ≤ 0 then some .retention
  else if c.maxHeadway ≤ 0 then some .maxHeadway
  else if (c.secondsPerBoarding ++ [c.defaultSecondsPerBoarding]).any fun s => !Scalar.isSize s then
    some .secondsPerBoarding
  else none

/-- Whether the configuration passes every check. -/
def isValid (c : DwellConfig α) : Bool := c.fault?.isNone

/-- A configuration passes every check if the bounds on days leave room for enough historical
dwells, and if every other setting that is checked is in range. -/
theorem isValid_iff (c : DwellConfig α) :
    c.isValid = true ↔ 0 < c.minDays ∧ c.minDays ≤ c.maxDays ∧ c.minDays ≤ c.searchDays ∧
      Scalar.isSize c.initialError = true ∧ 0 < c.retention ∧ 0 < c.maxHeadway ∧
      ∀ s ∈ c.secondsPerBoarding ++ [c.defaultSecondsPerBoarding], Scalar.isSize s = true := by
  have hpaces : ((c.secondsPerBoarding ++ [c.defaultSecondsPerBoarding]).any
      fun s => !Scalar.isSize s) = false ↔
      ∀ s ∈ c.secondsPerBoarding ++ [c.defaultSecondsPerBoarding], Scalar.isSize s = true := by
    simp only [List.any_eq_false, Bool.not_eq_true', Bool.not_eq_false]
  rw [isValid, fault?, ← hpaces]
  grind

/-- The defaults pass every check. -/
theorem isValid_default : ({} : DwellConfig Rat).isValid = true := by decide +kernel

/-- The width of a time bucket. -/
def bucketWidth (c : DwellConfig α) : BucketWidth := .ofMinutes c.bucketMinutes

/-- Milliseconds for which anything is kept, in 64 bits. -/
def retentionMs (c : DwellConfig α) : Int := wrapWhole (c.retention * msPerSecond)

/-- How observations are joined to events. -/
def matchRule (c : DwellConfig α) : MatchRule := ⟨c.bucketWidth, c.arrivalsOnly, c.widening⟩

end DwellConfig

end TransitDwell
