import TransitDwell.PassengerHistory
import TransitDwell.Predictor

/-!
# The dwell service

The service owns every store that predictions are made from. Arrivals and departures, and batches
of passenger counts, go in; predictions come out. The clock is not part of it: each operation is
told the present instant.

A batch of observations is joined to the current events in a window around it. The window is wide
enough for the bucket of the earliest and of the latest observation with all their neighbours, as
long as 64 bits hold its ends. An end that they do not hold wraps around, and the window may then be
empty, for all observations of the batch.
-/

namespace TransitDwell

/-- The stores of the service. -/
structure Service (α : Type) [Scalar α] where
  /-- The settings. -/
  config : DwellConfig α
  /-- Arrivals and departures. -/
  events : EventStore
  /-- What is known of passengers. -/
  history : PassengerHistory α
  /-- The doors of vehicles, as learned from observations. -/
  doors : Keyed String Nat
  /-- What attempts keep. -/
  stores : Stores α
  /-- What attempts report. -/
  metrics : Metrics

/-- How much a sweep removed. -/
structure EvictionReport where
  /-- Events. -/
  events : Nat
  /-- Daily totals. -/
  days : Nat
  /-- Filter errors. -/
  filterErrors : Nat
  /-- Predictions. -/
  contexts : Nat
  deriving DecidableEq

/-- How much a sweep removed in all. -/
def EvictionReport.total (r : EvictionReport) : Nat :=
  r.events + r.days + r.filterErrors + r.contexts

/-- The doors of vehicles after an observation. The last word on a vehicle counts. -/
def learnDoors (doors : Keyed String Nat) (o : Observation) : Keyed String Nat :=
  match o.doors with
  | some count => doors.insert o.vehicle count
  | none => doors

namespace Service

variable {α : Type} [Scalar α]

/-- The number of days searched for a rate is kept in 32 bits. -/
def lookbackDays (c : DwellConfig α) : Nat := c.maxDays % 4294967296

/-- A service with empty stores. -/
def new (c : DwellConfig α) : Service α where
  config := c
  events := .empty c.retentionMs c.zone
  history := .empty c.maxHeadway (lookbackDays c) c.retentionMs
  doors := .empty
  stores := .empty c.retentionMs
  metrics := .empty

/-- A service with empty stores, if the configuration passes every check. -/
def create (c : DwellConfig α) : Except ConfigFault (Service α) :=
  match c.fault? with
  | some fault => .error fault
  | none => .ok (new c)

/-- Switches the feed of passenger counts on or off. -/
def setEnabled (s : Service α) (enabled : Bool) : Service α :=
  { s with history := { s.history with enabled := enabled } }

/-- Takes in an event and tells its stop-day. A malformed event is dropped. -/
def ingestEvent (s : Service α) (now : Int) (e : StopEvent) : Option StopDay × Service α :=
  match e.missing? with
  | some _ => (none, s)
  | none =>
    let (day, events) := s.events.put now e
    (day, { s with events := events })

/-! ### Passenger counts -/

/-- How far beyond its observations a batch reads events, in 64 bits. -/
def batchPad (rule : MatchRule) : Int := wrapWhole (rule.width.ms * (1 + rule.widening))

/-- The earliest and the latest instant of a batch that is not empty. -/
def batchSpan : List Observation → Option (Int × Int)
  | [] => none
  | o :: os =>
    some (os.foldl (fun span o => (min span.1 o.time, max span.2 o.time)) (o.time, o.time))

/-- The window of a batch with a span, from its first end up to, and not including, its second. Each
end is kept in 64 bits. -/
def batchWindow (rule : MatchRule) (span : Int × Int) : Int × Int :=
  (wrapWhole (span.1 - batchPad rule), wrapWhole (span.2 + batchPad rule + 1))

/-- The matches of a batch against the events around it. -/
def matchBatch (s : Service α) (scan : ScanOrder) (now : Int) (batch : List Observation) :
    List CountMatch :=
  match batchSpan batch with
  | none => []
  | some span =>
    let rule := s.config.matchRule
    let (start, stop) := batchWindow rule span
    (EventIndex.build rule (s.events.between scan now start stop)).matchAll rule batch

/-- Takes in a batch of passenger counts: learns doors, joins the observations to the events
around them, and records the matches. Gives one match for each observation. -/
def ingestCounts (s : Service α) (scan : ScanOrder) (now : Int) (batch : List Observation) :
    List CountMatch × Service α :=
  let matched := s.matchBatch scan now batch
  (matched,
    { s with
      doors := batch.foldl learnDoors s.doors
      history := (s.history.recordAll s.events now matched).2 })

/-! ### Predictions -/

/-- Where attempts of the service have their facts from. -/
def sources (s : Service α) (now : Int) : Sources α where
  hasData := s.history.hasData
  rate route _ stop ts := .ok (s.history.rateBefore s.events route stop ts)
  headway stop route ts := .ok (PassengerHistory.lastHeadway s.events now stop route ts)
  doors vehicle := .ok (s.doors.get? vehicle)
  dwell route stop ts := .ok (PassengerHistory.dwellOn s.events now route stop ts)

/-- The strategy that goes by passenger counts. -/
def countsStrategy (now : Int) : Strategy (Service α) where
  name := Strategy.countsName
  attempt r s :=
    let attempt := Attempt.make s.config (s.sources now) now s.stores r
    (attempt.outcome,
      { s with stores := attempt.stores, metrics := s.metrics.noteAll attempt.marks })

/-- Predicts a dwell from passenger counts, or else by the schedule. -/
def predict (s : Service α) (now : Int) (r : DwellRequest) : Prediction × Service α :=
  Strategy.predict [countsStrategy now, .scheduled s.config.baselineDwell] s.config.baselineDwell
    r s

/-! ### Sweeping -/

/-- Removes from every store what is past retention. -/
def evictAll (s : Service α) (now : Int) : EvictionReport × Service α :=
  let (events, eventStore) := s.events.evict now
  let (days, history) := s.history.evict eventStore now
  let (filterErrors, errorStore) := s.stores.filterErrors.evict now
  let (contexts, contextStore) := s.stores.contexts.evict now
  (⟨events, days, filterErrors, contexts⟩,
    { s with
      events := eventStore
      history := history
      stores := ⟨errorStore, contextStore⟩ })

end Service

end TransitDwell
