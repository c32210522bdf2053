import TransitDwell.AgedStore
import TransitDwell.DaysBack
import TransitDwell.Estimate.Boarding
import TransitDwell.Estimate.Filter
import TransitDwell.Lookup
import TransitDwell.Metrics
import TransitDwell.Record

/-!
# Attempting a prediction from passenger counts

An attempt goes through stages: a value remembered for the same context, the boarding rate, the
headway, the boarding estimate, historical dwells, and the filter. Any stage may end it. Where and
with what an attempt ends is its `Ending`, and everything else follows from the ending: the
answer, the questions that were asked, the marks left in the metrics, and what is written.

Only an attempt that has gone through the filter writes anything: the filter error at the trip and
stop position, and the prediction for the context.
-/

namespace TransitDwell

/-! ### What is kept between attempts -/

/-- A place where the filter runs. -/
structure FilterKey where
  /-- The trip. -/
  trip : String
  /-- The place of the stop on the trip. -/
  position : Nat
  deriving DecidableEq

/-- The context of a prediction: the same vehicle comes to the same stop of its trip at the same
scheduled time. -/
structure PredictionContext where
  /-- The trip. -/
  trip : String
  /-- The place of the stop on the trip. -/
  position : Nat
  /-- The vehicle. -/
  vehicle : String
  /-- The start of the bucket of the scheduled arrival. -/
  bucket : Int
  deriving DecidableEq

namespace DwellRequest

/-- Where the filter runs for a request. -/
def filterKey (r : DwellRequest) : FilterKey := ⟨r.trip, r.position⟩

/-- The context of a request, if it has a scheduled arrival. -/
def context? (r : DwellRequest) (w : BucketWidth) : Option PredictionContext :=
  r.scheduledArrival.map fun ts => ⟨r.trip, r.position, r.vehicle, w.floor ts⟩

end DwellRequest

/-- What attempts keep: filter errors and predictions. -/
structure Stores (α : Type) where
  /-- The last filter error at each place. -/
  filterErrors : AgedStore FilterKey α
  /-- The last prediction in each context. -/
  contexts : AgedStore PredictionContext Int

namespace Stores

/-- Stores without values. -/
def empty {α : Type} (retention : Int) : Stores α := ⟨.empty retention, .empty retention⟩

end Stores

/-! ### Sources -/

/-- Where an attempt has its facts from. -/
structure Sources (α : Type) where
  /-- Whether there are passenger counts to predict from. -/
  hasData : Bool
  /-- The boarding rate of a route, a trip and a stop at an instant. -/
  rate : (route trip stop : String) → Int → Lookup α
  /-- The headway in milliseconds of a stop and a route at an instant. -/
  headway : (stop route : String) → Int → Lookup Int
  /-- The doors of a vehicle. -/
  doors : (vehicle : String) → Lookup Nat
  /-- The dwell of a route and a stop on the service day of an instant. -/
  dwell : (route stop : String) → Int → Lookup Int
  /-- What comes of reading a filter error, given what the store holds. -/
  readError : FilterKey → Option α → Lookup α := fun _ held => .ok held
  /-- Whether writing a filter error fails. -/
  writeFails : FilterKey → Bool := fun _ => false

/-- A question that an attempt asks. -/
inductive Question where
  /-- For the boarding rate. -/
  | rate (route trip stop : String) (ts : Int)
  /-- For the headway. -/
  | headway (stop route : String) (ts : Int)
  /-- For the doors of a vehicle. -/
  | doors (vehicle : String)
  /-- For a historical dwell. -/
  | dwell (route stop : String) (ts : Int)
  deriving DecidableEq

/-! ### Metrics -/

/-- An outcome that attempts report. -/
inductive AttemptOutcome where
  /-- Whether a dwell was predicted. -/
  | dwell
  /-- Whether the context had a prediction. -/
  | processing
  /-- Whether there was a boarding rate. -/
  | rate
  /-- Whether there was a usable headway. -/
  | headway
  /-- Whether there were enough historical dwells. -/
  | history
  deriving DecidableEq

namespace AttemptOutcome

/-- The name of an outcome in the metrics. -/
def name : AttemptOutcome → String
  | dwell => "PredictionDwellHit"
  | processing => "PredictionDwellApcProcessingHit"
  | rate => "PredictionDwellApcHit"
  | headway => "PredictionDwellHeadwayHit"
  | history => "PredictionDwellHistoryHit"

/-- Every outcome, in the order of the stages. -/
def all : List AttemptOutcome := [dwell, processing, rate, headway, history]

end AttemptOutcome

/-- A stage that attempts time. -/
inductive TimedStage where
  /-- The whole attempt. -/
  | processing
  /-- Finding the boarding rate. -/
  | rate
  /-- Finding the headway. -/
  | headway
  /-- The boarding estimate. -/
  | boarding
  /-- Gathering historical dwells. -/
  | history
  /-- The filter. -/
  | filter
  deriving DecidableEq

namespace TimedStage

/-- The name of a stage in the metrics. -/
def name : TimedStage → String
  | processing => "PredictionApcProcessingTime"
  | rate => "PredictionApcPARProcessingTime"
  | headway => "PredictionApcHeadwayProcessingTime"
  | boarding => "PredictionApcBoardingProcessingTime"
  | history => "PredictionApcHistoryProcessingTime"
  | filter => "PredictionApcPredictProcessingTime"

/-- Every stage; the whole attempt comes first. -/
def all : List TimedStage := [processing, rate, headway, boarding, history, filter]

end TimedStage

/-- What an attempt reports to the metrics. -/
inductive Mark where
  /-- An outcome that was a hit. -/
  | hit (outcome : AttemptOutcome)
  /-- An outcome that was a miss. -/
  | miss (outcome : AttemptOutcome)
  /-- A stage that was timed. -/
  | timed (stage : TimedStage)
  deriving DecidableEq

namespace Metrics

/-- Counts a mark. How long a stage took is not part of a mark, so that it counts as no time. -/
def note (m : Metrics) : Mark → Metrics
  | .hit outcome => m.recordOutcome outcome.name true
  | .miss outcome => m.recordOutcome outcome.name false
  | .timed stage => m.recordDuration stage.name 0

/-- Counts marks in their order. -/
def noteAll (m : Metrics) (marks : List Mark) : Metrics := marks.foldl note m

end Metrics

/-! ### Endings -/

/-- Where and with what an attempt ends. -/
inductive Ending (α : Type) where
  /-- At the first stop of a trip there is nothing to predict. -/
  | startOfTrip
  /-- There are no passenger counts. -/
  | noData
  /-- The request has no scheduled arrival. -/
  | unscheduled
  /-- The context has a prediction. -/
  | remembered (value : Int)
  /-- No boarding rate is known or assumed. -/
  | noRate
  /-- There is no headway, or it is too long to be one. -/
  | noHeadway
  /-- There are too few historical dwells. -/
  | tooFewDwells (daysAsked : Nat)
  /-- The filter was left without samples. -/
  | noSamples (daysAsked : Nat)
  /-- The filter has run. -/
  | filtered (context : PredictionContext) (daysAsked : Nat) (step : FilterStep α)

/-- Why an attempt had nothing to say. -/
inductive DeclineReason where
  /-- At the first stop of a trip. -/
  | startOfTrip
  /-- Without passenger counts. -/
  | noData
  /-- Without a scheduled arrival. -/
  | unscheduled
  /-- Without a boarding rate. -/
  | noRate
  /-- Without a usable headway. -/
  | noHeadway
  /-- Without enough historical dwells. -/
  | tooFewDwells
  /-- Without samples for the filter. -/
  | noSamples
  deriving DecidableEq

/-- The wording of a reason. -/
def DeclineReason.text : DeclineReason → String
  | startOfTrip => "start of trip"
  | noData => "no apc data"
  | unscheduled => "no scheduled arrival"
  | noRate => "no boarding rate"
  | noHeadway => "no usable headway"
  | tooFewDwells => "not enough historical dwells"
  | noSamples => "filter had no samples"

/-- What comes of asking for a prediction: a dwell, or a reason for none. -/
inductive Outcome where
  /-- A dwell. -/
  | predicted (prediction : Prediction)
  /-- A reason for none. -/
  | declined (reason : DeclineReason)
  deriving DecidableEq

/-- A dwell predicted from passenger counts. -/
def Outcome.counted (value : Int) : Outcome := .predicted ⟨value, .passengerCounts⟩

namespace Ending

variable {α : Type} [Scalar α]

/-- The dwell in whole milliseconds that a step of the filter predicts. -/
def valueOf (step : FilterStep α) : Int := Scalar.truncate step.prediction

/-- The answer of an attempt. A stop without enough history is taken to see no passengers where
that is allowed. -/
def outcome (allowEmptyDwell : Bool) : Ending α → Outcome
  | startOfTrip => .declined .startOfTrip
  | noData => .declined .noData
  | unscheduled => .declined .unscheduled
  | remembered value => .counted value
  | noRate => .declined .noRate
  | noHeadway => .declined .noHeadway
  | tooFewDwells _ => if allowEmptyDwell then .counted 0 else .declined .tooFewDwells
  | noSamples _ => .declined .noSamples
  | filtered _ _ step => .counted (valueOf step)

/-- The marks of an attempt that found a boarding rate. -/
def ratedMarks : List Mark := [.miss .processing, .hit .rate, .timed .rate]

/-- The marks of an attempt that found a usable headway. -/
def boardedMarks : List Mark := ratedMarks ++ [.hit .headway, .timed .headway, .timed .boarding]

/-- The marks of an attempt that found enough historical dwells. -/
def sampledMarks : List Mark := boardedMarks ++ [.hit .history, .timed .history]

/-- What an attempt reports to the metrics, in order. -/
def marks : Ending α → List Mark
  | startOfTrip => []
  | noData => [.miss .dwell]
  | unscheduled => [.miss .dwell]
  | remembered _ => [.hit .processing]
  | noRate => [.miss .processing, .miss .rate, .miss .dwell]
  | noHeadway => ratedMarks ++ [.miss .headway, .miss .dwell]
  | tooFewDwells _ => boardedMarks ++ [.miss .history, .miss .dwell]
  | noSamples _ => sampledMarks ++ [.miss .dwell]
  | filtered _ _ _ => sampledMarks ++ [.hit .dwell, .timed .processing, .timed .filter]

/-- The questions of an attempt for a request that is adjusted to an instant, in order: the rate,
the headway, the doors, and the dwells of a number of days. -/
def questions (r : DwellRequest) (ts : Int) : Ending α → List Question
  | startOfTrip | noData | unscheduled | remembered _ => []
  | noRate => [.rate r.route r.trip r.stop ts]
  | noHeadway => [.rate r.route r.trip r.stop ts, .headway r.stop r.route ts]
  | tooFewDwells days | noSamples days | filtered _ days _ =>
    [.rate r.route r.trip r.stop ts, .headway r.stop r.route ts, .doors r.vehicle] ++
      (List.range days).map fun back => .dwell r.route r.stop (DaysBack.before ts (back + 1))

/-- What an attempt writes. A filter error that cannot be written is lost; the prediction is
remembered all the same. -/
def write (s : Sources α) (now : Int) (r : DwellRequest) (stores : Stores α) :
    Ending α → Stores α
  | filtered context _ step =>
    { filterErrors :=
        if s.writeFails r.filterKey then stores.filterErrors
        else stores.filterErrors.put now r.filterKey step.error
      contexts := stores.contexts.put now context (valueOf step) }
  | _ => stores

end Ending

/-! ### The stages -/

namespace DwellConfig

variable {α : Type} [Scalar α]

/-- The boarding rate: what the source has, or else the assumed one. -/
def rateFor (c : DwellConfig α) (s : Sources α) (r : DwellRequest) (ts : Int) : Option α :=
  (s.rate r.route r.trip r.stop ts).value?.or c.defaultRate

/-- The usable headway in whole seconds. -/
def headwayFor (c : DwellConfig α) (s : Sources α) (r : DwellRequest) (ts : Int) : Option Int :=
  (s.headway r.stop r.route ts).value?.bind fun ms =>
    if ms.tdiv msPerSecond ≤ c.maxHeadway then some (ms.tdiv msPerSecond) else none

/-- The raw dwell for a rate and a headway. -/
def rawDwellFor (c : DwellConfig α) (s : Sources α) (r : DwellRequest) (rate : α)
    (headway : Int) : α :=
  let seconds := Scalar.ofInt headway
  rawDwell rate seconds
    (c.boardingSecs rate seconds r.boardingType (s.doors r.vehicle).value?)

/-- The historical dwell of a day before. -/
def dwellBack (s : Sources α) (r : DwellRequest) (ts : Int) (back : Nat) : Option Int :=
  (s.dwell r.route r.stop (DaysBack.before ts back)).value?

/-- The filter error to begin with: what the store holds, or else the initial one. -/
def priorFor (c : DwellConfig α) (s : Sources α) (now : Int) (stores : Stores α)
    (r : DwellRequest) : α :=
  (s.readError r.filterKey (stores.filterErrors.get? now r.filterKey)).value?.getD c.initialError

/-- How an attempt ends that has found a rate and a headway. -/
def endingWith (c : DwellConfig α) (s : Sources α) (now : Int) (stores : Stores α)
    (r : DwellRequest) (context : PredictionContext) (ts : Int) (rate : α) (headway : Int) :
    Ending α :=
  let dwells := DaysBack.gather (dwellBack s r ts) c.maxDays c.searchDays
  let daysAsked := DaysBack.asked (dwellBack s r ts) c.maxDays c.searchDays
  if dwells.length < c.minDays then .tooFewDwells daysAsked
  else
    match FilterStep.run (c.rawDwellFor s r rate headway) dwells (c.priorFor s now stores r) with
    | none => .noSamples daysAsked
    | some step => .filtered context daysAsked step

/-- How an attempt ends. -/
def ending (c : DwellConfig α) (s : Sources α) (now : Int) (stores : Stores α)
    (r : DwellRequest) : Ending α :=
  if r.isStartOfTrip then .startOfTrip
  else if !s.hasData then .noData
  else
    match r.context? c.bucketWidth, r.adjustedArrival with
    | some context, some ts =>
      match stores.contexts.get? now context with
      | some value => .remembered value
      | none =>
        match c.rateFor s r ts with
        | none => .noRate
        | some rate =>
          match c.headwayFor s r ts with
          | none => .noHeadway
          | some headway => c.endingWith s now stores r context ts rate headway
    | _, _ => .unscheduled

end DwellConfig

/-! ### Attempts -/

/-- What an attempt comes to. -/
structure Attempt (α : Type) where
  /-- The answer. -/
  outcome : Outcome
  /-- The stores afterwards. -/
  stores : Stores α
  /-- What is reported to the metrics. -/
  marks : List Mark
  /-- The questions asked. -/
  questions : List Question

/-- Attempts a prediction from passenger counts. -/
def Attempt.make {α : Type} [Scalar α] (c : DwellConfig α) (s : Sources α) (now : Int)
    (stores : Stores α) (r : DwellRequest) : Attempt α :=
  let ending := c.ending s now stores r
  { outcome := ending.outcome c.allowEmptyDwell
    stores := ending.write s now r stores
    marks := ending.marks
    questions := ending.questions r (r.adjustedArrival.getD 0) }

end TransitDwell
