import TransitDwell.Record.Csv
import TransitDwell.Record.Json
import TransitDwell.Service
import TransitDwell.Settings.ConfigText

/-!
# Replays

A replay sends recorded events and passenger counts through a new service and then asks it for
predictions. Its clock stands still at the time of the newest event, so that retention is measured
in the time of the record; before any event the clock stands at zero. Its stores are not swept.

A replay is started with files and answers with one line for each request. It fails where a file
cannot be read, where the configuration is refused, and where it is called in a wrong way.
-/

namespace TransitDwell

namespace Replay

/-- The instant at which the clock of a replay stands. -/
def clock (events : List StopEvent) : Int := events.foldl (fun now e => max now e.time) 0

/-- The service after taking in the events, one after the other. -/
def ingestEvents {α : Type} [Scalar α] (now : Int) (events : List StopEvent) (s : Service α) :
    Service α :=
  events.foldl (fun s e => (s.ingestEvent now e).2) s

/-- The predictions for requests, one after the other. -/
def predictAll {α : Type} [Scalar α] (now : Int) :
    List DwellRequest → Service α → List (DwellRequest × Prediction)
  | [], _ => []
  | r :: rs, s =>
    let (prediction, s) := s.predict now r
    (r, prediction) :: predictAll now rs s

/-- The predictions of a replay. -/
def predictions {α : Type} [Scalar α] (c : DwellConfig α) (scan : ScanOrder)
    (events : List StopEvent) (observations : List Observation) (requests : List DwellRequest) :
    List (DwellRequest × Prediction) :=
  let now := clock events
  let loaded := ingestEvents now events (Service.new c)
  predictAll now requests (loaded.ingestCounts scan now observations).2

/-- The line of a prediction. -/
def line (r : DwellRequest) (p : Prediction) : String :=
  (Json.record [
    ("trip_id", .ofString r.trip), ("stop_id", .ofString r.stop),
    ("stop_position", .ofInt r.position), ("vehicle_id", .ofString r.vehicle),
    ("value_ms", .ofInt p.value), ("method", .ofString p.method.text)]).text

/-! ### Running a replay -/

/-- The files of a replay: the text of each, or nothing if it cannot be read. -/
structure Files where
  /-- The table of events. -/
  events : Option String
  /-- The table of observations. -/
  counts : Option String
  /-- The table of requests. -/
  requests : Option String
  /-- The configuration, if one is named. -/
  config : Option (Option String)

/-- Why a replay fails. -/
inductive Failure where
  /-- It is called in a wrong way. -/
  | usage
  /-- A file cannot be read. -/
  | unreadable
  /-- The configuration is refused. -/
  | config (fault : DwellConfig.TextFault)
  deriving DecidableEq

/-- The exit status that tells of a failure. -/
def Failure.exitStatus : Failure → Nat
  | usage => 2
  | unreadable => 1
  | config _ => 1

/-- The names of the levels at which a replay may be asked to report. -/
def levelNames : List String := ["error", "warn", "info", "debug", "trace"]

/-- Whether a level is named, in letters of any case, or is given by its number. -/
def isLevel (s : String) : Bool :=
  levelNames.contains (String.ofList (s.toList.map Char.toLower)) ||
    match Csv.unsigned? 10 s.toList with
    | some n => 1 ≤ n && n ≤ 5
    | none => false

/-- The configuration of a replay. -/
def configOf : Option (Option String) → Except Failure (DwellConfig Float)
  | none => .ok {}
  | some none => .error .unreadable
  | some (some text) =>
    match DwellConfig.ofText text with
    | .ok c => .ok c
    | .error fault => .error (.config fault)

/-- The lines of a replay. -/
def run (level : String) (files : Files) : Except Failure (List String) :=
  if !isLevel level then .error .usage
  else
    match configOf files.config with
    | .error failure => .error failure
    | .ok c =>
      match files.events, files.counts, files.requests with
      | some events, some counts, some requests =>
        .ok ((predictions c .entered (StopEvent.ofCsv events) (Observation.ofCsv counts)
          (DwellRequest.ofCsv requests)).map fun (r, p) => line r p)
      | _, _, _ => .error .unreadable

end Replay

end TransitDwell
