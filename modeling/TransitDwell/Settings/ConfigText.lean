import TransitDwell.Config
import TransitDwell.Settings.Value

/-!
# Configuration texts

A configuration is written as settings: fields in parentheses, in any order, each at most once.
What is not given has its default, and fields of other names are passed over. The word
`DwellConfig` may stand before the parentheses, and switches before that.
-/

namespace TransitDwell

namespace Settings

/-! ### Switches -/

/-- The switch of a name. Switches that change nothing for the settings of a configuration are
known as well. -/
def switch? (w : Switches) (name : String) : Option Switches :=
  match name with
  | "unwrap_newtypes" => some w
  | "implicit_some" => some { w with implicitSome := true }
  | "unwrap_variant_newtypes" => some { w with barePresent := true }
  | "explicit_struct_names" => some { w with explicitNames := true }
  | _ => none

/-- Reads words and signs one after the other, with blanks after each. -/
def afterAll? : List String → List Char → Option (List Char)
  | [], cs => some cs
  | word :: words, cs => ((after? word cs).bind skip).bind (afterAll? words)

/-- Reads names of switches separated by commas. -/
def switchNames : (fuel : Nat) → Switches → Reader Switches
  | 0, _, _ => none
  | fuel + 1, w, cs => do
    let (name, cs) ← name? cs
    let w ← switch? w name
    match ← skip cs with
    | ',' :: cs =>
      let cs ← skip cs
      if goesOn cs then switchNames fuel w cs else some (w, cs)
    | cs => some (w, cs)

/-- Reads lines that switch things on, `#![enable(…)]`, and the blanks after them. -/
def switchLines : (fuel : Nat) → Switches → Reader Switches
  | 0, _, _ => none
  | fuel + 1, w, cs =>
    match cs with
    | '#' :: _ => do
      let cs ← afterAll? ["#", "!", "[", "enable", "("] cs
      let (w, cs) ← switchNames (cs.length + 1) w cs
      switchLines fuel w (← afterAll? [")", "]"] cs)
    | cs => some (w, cs)

/-! ### Fields -/

/-- What reading a field does to a configuration. -/
abbrev ConfigField := Reader (DwellConfig Float → DwellConfig Float)

/-- Reads a value and enters it. -/
def field {β : Type} (value : Reader β) (enter : β → DwellConfig Float → DwellConfig Float) :
    ConfigField := fun cs =>
  (value cs).map fun (x, cs) => (enter x, cs)

/-- Reads the name of a time zone. -/
def zone : Reader Zone := fun cs =>
  match text? cs with
  | some (name, cs) => (Zone.named? name).map fun z => (z, cs)
  | none => none

/-- Reads a matrix of door factors. -/
def doorFactors : Reader (DoorFactors Float) := fun cs =>
  (listOf (listOf double) cs).map fun (rows, cs) => (⟨rows⟩, cs)

/-- The field of a name. -/
def field? (w : Switches) (name : String) : Option ConfigField :=
  match name with
  | "bucket_width_minutes" => some (field (countOf "u32") fun x c => { c with bucketMinutes := x })
  | "record_is_arrival" => some (field truth fun x c => { c with arrivalsOnly := x })
  | "match_widening_buckets" => some (field (countOf "u32") fun x c => { c with widening := x })
  | "min_kalman_days" => some (field (countOf "u64") fun x c => { c with minDays := x })
  | "max_kalman_days" => some (field (countOf "u64") fun x c => { c with maxDays := x })
  | "max_kalman_days_to_search" =>
    some (field (countOf "u32") fun x c => { c with searchDays := x })
  | "initial_error_value" => some (field double fun x c => { c with initialError := x })
  | "boarding_constant_secs" => some (field double fun x c => { c with boardingConstant := x })
  | "max_headway_secs" => some (field (wholeOf "i64") fun x c => { c with maxHeadway := x })
  | "allow_empty_dwell" => some (field truth fun x c => { c with allowEmptyDwell := x })
  | "seconds_per_boarding" =>
    some (field (listOf double) fun x c => { c with secondsPerBoarding := x })
  | "default_seconds_per_boarding" =>
    some (field double fun x c => { c with defaultSecondsPerBoarding := x })
  | "door_factors" => some (field (optional w doorFactors) fun x c => { c with doorFactors := x })
  | "default_boardings_per_second" =>
    some (field (optional w double) fun x c => { c with defaultRate := x })
  | "retention_secs" => some (field (wholeOf "i64") fun x c => { c with retention := x })
  | "timezone" => some (field zone fun x c => { c with zone := x })
  | "baseline_dwell_ms" => some (field (wholeOf "i64") fun x c => { c with baselineDwell := x })
  | _ => none

/-- Reads a field: its name, a colon and its value. The names read before are given with the
configuration so far. -/
def entry (w : Switches) :
    List String × DwellConfig Float → Reader (List String × DwellConfig Float)
  | (names, c), cs => do
    let (name, cs) ← name? cs
    match field? w name with
    | some value =>
      if names.contains name then none
      else
        let (enter, cs) ← value (← afterColon? cs)
        return ((name :: names, enter c), cs)
    | none =>
      let cs ← pass w (depthLimit - 2) (← afterColon? cs)
      return ((names, c), cs)

/-- What follows the word before the parentheses. It may be left out, unless a switch demands
it. -/
def afterTitle? (w : Switches) (cs : List Char) : Option (List Char) :=
  if goesOn cs then
    match name? cs with
    | some ("DwellConfig", cs) => skip cs
    | _ => none
  else if w.explicitNames then none
  else some cs

end Settings

namespace DwellConfig

/-- Reads a configuration, without checking it. -/
def ofSettings? (text : String) : Option (DwellConfig Float) := do
  let cs ← Settings.skip text.toList
  let (w, cs) ← Settings.switchLines (cs.length + 1) {} cs
  let cs ← Settings.afterTitle? w cs
  let ((_, c), cs) ← Settings.enclosed '(' ')' (Settings.entry w) ([], {}) cs
  let rest ← Settings.skip cs
  if rest.isEmpty then some c else none

/-- Why a configuration text is refused. -/
inductive TextFault where
  /-- It is not written as settings are. -/
  | malformed
  /-- It fails a check. -/
  | invalid (fault : ConfigFault)
  deriving DecidableEq

/-- Reads a configuration and checks it. -/
def ofText (text : String) : Except TextFault (DwellConfig Float) :=
  match ofSettings? text with
  | none => .error .malformed
  | some c =>
    match c.fault? with
    | some fault => .error (.invalid fault)
    | none => .ok c

end DwellConfig

end TransitDwell
