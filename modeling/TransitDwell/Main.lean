import TransitDwell.Replay

/-!
# The command line

Replays recorded events and passenger counts, and prints a line for each prediction:

    --events FILE --apc FILE --requests FILE [--config FILE]
    [--log-level LEVEL] [--eviction-period-secs SECONDS]

An option and its value may also be joined by an equals sign.

While it runs, the program sweeps its stores in the background, once in every period. `Replay` leaves
the sweeps out, and the period is only checked to be a number. The clock of a replay stands still,
so that sweeps find nothing to remove, provided that dates never go back in the zone of the
configuration and that 64 bits hold its retention. This is shown in
`TransitDwell.Proofs.StandingClock`, with examples of what sweeps do remove otherwise.
-/

namespace TransitDwell

namespace CommandLine

/-- The options by name. -/
abbrev Options := List (String × String)

/-- The names of the options. -/
def names : List String :=
  ["--events", "--apc", "--requests", "--config", "--log-level", "--eviction-period-secs"]

/-- Splits an argument at its first equals sign, if it has one. -/
def splitArgument (argument : String) : String × Option String :=
  let cs := argument.toList
  match cs.dropWhile (· ≠ '=') with
  | _ :: value => (String.ofList (cs.takeWhile (· ≠ '=')), some (String.ofList value))
  | [] => (argument, none)

/-- Adds an option, which must be known and not be there yet. -/
def add (options : Options) (name value : String) : Option Options :=
  if names.contains name && (options.lookup name).isNone then some ((name, value) :: options)
  else none

/-- Reads arguments. -/
def read : Options → List String → Option Options
  | options, [] => some options
  | options, argument :: arguments =>
    match splitArgument argument, arguments with
    | (name, some value), rest => (add options name value).bind (read · rest)
    | (name, none), value :: rest => (add options name value).bind (read · rest)
    | (_, none), [] => none

/-- Whether a text is a number of seconds. -/
def isSeconds (s : String) : Bool :=
  match Csv.unsigned? 10 s.toList with
  | some n => n ≤ 18446744073709551615
  | none => false

end CommandLine

/-- The text of a file, if it can be read. -/
def readText (path : String) : IO (Option String) := do
  match ← (IO.FS.readFile path).toBaseIO with
  | .ok text => return some text
  | .error _ => return none

/-- Runs a replay with the options given, and prints its lines. -/
def replay (options : CommandLine.Options) : IO UInt32 := do
  let period := (options.lookup "--eviction-period-secs").getD "60"
  match options.lookup "--events", options.lookup "--apc", options.lookup "--requests" with
  | some events, some counts, some requests =>
    if !CommandLine.isSeconds period then return 2
    let config ← match options.lookup "--config" with
      | some path => some <$> readText path
      | none => pure none
    let files : Replay.Files := {
      events := ← readText events
      counts := ← readText counts
      requests := ← readText requests
      config := config }
    match Replay.run ((options.lookup "--log-level").getD "info") files with
    | .ok lines =>
      for line in lines do IO.println line
      return 0
    | .error failure => return failure.exitStatus.toUInt32
  | _, _, _ => return 2

end TransitDwell

/-- Replays a record. -/
def main (arguments : List String) : IO UInt32 :=
  match TransitDwell.CommandLine.read [] arguments with
  | some options => TransitDwell.replay options
  | none => return 2
