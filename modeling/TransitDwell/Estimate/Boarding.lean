import TransitDwell.Config

/-!
# The boarding estimate

A dwell estimated from what is known at the moment. Passengers gather at a rate for as long as the
headway lasts; each takes a while to board, which depends on the boarding type and the doors; and
opening and closing the doors takes a constant time:

    boarding  = rate * headway
    seconds   = constant + boarding * door factor * seconds per boarding
    raw dwell = rate * headway * seconds
-/

namespace TransitDwell

namespace DwellConfig

variable {α : Type} [Scalar α]

/-- The door factor; one where the boarding type, the door count or their factor is not known. -/
def boardingFactor (c : DwellConfig α) (boardingType doors : Option Nat) : α :=
  match boardingType, doors, c.doorFactors with
  | some t, some d, some m => (m.factor? t d).getD (Scalar.ofInt 1)
  | _, _, _ => Scalar.ofInt 1

/-- Seconds per boarding passenger. -/
def boardingPace (c : DwellConfig α) (boardingType : Option Nat) : α :=
  (boardingType.bind fun t => c.secondsPerBoarding[t]?).getD c.defaultSecondsPerBoarding

/-- Seconds that boarding takes. -/
def boardingSecs (c : DwellConfig α) (rate headwaySecs : α) (boardingType doors : Option Nat) : α :=
  let boarding := rate * headwaySecs
  c.boardingConstant + boarding * c.boardingFactor boardingType doors * c.boardingPace boardingType

end DwellConfig

/-- The raw dwell in milliseconds. -/
def rawDwell {α : Type} [Scalar α] (rate headwaySecs boardingSecs : α) : α :=
  rate * headwaySecs * boardingSecs * Scalar.ofInt msPerSecond

end TransitDwell
