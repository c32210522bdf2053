import TransitDwell.Proofs.Completion
import TransitDwell.Proofs.Run

/-!
# Runs of attempts

Attempts are made one after the other, each at an instant of its own and with facts from sources of
its own: these may answer anything and may fail, and no more is said of the clock. An attempt begins
with what those before it have left behind, which is what they keep and what they have reported
(`Aftermath`), and it is answered with all that it comes to.
-/

namespace TransitDwell

/-- A call for an attempt. -/
structure AttemptCall (α : Type) where
  /-- The present instant. -/
  now : Int
  /-- Where the attempt has its facts from. -/
  sources : Sources α
  /-- The request. -/
  request : DwellRequest

/-- What attempts leave behind. -/
structure Aftermath (α : Type) where
  /-- What they keep. -/
  stores : Stores α
  /-- What they have reported. -/
  metrics : Metrics

namespace Aftermath

variable {α : Type} [Scalar α]

/-- Makes an attempt. -/
def act (c : DwellConfig α) (a : Aftermath α) (call : AttemptCall α) : Attempt α × Aftermath α :=
  let attempt := Attempt.make c call.sources call.now a.stores call.request
  (attempt, ⟨attempt.stores, a.metrics.noteAll attempt.marks⟩)

end Aftermath

end TransitDwell
