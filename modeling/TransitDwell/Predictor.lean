import TransitDwell.Attempt

/-!
# Chains of strategies

A strategy predicts a dwell or declines, and may change a state as it does. A chain asks its
strategies in order; the first dwell is the answer, and where all decline a fallback is. So a
chain always answers.
-/

namespace TransitDwell

/-- A way to predict a dwell. -/
structure Strategy (σ : Type) where
  /-- The name of the strategy. -/
  name : String
  /-- Predicts or declines. -/
  attempt : DwellRequest → σ → Outcome × σ

namespace Strategy

variable {σ : Type}

/-- The strategy that goes by the schedule: the dwell it allows, or else a given one. -/
def scheduled (defaultDwell : Int) : Strategy σ where
  name := "scheduled"
  attempt r state := (.predicted ⟨r.scheduledDwell.getD defaultDwell, .baseline⟩, state)

/-- The name of the strategy that goes by passenger counts. -/
def countsName : String := "apc_kalman"

/-- The first dwell that a strategy of the chain predicts, or else the fallback. -/
def predict (chain : List (Strategy σ)) (fallback : Int) (r : DwellRequest) (state : σ) :
    Prediction × σ :=
  match chain with
  | [] => (⟨fallback, .baseline⟩, state)
  | first :: rest =>
    match first.attempt r state with
    | (.predicted prediction, state) => (prediction, state)
    | (.declined _, state) => predict rest fallback r state

end Strategy

end TransitDwell
