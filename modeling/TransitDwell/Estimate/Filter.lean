import TransitDwell.Scalar

/-!
# The dwell filter

A recursive filter with one state blends the raw dwell of the moment with recent historical
dwells. The more the historical dwells vary, the more the raw dwell counts; the state is the error
of the last prediction:

    gain       = (prior + variance) / (prior + 2 * variance)
    loop gain  = 1 - gain
    prediction = loop gain * raw + gain * mean
    error      = variance * loop gain
-/

namespace TransitDwell

/-- What one step of the filter gives. -/
structure FilterStep (α : Type) where
  /-- The blended dwell. -/
  prediction : α
  /-- The error, which is the prior error of the next step. -/
  error : α
  /-- The weight of the mean. -/
  gain : α
  /-- The weight of the raw dwell. -/
  loopGain : α
  /-- The mean of the samples. -/
  average : α
  /-- The variance of the samples. -/
  variance : α

namespace FilterStep

variable {α : Type} [Scalar α]

/-- The mean of samples; of none there is none. -/
def mean (samples : List Int) : Option α :=
  if samples.isEmpty then none
  else some (Scalar.sum (samples.map Scalar.ofInt) / Scalar.ofInt samples.length)

/-- The mean square distance of samples from a number; of none there is none. -/
def spread (samples : List Int) (average : α) : Option α :=
  if samples.isEmpty then none
  else
    let squares := samples.map fun s => (Scalar.ofInt s - average) * (Scalar.ofInt s - average)
    some (Scalar.sum squares / Scalar.ofInt samples.length)

/-- The weight of the mean. Without a prior error and with samples that are all the same, history
is trusted outright. -/
def gainOf (prior variance : α) : α :=
  let denominator := prior + Scalar.ofInt 2 * variance
  if Scalar.isZero denominator then Scalar.ofInt 1 else (prior + variance) / denominator

/-- One step of the filter; without samples there is none. -/
def run (raw : α) (samples : List Int) (prior : α) : Option (FilterStep α) := do
  let average ← mean samples
  let variance ← spread samples average
  let gain := gainOf prior variance
  let loopGain := Scalar.ofInt 1 - gain
  return {
    prediction := loopGain * raw + gain * average
    error := variance * loopGain
    gain := gain
    loopGain := loopGain
    average := average
    variance := variance }

/-- What a step is made of. -/
theorem run_eq_some {raw prior : α} {samples : List Int} {step : FilterStep α}
    (h : run raw samples prior = some step) :
    mean samples = some step.average ∧ spread samples step.average = some step.variance ∧
      step.gain = gainOf prior step.variance ∧ step.loopGain = Scalar.ofInt 1 - step.gain ∧
      step.prediction = step.loopGain * raw + step.gain * step.average ∧
      step.error = step.variance * step.loopGain := by
  simp only [run, Option.bind_eq_bind, Option.bind_eq_some_iff, Option.pure_def,
    Option.some.injEq] at h
  obtain ⟨average, haverage, variance, hvariance, rfl⟩ := h
  exact ⟨haverage, hvariance, rfl, rfl, rfl, rfl⟩

end FilterStep

end TransitDwell
