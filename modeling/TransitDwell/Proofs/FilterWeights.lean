import TransitDwell.Proofs.Completion
import TransitDwell.Proofs.FilterBounds

/-!
# The weights of the filter

A step of the filter mixes the raw dwell with the mean of the samples. In rational numbers the
mixture can be written out for any samples. Let `a` be the mean of the samples, `v` their variance
and `p` the prior error. Then the raw dwell has the weight

    v / (p + 2 * v)

or none where there is nothing to divide by, and the mean has the rest. The prediction is therefore
at most half as far from the mean as the raw dwell is, and it is the mean itself only if the raw
dwell is, or if the samples do not vary.

## What is proved

* A step is made of the mean and the variance as defined here (`FilterStep.run_rat`), so that the
  order of the samples does not show in it (`FilterStep.run_perm`).
* There is no variance exactly if all samples are the same (`FilterStep.varianceOf_eq_zero_iff`).
* Main statement: `filter_step_in_closed_form`.
-/

namespace TransitDwell

namespace FilterStep

variable {raw prior : ℚ} {samples samples' : List Int} {step : FilterStep ℚ}

/-! ### Mean and variance -/

/-- The mean of samples. -/
def meanOf (samples : List Int) : ℚ := (samples.map fun s : Int => (s : ℚ)).sum / samples.length

/-- The variance of samples: the mean of their squared distances from the mean. -/
def varianceOf (samples : List Int) : ℚ :=
  (samples.map fun s : Int => ((s : ℚ) - meanOf samples) ^ 2).sum / samples.length

theorem mean_rat (h : samples ≠ []) : mean samples = some (meanOf samples) := by
  unfold mean
  rw [if_neg (by simpa using h), Scalar.sum_rat]
  rfl

theorem spread_rat (h : samples ≠ []) :
    spread samples (meanOf samples) = some (varianceOf samples) := by
  unfold spread varianceOf
  simp only [pow_two]
  rw [if_neg (by simpa using h), Scalar.sum_rat]
  rfl

theorem meanOf_perm (h : samples.Perm samples') : meanOf samples = meanOf samples' := by
  unfold meanOf
  rw [(h.map _).sum_eq, h.length_eq]

theorem varianceOf_perm (h : samples.Perm samples') : varianceOf samples = varianceOf samples' := by
  unfold varianceOf
  rw [meanOf_perm h, (h.map _).sum_eq, h.length_eq]

theorem varianceOf_nonneg (h : samples ≠ []) : 0 ≤ varianceOf samples :=
  spread_nonneg (spread_rat h)

/-- A step of the filter from samples of some mean and variance. -/
theorem run_rat (raw prior : ℚ) (h : samples ≠ []) :
    run raw samples prior =
      let gain := gainOf prior (varianceOf samples)
      some {
        prediction := (1 - gain) * raw + gain * meanOf samples
        error := varianceOf samples * (1 - gain)
        gain := gain
        loopGain := 1 - gain
        average := meanOf samples
        variance := varianceOf samples } := by
  unfold run
  rw [mean_rat h]
  simp only [Option.bind_eq_bind, Option.bind_some]
  rw [spread_rat h]
  rfl

/-- The order of the samples does not show in a step. -/
theorem run_perm (raw prior : ℚ) (h : samples.Perm samples') :
    run raw samples prior = run raw samples' prior := by
  by_cases hempty : samples = []
  · subst hempty
    rw [h.nil_eq]
  · have hempty' : samples' ≠ [] := by
      rintro rfl
      exact hempty h.eq_nil
    rw [run_rat raw prior hempty, run_rat raw prior hempty', meanOf_perm h, varianceOf_perm h]

/-! ### Samples that do not vary -/

/-- The mean of samples that are all the same is each of them. -/
theorem meanOf_replicate {n : Nat} (hn : n ≠ 0) (s : Int) : meanOf (List.replicate n s) = s := by
  have hcount : (n : ℚ) ≠ 0 := Nat.cast_ne_zero.mpr hn
  unfold meanOf
  rw [List.map_replicate, List.sum_replicate, List.length_replicate, nsmul_eq_mul]
  exact mul_div_cancel_left₀ _ hcount

/-- Without variance every sample is the mean: no squared distance can make up for another. -/
theorem eq_meanOf_of_varianceOf_eq_zero (h : samples ≠ []) (hzero : varianceOf samples = 0) :
    ∀ s ∈ samples, (s : ℚ) = meanOf samples := by
  intro s hs
  have hcount : (samples.length : ℚ) ≠ 0 :=
    Nat.cast_ne_zero.mpr (List.length_pos_of_ne_nil h).ne'
  have hsum : (samples.map fun s : Int => ((s : ℚ) - meanOf samples) ^ 2).sum = 0 :=
    (div_eq_zero_iff.mp hzero).resolve_right hcount
  have hnonneg : ∀ square ∈ samples.map fun s : Int => ((s : ℚ) - meanOf samples) ^ 2,
      0 ≤ square := by
    intro square hsquare
    obtain ⟨t, -, rfl⟩ := List.mem_map.mp hsquare
    exact sq_nonneg _
  have hsquare : ((s : ℚ) - meanOf samples) ^ 2 = 0 :=
    List.all_zero_of_le_zero_le_of_sum_eq_zero hnonneg hsum (List.mem_map_of_mem hs)
  exact sub_eq_zero.mp (pow_eq_zero_iff two_ne_zero |>.mp hsquare)

/-- There is no variance if and only if all samples are the same. -/
theorem varianceOf_eq_zero_iff (h : samples ≠ []) :
    varianceOf samples = 0 ↔ ∀ s ∈ samples, ∀ t ∈ samples, s = t := by
  constructor
  · intro hzero s hs t ht
    have hmean := eq_meanOf_of_varianceOf_eq_zero h hzero
    exact_mod_cast (hmean s hs).trans (hmean t ht).symm
  · intro hsame
    obtain ⟨s, hs⟩ := List.exists_mem_of_ne_nil samples h
    have hreplicate : samples = List.replicate samples.length s :=
      List.eq_replicate_of_mem fun t ht => hsame t ht s hs
    have hmean : meanOf samples = s := by
      rw [hreplicate]
      exact meanOf_replicate (List.length_pos_of_ne_nil h).ne' s
    unfold varianceOf
    rw [hmean, hreplicate]
    simp

/-! ### The step -/

/-- How a step comes of the raw dwell, the prior error and the samples. -/
structure Weighed (raw prior : ℚ) (samples : List Int) (step : FilterStep ℚ) : Prop where
  /-- The average is the mean of the samples. -/
  average : step.average = meanOf samples
  /-- The variance is that of the samples. -/
  variance : step.variance = varianceOf samples
  /-- The raw dwell has the weight `v / (p + 2 * v)`, or none where there is nothing to divide
  by. -/
  loopGain : step.loopGain =
    if 0 < prior + 2 * varianceOf samples then varianceOf samples / (prior + 2 * varianceOf samples)
    else 0
  /-- The mean has the rest. -/
  gain : step.gain = 1 - step.loopGain
  /-- From the mean the prediction goes towards the raw dwell as far as its weight says. -/
  prediction : step.prediction - meanOf samples = step.loopGain * (raw - meanOf samples)
  /-- The error is as much of the variance. -/
  error : step.error = varianceOf samples * step.loopGain

theorem weighed (hprior : 0 ≤ prior) (hne : samples ≠ []) (h : run raw samples prior = some step) :
    Weighed raw prior samples step := by
  rw [run_rat raw prior hne] at h
  obtain rfl := Option.some.inj h
  have hvariance := varianceOf_nonneg hne
  exact {
    average := rfl
    variance := rfl
    loopGain := one_sub_gainOf hprior hvariance
    gain := (sub_sub_cancel 1 _).symm
    prediction := by ring
    error := rfl }

namespace Weighed

variable (h : Weighed raw prior samples step)
include h

/-- The raw dwell has no weight exactly if the samples do not vary. -/
theorem loopGain_eq_zero_iff (hprior : 0 ≤ prior) (hne : samples ≠ []) :
    step.loopGain = 0 ↔ varianceOf samples = 0 := by
  have hvariance := varianceOf_nonneg hne
  rw [h.loopGain]
  split
  · next hpos => rw [div_eq_zero_iff, or_iff_left hpos.ne']
  · next hnot =>
    have hzero : varianceOf samples = 0 := by linarith
    exact iff_of_true rfl hzero

/-- The prediction is the mean only if the raw dwell has no weight or is the mean itself. -/
theorem prediction_eq_iff (hprior : 0 ≤ prior) (hne : samples ≠ []) :
    step.prediction = meanOf samples ↔ varianceOf samples = 0 ∨ raw = meanOf samples := by
  rw [← sub_eq_zero, h.prediction, mul_eq_zero, h.loopGain_eq_zero_iff hprior hne, sub_eq_zero]

/-- The prediction is at most half as far from the mean as the raw dwell is. -/
theorem abs_prediction_sub_le (hnonneg : 0 ≤ step.loopGain) (hhalf : step.loopGain ≤ 1 / 2) :
    |step.prediction - meanOf samples| ≤ |raw - meanOf samples| / 2 := by
  calc |step.prediction - meanOf samples|
      = step.loopGain * |raw - meanOf samples| := by
        rw [h.prediction, abs_mul, abs_of_nonneg hnonneg]
    _ ≤ 1 / 2 * |raw - meanOf samples| := mul_le_mul_of_nonneg_right hhalf (abs_nonneg _)
    _ = |raw - meanOf samples| / 2 := by ring

end Weighed

end FilterStep

open FilterStep

/-- **One step of the filter in closed form.** From samples, and a prior error that is not negative,
the filter takes a step, whatever the raw dwell is. The step comes of their mean and variance as
`FilterStep.Weighed` says. The raw dwell has a weight of at most one half, so that the prediction is
at most half as far from the mean as it is; it is the mean exactly if there is no variance or the
raw dwell is the mean, and there is no variance exactly if all samples are the same. The step is the
same in whatever order the samples are given. -/
theorem filter_step_in_closed_form (raw : ℚ) {prior : ℚ} (hprior : 0 ≤ prior) {samples : List Int}
    (hne : samples ≠ []) :
    ∃ step, run raw samples prior = some step ∧ Weighed raw prior samples step ∧
      0 ≤ step.loopGain ∧ step.loopGain ≤ 1 / 2 ∧
      |step.prediction - meanOf samples| ≤ |raw - meanOf samples| / 2 ∧
      (step.prediction = meanOf samples ↔ varianceOf samples = 0 ∨ raw = meanOf samples) ∧
      (varianceOf samples = 0 ↔ ∀ s ∈ samples, ∀ t ∈ samples, s = t) ∧
      ∀ samples', samples'.Perm samples → run raw samples' prior = some step := by
  obtain ⟨step, hstep⟩ := exists_run raw prior hne
  have hweighed := weighed hprior hne hstep
  have hbounded := bounded hprior hstep
  have hnonneg : 0 ≤ step.loopGain := by linarith [hweighed.gain, hbounded.gain_le_one]
  have hhalf : step.loopGain ≤ 1 / 2 := by linarith [hweighed.gain, hbounded.half_le_gain]
  refine ⟨step, hstep, hweighed, hnonneg, hhalf, ?_, ?_, varianceOf_eq_zero_iff hne, ?_⟩
  · exact hweighed.abs_prediction_sub_le hnonneg hhalf
  · exact hweighed.prediction_eq_iff hprior hne
  · intro samples' hperm
    rw [run_perm raw prior hperm, hstep]

/-- Of three samples that vary the step has a raw weight of four elevenths, and so it has if they
are given backwards. -/
theorem unevenSamples_weighed :
    0 ≤ (50 : ℚ) ∧ [10, 20, 30] ≠ ([] : List Int) ∧
      ∃ step, run 15 [10, 20, 30] 50 = some step ∧ Weighed 15 50 [10, 20, 30] step ∧
        step.loopGain = 4 / 11 ∧ run 15 [30, 20, 10] 50 = some step := by
  have hprior : 0 ≤ (50 : ℚ) := by norm_num
  have hne : [10, 20, 30] ≠ ([] : List Int) := by decide
  obtain ⟨step, hstep, hweighed, -, -, -, -, -, hperm⟩ := filter_step_in_closed_form 15 hprior hne
  have hvariance : varianceOf [10, 20, 30] = 200 / 3 := by decide +kernel
  refine ⟨hprior, hne, step, hstep, hweighed, ?_, hperm [30, 20, 10] (by decide)⟩
  rw [hweighed.loopGain, hvariance]
  norm_num

end TransitDwell
