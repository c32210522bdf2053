import Mathlib.Algebra.Order.BigOperators.Group.List
import Mathlib.Analysis.Convex.Segment
import Mathlib.Data.Rat.Floor
import Mathlib.Tactic.Linarith
import TransitDwell.Estimate.Filter

/-!
# Bounds of the dwell filter

What one step of the filter keeps to, in rational numbers. From a prior error that is not negative
the gain lies between one half and one: the mean of the samples counts at least as much as the raw
dwell, and neither counts against the other. So the prediction lies between the two, and the new
error lies between zero and half the variance, which makes it fit to be a prior error again
(`FilterStep.Bounded`).
-/

namespace TransitDwell

/-! ### Scalars that are rational numbers -/

namespace Scalar

theorem isZero_rat {x : ℚ} : isZero x = true ↔ x = 0 := by
  change (x.num == 0) = true ↔ x = 0
  rw [beq_iff_eq, Rat.num_eq_zero]

theorem isSize_rat {x : ℚ} : isSize x = true ↔ 0 ≤ x := by
  change (!Rat.blt x 0) = true ↔ 0 ≤ x
  rw [Bool.not_eq_true', ← Bool.not_eq_true]
  exact (not_lt : ¬ x < 0 ↔ 0 ≤ x)

theorem sum_rat (xs : List ℚ) : sum xs = xs.sum := by
  rw [List.sum_eq_foldl]
  rfl

theorem truncate_of_nonneg {x : ℚ} (h : 0 ≤ x) : truncate x = clampWhole ⌊x⌋ := by
  change clampWhole (x.num.tdiv x.den) = clampWhole ⌊x⌋
  rw [Int.tdiv_eq_ediv_of_nonneg (Rat.num_nonneg.mpr h), Rat.floor_def']

theorem truncate_of_nonpos {x : ℚ} (h : x ≤ 0) : truncate x = clampWhole ⌈x⌉ := by
  have hnum : 0 ≤ -x.num := Int.neg_nonneg_of_nonpos (Rat.num_nonpos.mpr h)
  change clampWhole (x.num.tdiv x.den) = clampWhole ⌈x⌉
  rw [Rat.ceil_def', ← Int.tdiv_eq_ediv_of_nonneg hnum, Int.neg_tdiv, neg_neg]

theorem clampWhole_mono {x y : Int} (h : x ≤ y) : clampWhole x ≤ clampWhole y :=
  max_le_max_left minWhole (min_le_min_left maxWhole h)

/-- Cutting off keeps the order: a number below zero is cut off to one not above zero. -/
theorem truncate_mono {x y : ℚ} (h : x ≤ y) : truncate x ≤ truncate y := by
  rcases le_total 0 x with hx | hx
  · rw [truncate_of_nonneg hx, truncate_of_nonneg (hx.trans h)]
    exact clampWhole_mono (Int.floor_mono h)
  rcases le_total y 0 with hy | hy
  · rw [truncate_of_nonpos hx, truncate_of_nonpos hy]
    exact clampWhole_mono (Int.ceil_mono h)
  · rw [truncate_of_nonpos hx, truncate_of_nonneg hy]
    exact clampWhole_mono ((Int.ceil_nonpos.mpr hx).trans (Int.floor_nonneg.mpr hy))

end Scalar

namespace FilterStep

variable {raw prior variance : ℚ} {samples : List Int} {step : FilterStep ℚ}

/-! ### The gain -/

theorem gainOf_rat (prior variance : ℚ) :
    gainOf prior variance =
      if prior + 2 * variance = 0 then 1 else (prior + variance) / (prior + 2 * variance) := by
  have h : gainOf prior variance = if Scalar.isZero (prior + 2 * variance) = true then 1
    else (prior + variance) / (prior + 2 * variance) := rfl
  simp only [h, Scalar.isZero_rat]

/-- There is nothing to divide by only if there is neither a prior error nor any variance. -/
theorem denominator_eq_zero_iff (hprior : 0 ≤ prior) (hvariance : 0 ≤ variance) :
    prior + 2 * variance = 0 ↔ prior = 0 ∧ variance = 0 := by
  constructor
  · intro h
    constructor <;> linarith
  · rintro ⟨rfl, rfl⟩
    norm_num

theorem gainOf_le_one (hprior : 0 ≤ prior) (hvariance : 0 ≤ variance) :
    gainOf prior variance ≤ 1 := by
  rw [gainOf_rat]
  split
  · exact le_refl 1
  · exact div_le_one_of_le₀ (by linarith) (by linarith)

theorem half_le_gainOf (hprior : 0 ≤ prior) (hvariance : 0 ≤ variance) :
    1 / 2 ≤ gainOf prior variance := by
  rw [gainOf_rat]
  split
  · norm_num
  · next hne =>
    have hpos : 0 < prior + 2 * variance := lt_of_le_of_ne (by linarith) (Ne.symm hne)
    rw [le_div_iff₀ hpos]
    linarith

/-- What the gain leaves to the raw dwell. Where there is nothing to divide by it leaves nothing. -/
theorem one_sub_gainOf (hprior : 0 ≤ prior) (hvariance : 0 ≤ variance) :
    1 - gainOf prior variance =
      if 0 < prior + 2 * variance then variance / (prior + 2 * variance) else 0 := by
  have hnonneg : 0 ≤ prior + 2 * variance := by linarith
  rw [gainOf_rat]
  rcases hnonneg.eq_or_lt' with hzero | hpos
  · rw [if_pos hzero, if_neg hzero.le.not_gt, sub_self]
  · rw [if_neg hpos.ne', if_pos hpos, eq_div_iff hpos.ne', sub_mul, div_mul_cancel₀ _ hpos.ne']
    ring

/-! ### One step -/

/-- Mean squares are not negative. -/
theorem spread_nonneg {average : ℚ} (h : spread samples average = some variance) :
    0 ≤ variance := by
  unfold spread at h
  split at h
  · cases h
  · rw [Option.some.injEq, Scalar.sum_rat] at h
    rw [← h]
    refine div_nonneg (List.sum_nonneg fun square hsquare => ?_) (Int.cast_nonneg (by simp))
    obtain ⟨sample, -, rfl⟩ := List.mem_map.mp hsquare
    exact mul_self_nonneg _

/-- The bounds that a step keeps to. -/
structure Bounded (raw prior : ℚ) (samples : List Int) (step : FilterStep ℚ) : Prop where
  /-- The average is the mean of the samples. -/
  average : mean samples = some step.average
  /-- The variance is their mean square distance from it. -/
  variance : spread samples step.average = some step.variance
  /-- The new error is not negative. -/
  error_nonneg : 0 ≤ step.error
  /-- The new error is at most half the variance. -/
  error_le : step.error ≤ step.variance / 2
  /-- The mean counts for at least one half. -/
  half_le_gain : 1 / 2 ≤ step.gain
  /-- The mean counts for at most the whole. -/
  gain_le_one : step.gain ≤ 1
  /-- There is nothing to divide by only where there is neither a prior error nor any variance,
  and there the mean counts for the whole without a division. -/
  guarded : prior + 2 * step.variance = 0 → prior = 0 ∧ step.variance = 0 ∧ step.gain = 1
  /-- Everywhere else the gain is the quotient. -/
  divided : prior + 2 * step.variance ≠ 0 →
    step.gain = (prior + step.variance) / (prior + 2 * step.variance)
  /-- The prediction is not below both the raw dwell and the mean. -/
  le_prediction : min raw step.average ≤ step.prediction
  /-- Nor is it above both. -/
  prediction_le : step.prediction ≤ max raw step.average

/-- A step from a prior error that is not negative keeps to its bounds. -/
theorem bounded (hprior : 0 ≤ prior) (h : run raw samples prior = some step) :
    Bounded raw prior samples step := by
  obtain ⟨haverage, hspread, hgain, hloopGain, hprediction, herror⟩ := run_eq_some h
  have hvariance := spread_nonneg hspread
  have hhalf : 1 / 2 ≤ step.gain := hgain ▸ half_le_gainOf hprior hvariance
  have hone : step.gain ≤ 1 := hgain ▸ gainOf_le_one hprior hvariance
  have hsum : step.loopGain + step.gain = 1 := by
    rw [hloopGain]
    exact sub_add_cancel 1 step.gain
  have hweight : 0 ≤ step.loopGain := by linarith
  -- the library's bounds of a convex combination are stated with `•`
  have hcombo : step.prediction = step.loopGain • raw + step.gain • step.average := hprediction
  exact {
    average := haverage
    variance := hspread
    error_nonneg := by
      rw [herror]
      exact mul_nonneg hvariance hweight
    error_le := by
      have hle := mul_le_mul_of_nonneg_left (by linarith : step.loopGain ≤ 1 / 2) hvariance
      rw [herror]
      linarith
    half_le_gain := hhalf
    gain_le_one := hone
    guarded := fun hzero => by
      obtain ⟨hp, hv⟩ := (denominator_eq_zero_iff hprior hvariance).mp hzero
      exact ⟨hp, hv, by rw [hgain, gainOf_rat, if_pos hzero]⟩
    divided := fun hne => by rw [hgain, gainOf_rat, if_neg hne]
    le_prediction := by
      rw [hcombo]
      exact Convex.min_le_combo raw step.average hweight (by linarith) hsum
    prediction_le := by
      rw [hcombo]
      exact Convex.combo_le_max raw step.average hweight (by linarith) hsum }

end FilterStep

end TransitDwell
