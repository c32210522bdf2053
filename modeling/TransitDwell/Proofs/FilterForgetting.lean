import Mathlib.Tactic.FieldSimp
import TransitDwell.Proofs.Completion
import TransitDwell.Proofs.FilterBounds

/-!
# The filter forgets where it began

A row of filter steps carries one number from step to step: the error that a step leaves is the
prior error of the next. Where the row began is forgotten. However the samples of a step vary, two
prior errors are brought together by it to at most a quarter of their distance
(`FilterStep.abs_errorOf_sub_le`), so that after `k` steps a difference at the beginning has shrunk
to at most `1 / 4 ^ k` of it. A prior error that is lost, or that was a guess in the first place,
therefore does no lasting harm: `filter_forgets_initial_error`.

The raw dwells do not come into it. A step whose samples are all the same forgets at once.
-/

namespace TransitDwell

/-- What a step of the filter is given besides the prior error. -/
structure FilterInput (α : Type) where
  /-- The raw dwell. -/
  raw : α
  /-- The historical dwells. -/
  samples : List Int
  /-- There is at least one of them. -/
  sampled : samples ≠ []

namespace FilterStep

section Errors

variable {α : Type} [Scalar α]

/-- The error that a step leaves for samples of some variance. -/
def errorOf (prior variance : α) : α := variance * (Scalar.ofInt 1 - gainOf prior variance)

theorem error_eq_errorOf {raw prior : α} {samples : List Int} {step : FilterStep α}
    (h : run raw samples prior = some step) : step.error = errorOf prior step.variance := by
  obtain ⟨-, -, hgain, hloopGain, -, herror⟩ := run_eq_some h
  rw [herror, hloopGain, hgain, errorOf]

/-- The error that a row of steps leaves, each of them beginning with the error of the one
before. -/
def errorAfter (prior : α) : List (FilterInput α) → Option α
  | [] => some prior
  | input :: inputs =>
    (run input.raw input.samples prior).bind fun step => errorAfter step.error inputs

/-- The variance is that of the samples, whatever the prior error. -/
theorem variance_eq {raw raw' prior prior' : α} {samples : List Int} {step step' : FilterStep α}
    (h : run raw samples prior = some step) (h' : run raw' samples prior' = some step') :
    step.variance = step'.variance := by
  obtain ⟨haverage, hspread, -⟩ := run_eq_some h
  obtain ⟨haverage', hspread', -⟩ := run_eq_some h'
  have hmean : step.average = step'.average := Option.some.inj (haverage.symm.trans haverage')
  rw [← hmean] at hspread'
  exact Option.some.inj (hspread.symm.trans hspread')

end Errors

/-! ### One step -/

variable {prior prior' variance : ℚ}

/-- Samples that are all the same leave no error. -/
theorem errorOf_zero (prior : ℚ) : errorOf prior 0 = 0 := zero_mul _

/-- Samples that vary leave less of an error, the greater the prior error was. -/
theorem errorOf_of_pos (hprior : 0 ≤ prior) (hvariance : 0 < variance) :
    errorOf prior variance = variance * variance / (prior + 2 * variance) := by
  have hpos : 0 < prior + 2 * variance := by linarith
  have hweight : errorOf prior variance = variance * (1 - gainOf prior variance) := rfl
  rw [hweight, one_sub_gainOf hprior hvariance.le, if_pos hpos, mul_div_assoc]

/-- A step brings two prior errors together to at most a quarter of their distance. -/
theorem abs_errorOf_sub_le (hprior : 0 ≤ prior) (hprior' : 0 ≤ prior') (hvariance : 0 ≤ variance) :
    |errorOf prior variance - errorOf prior' variance| ≤ |prior - prior'| / 4 := by
  rcases hvariance.eq_or_lt with rfl | hpos
  · rw [errorOf_zero, errorOf_zero, sub_self, abs_zero]
    positivity
  · have hle : 2 * variance ≤ prior + 2 * variance := by linarith
    have hle' : 2 * variance ≤ prior' + 2 * variance := by linarith
    have hden : 0 < prior + 2 * variance := by linarith
    have hden' : 0 < prior' + 2 * variance := by linarith
    have hdiff : errorOf prior variance - errorOf prior' variance =
        variance * variance / ((prior + 2 * variance) * (prior' + 2 * variance)) *
          (prior' - prior) := by
      rw [errorOf_of_pos hprior hpos, errorOf_of_pos hprior' hpos]
      field_simp
      ring
    -- neither denominator is below twice the variance
    have hquarter : variance * variance /
        ((prior + 2 * variance) * (prior' + 2 * variance)) ≤ 1 / 4 := by
      rw [div_le_div_iff₀ (mul_pos hden hden') (by norm_num)]
      have hmul : 2 * variance * (2 * variance) ≤
          (prior + 2 * variance) * (prior' + 2 * variance) :=
        mul_le_mul hle hle' (by linarith) hden.le
      linarith
    calc |errorOf prior variance - errorOf prior' variance|
        = variance * variance / ((prior + 2 * variance) * (prior' + 2 * variance)) *
            |prior - prior'| := by
          rw [hdiff, abs_mul, abs_of_nonneg (by positivity), abs_sub_comm]
      _ ≤ 1 / 4 * |prior - prior'| := mul_le_mul_of_nonneg_right hquarter (abs_nonneg _)
      _ = |prior - prior'| / 4 := by ring

/-- Two runs take a step together, and leave errors that are fit to be prior errors again. -/
theorem exists_steps (input : FilterInput ℚ) (hprior : 0 ≤ prior) (hprior' : 0 ≤ prior') :
    ∃ step step', run input.raw input.samples prior = some step ∧
      run input.raw input.samples prior' = some step' ∧ 0 ≤ step.error ∧ 0 ≤ step'.error ∧
      |step.error - step'.error| ≤ |prior - prior'| / 4 := by
  obtain ⟨step, hstep⟩ := exists_run input.raw prior input.sampled
  obtain ⟨step', hstep'⟩ := exists_run input.raw prior' input.sampled
  have hbounded := bounded hprior hstep
  have hbounded' := bounded hprior' hstep'
  refine ⟨step, step', hstep, hstep', hbounded.error_nonneg, hbounded'.error_nonneg, ?_⟩
  rw [error_eq_errorOf hstep, error_eq_errorOf hstep', ← variance_eq hstep hstep']
  exact abs_errorOf_sub_le hprior hprior' (spread_nonneg hbounded.variance)

end FilterStep

/-! ### Rows of steps -/

open FilterStep

/-- **The filter forgets its first error.** Take a row of filter steps, with any raw dwells and any
samples, and begin it with two different errors. Both runs go through, and the errors that they
leave differ by at most the difference at the beginning, divided by four for each step. -/
theorem filter_forgets_initial_error (inputs : List (FilterInput ℚ)) {first first' : ℚ}
    (hfirst : 0 ≤ first) (hfirst' : 0 ≤ first') :
    ∃ last last', errorAfter first inputs = some last ∧ errorAfter first' inputs = some last' ∧
      |last - last'| ≤ |first - first'| / 4 ^ inputs.length := by
  induction inputs generalizing first first' with
  | nil => exact ⟨first, first', rfl, rfl, by simp⟩
  | cons input inputs ih =>
    obtain ⟨step, step', hstep, hstep', hnonneg, hnonneg', hcloser⟩ :=
      exists_steps input hfirst hfirst'
    obtain ⟨last, last', hlast, hlast', hle⟩ := ih hnonneg hnonneg'
    refine ⟨last, last', ?_, ?_, ?_⟩
    · rw [errorAfter, hstep, Option.bind_some, hlast]
    · rw [errorAfter, hstep', Option.bind_some, hlast']
    · calc |last - last'|
          ≤ |step.error - step'.error| / 4 ^ inputs.length := hle
        _ ≤ |first - first'| / 4 / 4 ^ inputs.length :=
          div_le_div_of_nonneg_right hcloser (by positivity)
        _ = |first - first'| / 4 ^ (input :: inputs).length := by
          rw [List.length_cons, pow_succ', div_div]

/-- Two mornings with uneven dwells, and the second begins with what the first leaves. -/
def unevenMornings : List (FilterInput ℚ) :=
  [⟨15, [10, 20, 30], by simp⟩, ⟨99, [6, 10], by simp⟩]

/-- Begun with an error of 50 and with none, they leave errors that differ by less than a hundredth
of it. -/
theorem unevenMornings_forget :
    0 ≤ (50 : ℚ) ∧ 0 ≤ (0 : ℚ) ∧ errorAfter 50 unevenMornings = some (66 / 133) ∧
      ∃ last last', errorAfter 50 unevenMornings = some last ∧
        errorAfter 0 unevenMornings = some last' ∧ |last - last'| ≤ |50 - 0| / 4 ^ 2 :=
  ⟨by norm_num, le_refl 0, by decide +kernel,
    filter_forgets_initial_error unevenMornings (by norm_num) (le_refl 0)⟩

end TransitDwell
