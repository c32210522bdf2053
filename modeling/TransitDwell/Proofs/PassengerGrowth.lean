import TransitDwell.Proofs.BoardingBounds
import TransitDwell.Proofs.FilterForgetting

/-!
# More passengers do not shorten a prediction

Passengers come in by the boarding rate and by the headway, and from there on through every formula
up to the answer: boarding takes longer, so that the raw dwell is longer, so that the filter, which
gives the raw dwell a weight that is not negative, predicts a longer dwell, and the answer is what
is left of it in whole milliseconds. In rational numbers each of these keeps the order, provided no
setting of the boarding estimate is negative (`DwellConfig.BoardingNonneg`). The boarding type and
the doors may be any, known or not, and so may the samples and the prior error, as long as these
are the same on both sides.

Main statement: `more_passengers_never_shorten`.
-/

namespace TransitDwell

/-! ### The boarding estimate -/

namespace DwellConfig.BoardingNonneg

variable {c : DwellConfig ℚ} (h : c.BoardingNonneg) {rate rate' headway headway' : ℚ}
  (hrate : 0 ≤ rate) (hmoreRate : rate ≤ rate') (hheadway : 0 ≤ headway)
  (hmoreHeadway : headway ≤ headway')
include h hrate hmoreRate hheadway hmoreHeadway

/-- More passengers take longer to board. -/
theorem boardingSecs_mono (boardingType doors : Option Nat) :
    c.boardingSecs rate headway boardingType doors ≤
      c.boardingSecs rate' headway' boardingType doors := by
  have hpassengers : rate * headway ≤ rate' * headway' :=
    mul_le_mul hmoreRate hmoreHeadway hheadway (hrate.trans hmoreRate)
  have hfactored : rate * headway * c.boardingFactor boardingType doors ≤
      rate' * headway' * c.boardingFactor boardingType doors :=
    mul_le_mul_of_nonneg_right hpassengers (h.factor_nonneg boardingType doors)
  have hpaced := mul_le_mul_of_nonneg_right hfactored (h.pace_nonneg boardingType)
  exact add_le_add_right hpaced c.boardingConstant

/-- More passengers make the raw dwell longer. -/
theorem rawDwell_mono (boardingType doors : Option Nat) :
    rawDwell rate headway (c.boardingSecs rate headway boardingType doors) ≤
      rawDwell rate' headway' (c.boardingSecs rate' headway' boardingType doors) := by
  have hpassengers : rate * headway ≤ rate' * headway' :=
    mul_le_mul hmoreRate hmoreHeadway hheadway (hrate.trans hmoreRate)
  have hsecs := h.boardingSecs_mono hrate hmoreRate hheadway hmoreHeadway boardingType doors
  have hsecsNonneg := h.boardingSecs_nonneg hrate hheadway boardingType doors
  have hpassengersNonneg : 0 ≤ rate' * headway' := (mul_nonneg hrate hheadway).trans hpassengers
  have hsecond : (0 : ℚ) ≤ Scalar.ofInt msPerSecond := Int.cast_nonneg (by decide)
  exact mul_le_mul_of_nonneg_right
    (mul_le_mul hpassengers hsecs hsecsNonneg hpassengersNonneg) hsecond

end DwellConfig.BoardingNonneg

/-! ### The filter -/

namespace FilterStep

variable {raw raw' prior : ℚ} {samples : List Int} {step step' : FilterStep ℚ}

/-- A longer raw dwell makes the prediction longer, if the samples and the prior error are the
same. -/
theorem prediction_mono (hprior : 0 ≤ prior) (hraw : raw ≤ raw')
    (h : run raw samples prior = some step) (h' : run raw' samples prior = some step') :
    step.prediction ≤ step'.prediction := by
  have hvariance := variance_eq h h'
  obtain ⟨haverage, hspread, hgain, hloopGain, hprediction, -⟩ := run_eq_some h
  obtain ⟨haverage', -, hgain', hloopGain', hprediction', -⟩ := run_eq_some h'
  -- the weights and the mean do not hang on the raw dwell
  have hmean : step'.average = step.average := Option.some.inj (haverage'.symm.trans haverage)
  have hsame : step'.gain = step.gain := by rw [hgain', hgain, hvariance]
  have hsameLoop : step'.loopGain = step.loopGain := by rw [hloopGain', hloopGain, hsame]
  have hweight : 0 ≤ step.loopGain := by
    rw [hloopGain, hgain]
    exact sub_nonneg.mpr (gainOf_le_one hprior (spread_nonneg hspread))
  rw [hprediction, hprediction', hmean, hsame, hsameLoop]
  exact add_le_add_left (mul_le_mul_of_nonneg_left hraw hweight) _

end FilterStep

open FilterStep

/-- **More passengers never shorten a prediction.** Let no setting of the boarding estimate be
negative, and let the boarding rate and the headway grow, or stay, from what they are. Then
boarding takes as long or longer, the raw dwell is as long or longer, and from the same samples and
the same prior error the filter predicts, in whole milliseconds, a dwell that is as long or
longer. -/
theorem more_passengers_never_shorten {c : DwellConfig ℚ} (hc : c.BoardingNonneg)
    (boardingType doors : Option Nat) {samples : List Int} (hne : samples ≠ []) {prior : ℚ}
    (hprior : 0 ≤ prior) {rate rate' headway headway' : ℚ} (hrate : 0 ≤ rate)
    (hmoreRate : rate ≤ rate') (hheadway : 0 ≤ headway) (hmoreHeadway : headway ≤ headway') :
    let secs := c.boardingSecs rate headway boardingType doors
    let secs' := c.boardingSecs rate' headway' boardingType doors
    let raw := rawDwell rate headway secs
    let raw' := rawDwell rate' headway' secs'
    secs ≤ secs' ∧ raw ≤ raw' ∧
      ∃ step step', run raw samples prior = some step ∧ run raw' samples prior = some step' ∧
        Ending.valueOf step ≤ Ending.valueOf step' := by
  intro secs secs' raw raw'
  have hraw : raw ≤ raw' :=
    hc.rawDwell_mono hrate hmoreRate hheadway hmoreHeadway boardingType doors
  obtain ⟨step, hstep⟩ := exists_run raw prior hne
  obtain ⟨step', hstep'⟩ := exists_run raw' prior hne
  refine ⟨hc.boardingSecs_mono hrate hmoreRate hheadway hmoreHeadway boardingType doors, hraw,
    step, step', hstep, hstep', ?_⟩
  exact Scalar.truncate_mono (prediction_mono hprior hraw hstep hstep')

/-- Settings by which boarding takes half the time where two doors are open to one boarding
type. -/
def wideDoors : DwellConfig ℚ := { doorFactors := some ⟨[[], [1, 1, 0.5]]⟩ }

/-- The raw dwell where these doors are open. -/
def wideDoorsDwell (rate headway : ℚ) : ℚ :=
  rawDwell rate headway (wideDoors.boardingSecs rate headway (some 1) (some 2))

/-- With twice the rate and twice the headway, and so with four passengers instead of one, the
answer grows from seven seconds to twenty. -/
theorem wideDoors_growth :
    wideDoors.BoardingNonneg ∧ [0, 20000] ≠ ([] : List Int) ∧ (0 : ℚ) ≤ 50 ∧ (0 : ℚ) ≤ 1 / 240 ∧
      (1 / 240 : ℚ) ≤ 1 / 120 ∧ (0 : ℚ) ≤ 240 ∧ (240 : ℚ) ≤ 480 ∧
      (∃ step step', run (wideDoorsDwell (1 / 240) 240) [0, 20000] 50 = some step ∧
        run (wideDoorsDwell (1 / 120) 480) [0, 20000] 50 = some step' ∧
        Ending.valueOf step ≤ Ending.valueOf step') ∧
      (run (wideDoorsDwell (1 / 240) 240) [0, 20000] 50).map Ending.valueOf = some 6925 ∧
      (run (wideDoorsDwell (1 / 120) 480) [0, 20000] 50).map Ending.valueOf = some 20199 := by
  have hc : wideDoors.BoardingNonneg :=
    DwellConfig.boardingNonneg_of_isValid (by decide +kernel) (by decide +kernel) (by decide +kernel)
  have hne : [0, 20000] ≠ ([] : List Int) := by decide
  have hprior : (0 : ℚ) ≤ 50 := by norm_num
  have hrate : (0 : ℚ) ≤ 1 / 240 := by norm_num
  have hmoreRate : (1 / 240 : ℚ) ≤ 1 / 120 := by norm_num
  have hheadway : (0 : ℚ) ≤ 240 := by norm_num
  have hmoreHeadway : (240 : ℚ) ≤ 480 := by norm_num
  obtain ⟨-, -, hgrowth⟩ := more_passengers_never_shorten hc (some 1) (some 2) hne hprior hrate
    hmoreRate hheadway hmoreHeadway
  exact ⟨hc, hne, hprior, hrate, hmoreRate, hheadway, hmoreHeadway, hgrowth, by decide +kernel,
    by decide +kernel⟩

end TransitDwell
