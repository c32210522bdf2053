import Mathlib.Tactic.Linarith
import TransitDwell.Estimate.Boarding
import TransitDwell.Proofs.FilterBounds

/-!
# Signs of the boarding estimate

A boarding estimate in rational numbers is made of products and one sum, so that it is not negative
if none of the settings is that it is made from (`DwellConfig.BoardingNonneg`). The checks of a
configuration see to the seconds per boarding, and to nothing else of these: the constant and the
door factors pass whatever their signs are.
-/

namespace TransitDwell

namespace DwellConfig

/-- No setting that the boarding estimate is made from is negative. -/
structure BoardingNonneg (c : DwellConfig ℚ) : Prop where
  /-- Opening and closing the doors does not gain time. -/
  constant : 0 ≤ c.boardingConstant
  /-- Nor does a boarding passenger. -/
  paces : ∀ pace ∈ c.secondsPerBoarding ++ [c.defaultSecondsPerBoarding], 0 ≤ pace
  /-- No door factor is negative. -/
  factors : ∀ m ∈ c.doorFactors, ∀ row ∈ m.rows, ∀ factor ∈ row, 0 ≤ factor

/-- Of a configuration that passes every check it is enough to know the constant and the door
factors. -/
theorem boardingNonneg_of_isValid {c : DwellConfig ℚ} (hvalid : c.isValid = true)
    (hconstant : 0 ≤ c.boardingConstant)
    (hfactors : ∀ m ∈ c.doorFactors, ∀ row ∈ m.rows, ∀ factor ∈ row, 0 ≤ factor) :
    c.BoardingNonneg where
  constant := hconstant
  paces pace hpace := Scalar.isSize_rat.mp (c.isValid_iff.mp hvalid |>.2.2.2.2.2.2 pace hpace)
  factors := hfactors

namespace BoardingNonneg

variable {c : DwellConfig ℚ} (h : c.BoardingNonneg)
include h

theorem factor_nonneg (boardingType doors : Option Nat) :
    0 ≤ c.boardingFactor boardingType doors := by
  have hone : (0 : ℚ) ≤ 1 := zero_le_one
  unfold boardingFactor
  split
  · next t d m hm =>
    cases hfactor : m.factor? t d with
    | none => exact hone
    | some factor =>
      obtain ⟨row, hrow, hcell⟩ := Option.bind_eq_some_iff.mp hfactor
      exact h.factors m hm row (List.mem_of_getElem? hrow) factor (List.mem_of_getElem? hcell)
  · exact hone

theorem pace_nonneg (boardingType : Option Nat) : 0 ≤ c.boardingPace boardingType := by
  unfold boardingPace
  cases hpace : boardingType.bind fun t => c.secondsPerBoarding[t]? with
  | none => exact h.paces _ (by simp)
  | some pace =>
    obtain ⟨t, -, hcell⟩ := Option.bind_eq_some_iff.mp hpace
    exact h.paces pace (List.mem_append_left _ (List.mem_of_getElem? hcell))

variable {rate headwaySecs : ℚ} (hrate : 0 ≤ rate) (hheadway : 0 ≤ headwaySecs)
include hrate hheadway

theorem boardingSecs_nonneg (boardingType doors : Option Nat) :
    0 ≤ c.boardingSecs rate headwaySecs boardingType doors :=
  add_nonneg h.constant (mul_nonneg
    (mul_nonneg (mul_nonneg hrate hheadway) (h.factor_nonneg boardingType doors))
    (h.pace_nonneg boardingType))

theorem rawDwell_nonneg (boardingType doors : Option Nat) :
    0 ≤ rawDwell rate headwaySecs (c.boardingSecs rate headwaySecs boardingType doors) := by
  have hsecond : (0 : ℚ) ≤ Scalar.ofInt msPerSecond := Int.cast_nonneg (by decide)
  exact mul_nonneg (mul_nonneg (mul_nonneg hrate hheadway)
    (h.boardingSecs_nonneg hrate hheadway boardingType doors)) hsecond

end BoardingNonneg

end DwellConfig

end TransitDwell
