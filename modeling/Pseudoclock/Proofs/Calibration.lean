import Mathlib
import Pseudoclock.Calibration
import Pseudoclock.Proofs.Binary64.Arithmetic
import Pseudoclock.Proofs.Except

/-!
The constants of a valid calibration: finite, and none of them moves a clock back.
-/

namespace Pseudoclock

theorem checkResolution_eq_ok_iff {clockResolution : Float} :
    checkResolution clockResolution = .ok () ↔ clockResolution.isFinite = true ∧ ¬ clockResolution ≤ 0 := by
  rw [checkResolution]
  cases hfinite : clockResolution.isFinite <;> by_cases hle : clockResolution ≤ 0 <;> simp [hle]

namespace Calibration

variable {calibration : Calibration}

private theorem nonneg_of_not_lt {x : Float} (hfinite : x.isFinite = true) (hnot : ¬ x < 0) : 0 ≤ x :=
  (Binary64.not_lt_iff Binary64.zero_isFinite hfinite).mp hnot

private theorem nonneg_of_check {which : Delay} {delay : Float} (hcheck : validate.check which delay = .ok ()) :
    0 ≤ delay := by
  rw [validate.check] at hcheck
  split at hcheck
  · next husable =>
    simp only [isUsableDelay, Bool.and_eq_true, Bool.not_eq_true', decide_eq_false_iff_not] at husable
    exact nonneg_of_not_lt husable.1 husable.2
  · cases hcheck

theorem clockResolution_nonneg (hvalid : calibration.validate = .ok ()) :
    calibration.clockResolution.isFinite = true ∧ 0 ≤ calibration.clockResolution := by
  rw [validate, check_bind_eq_ok_iff, checkResolution_eq_ok_iff] at hvalid
  obtain ⟨⟨hfinite, hnot⟩, _⟩ := hvalid
  exact ⟨hfinite, nonneg_of_not_lt hfinite fun hneg => hnot (Binary64.le_of_lt hneg)⟩

/-- Half ticks of a valid calibration have a finite length, which may be zero. -/
theorem halfTick_nonneg (hvalid : calibration.validate = .ok ()) :
    calibration.halfTick.isFinite = true ∧ 0 ≤ calibration.halfTick := by
  obtain ⟨hfinite, hnonneg⟩ := clockResolution_nonneg hvalid
  exact Binary64.half_nonneg hfinite hnonneg

theorem triggerDelay_nonneg (hvalid : calibration.validate = .ok ()) : 0 ≤ calibration.triggerDelay := by
  rw [validate, check_bind_eq_ok_iff, check_bind_eq_ok_iff] at hvalid
  exact nonneg_of_check hvalid.2.1

theorem waitDelay_nonneg (hvalid : calibration.validate = .ok ()) : 0 ≤ calibration.waitDelay := by
  rw [validate, check_bind_eq_ok_iff, check_bind_eq_ok_iff] at hvalid
  exact nonneg_of_check hvalid.2.2

/-- Half a cycle of any period takes no negative time. -/
theorem halfCycle_nonneg (hvalid : calibration.validate = .ok ()) (period : UInt32) :
    0 ≤ period.toFloat * calibration.halfTick := by
  obtain ⟨hfinite, hnonneg⟩ := halfTick_nonneg hvalid
  exact Binary64.zero_le_mul (Binary64.uint32_isFinite _) hfinite (Binary64.uint32_nonneg _) hnonneg

/-- Any number of ticks takes no negative time. -/
theorem toLength_nonneg (hvalid : calibration.validate = .ok ()) (reps : UInt32) :
    0 ≤ Ticks.toLength reps.toUInt64 calibration.clockResolution := by
  obtain ⟨hfinite, hnonneg⟩ := clockResolution_nonneg hvalid
  rw [Ticks.toLength, Binary64.uint64_toFloat, ← Binary64.uint32_toFloat]
  exact Binary64.zero_le_mul (Binary64.uint32_isFinite _) hfinite (Binary64.uint32_nonneg _) hnonneg

end Calibration

end Pseudoclock
