import Mathlib
import Pseudoclock.Ticks
import Pseudoclock.Proofs.Binary64.Quotient

/-!
The order of positions. Longer durations have later positions, also if a duration is infinite, if it is beyond
the ends of the position register, or if its unit is zero.
-/

open Float.Model Float.Model.UnpackedFloat

namespace Pseudoclock.Ticks

open Binary64

theorem clamp_mono : Monotone clamp :=
  fun _ _ hle => max_le_max_left least (min_le_min_left greatest hle)

theorem least_le_clamp (n : Int) : least ≤ clamp n :=
  le_max_left least _

theorem clamp_le_greatest (n : Int) : clamp n ≤ greatest :=
  max_le (by decide) (min_le_left greatest n)

/-- The whole number nearest to `r`, with halves rounded away from zero. -/
def roundAway (r : ℚ) : ℤ :=
  if r < 0 then -⌊-r + 1 / 2⌋ else ⌊r + 1 / 2⌋

theorem roundAway_neg (r : ℚ) : roundAway (-r) = -roundAway r := by
  rcases lt_trichotomy r 0 with hneg | rfl | hpos
  · rw [roundAway, roundAway, if_neg (by linarith), if_pos hneg, neg_neg]
  · norm_num [roundAway]
  · rw [roundAway, roundAway, if_pos (by linarith), if_neg (by linarith), neg_neg]

theorem roundAway_mono : Monotone roundAway := by
  refine monotone_of_odd_of_monotoneOn_nonneg roundAway_neg fun r hr s hs hle => ?_
  have hr : 0 ≤ r := hr
  have hs : 0 ≤ s := hs
  rw [roundAway, roundAway, if_neg hr.not_gt, if_neg hs.not_gt]
  exact Int.floor_mono (by linarith)

private theorem roundHalfUp_eq (m : ℕ) (e : ℤ) : (roundHalfUp m e : ℤ) = ⌊(m : ℚ) * 2 ^ e + 1 / 2⌋ := by
  rw [roundHalfUp]
  split
  · next hnonneg =>
    obtain ⟨k, rfl⟩ := Int.eq_ofNat_of_zero_le hnonneg
    have hvalue : (m : ℚ) * 2 ^ (k : ℤ) = (m <<< k : ℕ) := by
      rw [Nat.shiftLeft_eq]
      push_cast
      rw [zpow_natCast]
    rw [hvalue, Int.toNat_natCast, Int.floor_natCast_add]
    norm_num
  · next hneg =>
    obtain ⟨k, hk⟩ := Int.eq_ofNat_of_zero_le (by omega : 0 ≤ -e)
    obtain rfl : e = -k := by omega
    have hvalue : (m : ℚ) * 2 ^ (-(k : ℤ)) + 1 / 2 = (2 * m + 2 ^ k : ℕ) / (2 * 2 ^ k : ℕ) := by
      rw [zpow_neg, zpow_natCast]
      push_cast
      field_simp
    rw [hvalue, Rat.floor_natCast_div_natCast, neg_neg, Int.toNat_natCast, Nat.shiftLeft_eq, Nat.shiftLeft_eq, one_mul,
      Int.natCast_div]

theorem roundAway_signed (sign : Sign) (m : ℕ) {e : ℤ} :
    roundAway (signed sign (m * 2 ^ e)) = sign.apply (roundHalfUp m e) := by
  have hnonneg : (0 : ℚ) ≤ m * 2 ^ e := by positivity
  have hround : roundAway (m * 2 ^ e) = roundHalfUp m e := by
    rw [roundAway, if_neg hnonneg.not_gt, roundHalfUp_eq]
  cases sign with
  | negative => rw [signed, roundAway_neg, hround, Sign.apply]
  | positive => rw [signed, hround, Sign.apply]

/-- A number has the position of its place, as if it were zero when it is not a number. -/
theorem nearest_eq (x : Float) : nearest x = onPlaces least (clamp ∘ roundAway) greatest (placeOrZero x) := by
  have hzero : (clamp ∘ roundAway) 0 = 0 := by norm_num [roundAway, clamp, least, greatest]
  rw [nearest, placeOrZero, placeOf?]
  cases x.toModel.unpack with
  | notANumber => exact hzero.symm
  | infinity sign => cases sign <;> rfl
  | zero sign => exact hzero.symm
  | finite sign m e hm => exact congrArg clamp (roundAway_signed sign m).symm

private theorem onPlaces_clamp_mono : Monotone (onPlaces least (clamp ∘ roundAway) greatest) :=
  onPlaces_mono (clamp_mono.comp roundAway_mono) (fun _ => least_le_clamp _) (fun _ => clamp_le_greatest _)

theorem nearest_mono {x y : Float} (hle : placeOrZero x ≤ placeOrZero y) : nearest x ≤ nearest y := by
  rw [nearest_eq, nearest_eq]
  exact onPlaces_clamp_mono hle

theorem ofLength_le_greatest (time unit : Float) : ofLength time unit ≤ greatest := by
  rw [ofLength, nearest_eq]
  exact onPlaces_clamp_mono le_top

/-- Longer durations have later positions. -/
theorem ofLength_mono {x y unit : Float} (hunit : IsUnsigned unit.toModel.unpack) (hle : x ≤ y) :
    ofLength x unit ≤ ofLength y unit :=
  nearest_mono (placeOrZero_div_mono hunit hle)

end Pseudoclock.Ticks
