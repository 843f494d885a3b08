import Mathlib

/-!
Rounding to binary64 numbers as a function of the exact value. It keeps the order of values, and leaves a
value alone that needs no rounding.
-/

open Float.Model Float.Model.UnpackedFloat

namespace Pseudoclock.Binary64

/-- The whole number nearest to `q` and, of two that are equally near, the even one. -/
def nearestEven (q : ℚ) : ℕ :=
  if q - ⌊q⌋₊ < 1 / 2 then ⌊q⌋₊
  else if q - ⌊q⌋₊ = 1 / 2 then ⌊q⌋₊ + ⌊q⌋₊ % 2
  else ⌊q⌋₊ + 1

theorem nearestEven_of_lt {q : ℚ} (hbelow : q - ⌊q⌋₊ < 1 / 2) : nearestEven q = ⌊q⌋₊ :=
  if_pos hbelow

theorem nearestEven_of_eq {q : ℚ} (hmiddle : q - ⌊q⌋₊ = 1 / 2) : nearestEven q = ⌊q⌋₊ + ⌊q⌋₊ % 2 := by
  rw [nearestEven, if_neg hmiddle.not_lt, if_pos hmiddle]

theorem nearestEven_of_gt {q : ℚ} (habove : 1 / 2 < q - ⌊q⌋₊) : nearestEven q = ⌊q⌋₊ + 1 := by
  rw [nearestEven, if_neg habove.not_gt, if_neg habove.ne']

theorem floor_le_nearestEven (q : ℚ) : ⌊q⌋₊ ≤ nearestEven q := by
  unfold nearestEven
  split_ifs <;> omega

theorem nearestEven_le_floor (q : ℚ) : nearestEven q ≤ ⌊q⌋₊ + 1 := by
  unfold nearestEven
  split_ifs <;> omega

@[simp] theorem nearestEven_natCast (n : ℕ) : nearestEven n = n := by
  simp [nearestEven]

theorem nearestEven_mono {q r : ℚ} (hle : q ≤ r) : nearestEven q ≤ nearestEven r := by
  have hfloor : ⌊q⌋₊ ≤ ⌊r⌋₊ := Nat.floor_mono hle
  rcases hfloor.lt_or_eq with hlt | heq
  · have hq := nearestEven_le_floor q
    have hr := floor_le_nearestEven r
    omega
  · have hrest : q - ⌊q⌋₊ ≤ r - ⌊r⌋₊ := by
      rw [heq]
      linarith
    rcases lt_trichotomy (q - ⌊q⌋₊) (1 / 2) with hq | hq | hq
    · rw [nearestEven_of_lt hq, heq]
      exact floor_le_nearestEven r
    · rw [nearestEven_of_eq hq, heq]
      rcases (hq ▸ hrest).lt_or_eq with hr | hr
      · rw [nearestEven_of_gt hr]
        omega
      · rw [nearestEven_of_eq hr.symm]
    · rw [nearestEven_of_gt hq, nearestEven_of_gt (hq.trans_le hrest), heq]

/-- An extended significand stands for a number: it has the number's whole part, and its further bits tell
how the rest compares with one half. -/
def IsExpansion (extended : ExtendedMantissa) (q : ℚ) : Prop :=
  ∃ rest : ℚ, 0 ≤ rest ∧ rest < 1 / 2 ∧ (extended.stickyBit = true ↔ 0 < rest) ∧
    q = extended.mantissa + (if extended.roundBit then 1 / 2 else 0) + rest

theorem isExpansion_exact (m : ℕ) : IsExpansion (.ofMantissaAndAccuracy m .exact) m :=
  ⟨0, le_refl 0, by norm_num, by simp [ExtendedMantissa.ofMantissaAndAccuracy],
    by simp [ExtendedMantissa.ofMantissaAndAccuracy]⟩

theorem IsExpansion.floor_eq {extended : ExtendedMantissa} {q : ℚ} (hexpansion : IsExpansion extended q) :
    ⌊q⌋₊ = extended.mantissa := by
  obtain ⟨rest, hnonneg, hless, _, rfl⟩ := hexpansion
  have hcast : (0 : ℚ) ≤ extended.mantissa := Nat.cast_nonneg _
  refine (Nat.floor_eq_iff ?_).mpr ⟨?_, ?_⟩ <;> split_ifs <;> linarith

theorem IsExpansion.roundedMantissa_eq {extended : ExtendedMantissa} {q : ℚ}
    (hexpansion : IsExpansion extended q) : extended.roundedMantissa = nearestEven q := by
  have hfloor := hexpansion.floor_eq
  obtain ⟨rest, hnonneg, hless, hsticky, hq⟩ := hexpansion
  have hfraction : q - ⌊q⌋₊ = (if extended.roundBit then 1 / 2 else 0) + rest := by
    rw [hfloor, hq]
    ring
  obtain ⟨m, round, sticky⟩ := extended
  cases round with
  | false =>
    rw [nearestEven_of_lt (by rw [hfraction]; simpa using hless), hfloor]
    cases sticky <;> rfl
  | true =>
    cases sticky with
    | false =>
      have hzero : rest = 0 := le_antisymm (by simpa using hsticky) hnonneg
      rw [nearestEven_of_eq (by rw [hfraction]; simp [hzero]), hfloor]
      rfl
    | true =>
      have hpos : 0 < rest := hsticky.mp rfl
      rw [nearestEven_of_gt (by rw [hfraction]; simpa using hpos), hfloor]
      rfl

/-- What is shifted out of the significand goes into its further bits. -/
theorem IsExpansion.shiftRightOne {extended : ExtendedMantissa} {q : ℚ} (hexpansion : IsExpansion extended q) :
    IsExpansion extended.shiftRightOne (q / 2) := by
  obtain ⟨rest, hnonneg, hless, hsticky, rfl⟩ := hexpansion
  obtain ⟨m, round, sticky⟩ := extended
  refine ⟨(if round then 1 / 4 else 0) + rest / 2, ?_, ?_, ?_, ?_⟩
  · split_ifs <;> linarith
  · split_ifs <;> linarith
  · cases round with
    | true =>
      simp only [ExtendedMantissa.shiftRightOne, Bool.true_or, if_true, true_iff]
      linarith
    | false => simpa [ExtendedMantissa.shiftRightOne] using hsticky
  · have hdigit : (m : ℚ) = 2 * (m / 2 : ℕ) + (m % 2 : ℕ) := by
      exact_mod_cast (Nat.div_add_mod m 2).symm
    rcases Nat.mod_two_eq_zero_or_one m with heven | hodd
    · simp only [ExtendedMantissa.shiftRightOne, heven, bne_self_eq_false, Bool.false_eq_true, if_false] at hdigit ⊢
      rw [hdigit]
      split_ifs <;> push_cast <;> ring
    · simp only [ExtendedMantissa.shiftRightOne, hodd] at hdigit ⊢
      rw [hdigit]
      simp only [bne_iff_ne, ne_eq, one_ne_zero, not_false_eq_true, if_true]
      split_ifs <;> push_cast <;> ring

theorem IsExpansion.shiftRight {extended : ExtendedMantissa} {q : ℚ} (hexpansion : IsExpansion extended q)
    (n : ℕ) : IsExpansion (extended >>> n) (q / 2 ^ n) := by
  induction n with
  | zero =>
    rw [pow_zero, div_one]
    exact hexpansion
  | succ n ih =>
    rw [pow_succ, ← div_div]
    exact ih.shiftRightOne

/-- The exponent to which a positive number is rounded. It leaves 53 bits, or fewer for the numbers that are
close to zero. -/
def grid (r : ℚ) : ℤ :=
  max (Int.log 2 r - 52) (-1074)

theorem least_le_grid (r : ℚ) : -1074 ≤ grid r :=
  le_max_right _ _

/-- A positive number rounded to a binary64 number whose exponent may be as large as it needs to be. -/
def magnitude (r : ℚ) : ℚ :=
  nearestEven (r / 2 ^ grid r) * 2 ^ grid r

private theorem natCast_two_pow_mul (k : ℕ) (e : ℤ) : ((2 ^ k : ℕ) : ℚ) * 2 ^ e = 2 ^ (k + e) := by
  rw [zpow_add₀ two_ne_zero, zpow_natCast, Nat.cast_pow, Nat.cast_ofNat]

theorem mul_zpow_le_of_le {m k : ℕ} (hle : m ≤ 2 ^ k) (e : ℤ) : (m : ℚ) * 2 ^ e ≤ 2 ^ (k + e) := by
  rw [← natCast_two_pow_mul]
  exact mul_le_mul_of_nonneg_right (Nat.cast_le.mpr hle) (by positivity)

theorem mul_zpow_lt_of_lt {m k : ℕ} (hless : m < 2 ^ k) (e : ℤ) : (m : ℚ) * 2 ^ e < 2 ^ (k + e) := by
  rw [← natCast_two_pow_mul]
  exact mul_lt_mul_of_pos_right (Nat.cast_lt.mpr hless) (by positivity)

theorem le_mul_zpow_of_le {m k : ℕ} (hle : 2 ^ k ≤ m) (e : ℤ) : 2 ^ (k + e) ≤ (m : ℚ) * 2 ^ e := by
  rw [← natCast_two_pow_mul]
  exact mul_le_mul_of_nonneg_right (Nat.cast_le.mpr hle) (by positivity)

theorem log_eq_iff {r : ℚ} (hpos : 0 < r) {k : ℤ} : Int.log 2 r = k ↔ 2 ^ k ≤ r ∧ r < 2 ^ (k + 1) := by
  have hlow : (2 : ℚ) ^ k ≤ r ↔ k ≤ Int.log 2 r := by
    exact_mod_cast Int.zpow_le_iff_le_log one_lt_two hpos
  have hhigh : r < (2 : ℚ) ^ (k + 1) ↔ Int.log 2 r < k + 1 := by
    exact_mod_cast Int.lt_zpow_iff_log_lt one_lt_two hpos
  rw [hlow, hhigh]
  omega

theorem log_mul {q : ℚ} (hone : 1 ≤ q) (e : ℤ) : Int.log 2 (q * 2 ^ e) = ⌊q⌋₊.log2 + e := by
  have hfloor : ⌊q⌋₊ ≠ 0 := (Nat.floor_pos.mpr hone).ne'
  have hlow : ((2 ^ ⌊q⌋₊.log2 : ℕ) : ℚ) ≤ q :=
    (Nat.cast_le.mpr (Nat.log2_self_le hfloor)).trans (Nat.floor_le (by linarith))
  have hhigh : q < ((2 ^ (⌊q⌋₊.log2 + 1) : ℕ) : ℚ) := (Nat.floor_lt (by linarith)).mp Nat.lt_log2_self
  have hscale : (0 : ℚ) < 2 ^ e := by positivity
  push_cast at hlow hhigh
  refine (log_eq_iff (by positivity)).mpr ⟨?_, ?_⟩
  · rw [zpow_add₀ two_ne_zero, zpow_natCast]
    exact mul_le_mul_of_nonneg_right hlow hscale.le
  · rw [show (⌊q⌋₊.log2 : ℤ) + e + 1 = (⌊q⌋₊.log2 + 1 : ℕ) + e by push_cast; ring, zpow_add₀ two_ne_zero,
      zpow_natCast]
    exact mul_lt_mul_of_pos_right hhigh hscale

theorem log_natCast_mul {m : ℕ} (hpos : 0 < m) (e : ℤ) : Int.log 2 ((m : ℚ) * 2 ^ e) = m.log2 + e := by
  rw [log_mul (Nat.one_le_cast.mpr hpos), Nat.floor_natCast]

theorem grid_mono {r s : ℚ} (hpos : 0 < r) (hle : r ≤ s) : grid r ≤ grid s := by
  have hlog : Int.log 2 r ≤ Int.log 2 s := Int.log_mono_right hpos hle
  unfold grid
  omega

theorem scaled_lt {r : ℚ} (hpos : 0 < r) : r / 2 ^ grid r < 2 ^ 53 := by
  have hhigh := ((log_eq_iff hpos).mp rfl).2
  have hgrid : Int.log 2 r + 1 ≤ 53 + grid r := by
    unfold grid
    omega
  rw [div_lt_iff₀ (by positivity)]
  calc r < 2 ^ (Int.log 2 r + 1) := hhigh
    _ ≤ 2 ^ (53 + grid r) := zpow_le_zpow_right₀ one_le_two hgrid
    _ = 2 ^ 53 * 2 ^ grid r := by rw [zpow_add₀ two_ne_zero]; norm_num

theorem le_scaled {r : ℚ} (hpos : 0 < r) (hgrid : -1074 < grid r) : 2 ^ 52 ≤ r / 2 ^ grid r := by
  have hlow := ((log_eq_iff hpos).mp rfl).1
  have hlog : Int.log 2 r = 52 + grid r := by
    unfold grid at hgrid ⊢
    omega
  rw [le_div_iff₀ (by positivity)]
  calc (2 : ℚ) ^ 52 * 2 ^ grid r = 2 ^ (52 + grid r) := by rw [zpow_add₀ two_ne_zero]; norm_num
    _ ≤ r := hlog ▸ hlow

theorem nearestEven_scaled_le {r : ℚ} (hpos : 0 < r) : nearestEven (r / 2 ^ grid r) ≤ 2 ^ 53 := by
  have hle : r / 2 ^ grid r ≤ ((2 ^ 53 : ℕ) : ℚ) := by exact_mod_cast (scaled_lt hpos).le
  exact (nearestEven_mono hle).trans_eq (nearestEven_natCast _)

theorem le_nearestEven_scaled {r : ℚ} (hpos : 0 < r) (hgrid : -1074 < grid r) :
    2 ^ 52 ≤ nearestEven (r / 2 ^ grid r) := by
  have hle : ((2 ^ 52 : ℕ) : ℚ) ≤ r / 2 ^ grid r := by exact_mod_cast le_scaled hpos hgrid
  exact (nearestEven_natCast _).symm.trans_le (nearestEven_mono hle)

theorem magnitude_nonneg (r : ℚ) : 0 ≤ magnitude r := by
  unfold magnitude
  positivity

/-- Rounding keeps the order, also of numbers that are rounded to different exponents. -/
theorem magnitude_mono {r s : ℚ} (hpos : 0 < r) (hle : r ≤ s) : magnitude r ≤ magnitude s := by
  have hs : 0 < s := hpos.trans_le hle
  rcases (grid_mono hpos hle).eq_or_lt with heq | hlt
  · have hscaled : r / 2 ^ grid r ≤ s / 2 ^ grid s := by
      rw [heq]
      exact div_le_div_of_nonneg_right hle (by positivity)
    unfold magnitude
    rw [heq] at hscaled ⊢
    exact mul_le_mul_of_nonneg_right (Nat.cast_le.mpr (nearestEven_mono hscaled)) (by positivity)
  · have hleast : -1074 < grid s := by
      have hleast := least_le_grid r
      omega
    -- The smallest number with the larger exponent is between the two.
    calc magnitude r ≤ 2 ^ (53 + grid r) := mul_zpow_le_of_le (nearestEven_scaled_le hpos) _
      _ ≤ 2 ^ (52 + grid s) := zpow_le_zpow_right₀ one_le_two (by omega)
      _ ≤ magnitude s := le_mul_zpow_of_le (le_nearestEven_scaled hs hleast) _

/-- The significands and exponents that binary64 numbers have, but for a bound on large exponents. -/
structure IsCanonical (m : ℕ) (e : ℤ) : Prop where
  lt_two_pow : m < 2 ^ 53
  least_le : -1074 ≤ e
  isFull : -1074 < e → 2 ^ 52 ≤ m

theorem IsCanonical.grid_eq {m : ℕ} {e : ℤ} (hcanonical : IsCanonical m e) (hpos : 0 < m) :
    grid ((m : ℚ) * 2 ^ e) = e := by
  obtain ⟨hless, hleast, hfull⟩ := hcanonical
  have hlog : m.log2 < 53 := (Nat.log2_lt hpos.ne').mpr hless
  have hnormal : -1074 < e → 52 ≤ m.log2 := fun he => (Nat.le_log2 hpos.ne').mpr (hfull he)
  rw [grid, log_natCast_mul hpos]
  omega

/-- A binary64 number is rounded to itself. -/
theorem IsCanonical.magnitude_eq {m : ℕ} {e : ℤ} (hcanonical : IsCanonical m e) (hpos : 0 < m) :
    magnitude ((m : ℚ) * 2 ^ e) = m * 2 ^ e := by
  have hscale : (2 : ℚ) ^ e ≠ 0 := by positivity
  rw [magnitude, hcanonical.grid_eq hpos, mul_div_cancel_right₀ _ hscale, nearestEven_natCast]

/-- The number of a sign, a significand that may be zero, and an exponent. -/
def ofParts (sign : Sign) (m : ℕ) (e : ℤ) : UnpackedFloat :=
  if hzero : m = 0 then .zero sign else .finite sign m e (Nat.pos_of_ne_zero hzero)

theorem targetExponent_totalExponent (m : ℕ) (e : ℤ) :
    Format.binary64.targetExponent (totalExponent m e) = max (m.log2 + e - 52) (-1074) := by
  simp only [totalExponent, Format.targetExponent]
  change max ((m.log2 : ℤ) + 1 + e - (53 : ℕ)) (-1074) = _
  congr 1
  push_cast
  ring

/-- The exponent to which a number is rounded is found from its whole part, as long as the number is not
written at a larger exponent. -/
private theorem targetExponent_eq {q : ℚ} (hpos : 0 < q) {e : ℤ} (hfine : e ≤ grid (q * 2 ^ e)) :
    Format.binary64.targetExponent (totalExponent ⌊q⌋₊ e) = grid (q * 2 ^ e) := by
  rw [targetExponent_totalExponent]
  rcases le_or_gt 1 q with hone | hsmall
  · rw [grid, log_mul hone]
  · -- All of the number is behind the whole part, and it is among those close to zero.
    have hscale : (0 : ℚ) < 2 ^ e := by positivity
    have hless : q * 2 ^ e < 2 ^ e := mul_lt_of_lt_one_left hscale hsmall
    have hlog : Int.log 2 (q * 2 ^ e) < e := by
      have hlow := ((log_eq_iff (mul_pos hpos hscale)).mp rfl).1
      exact (zpow_lt_zpow_iff_right₀ one_lt_two).mp (hlow.trans_lt hless)
    have hfloor : ⌊q⌋₊ = 0 := Nat.floor_eq_zero.mpr hsmall
    have hlogZero : Nat.log2 0 = 0 := rfl
    unfold grid at hfine ⊢
    rw [hfloor, hlogZero]
    push_cast
    omega

/-- After rounding, the significand may have become too long by one bit. -/
private theorem exists_shift {n : ℕ} {g : ℤ} (hn : n ≤ 2 ^ 53) (hleast : -1074 ≤ g)
    (hfull : -1074 < g → 2 ^ 52 ≤ n) :
    ∃ m e, IsCanonical m e ∧ (m : ℚ) * 2 ^ e = n * 2 ^ g ∧
      shiftToTargetExponent .binary64 n g .exact = (⟨m, false, false⟩, e) := by
  simp only [shiftToTargetExponent, shiftToExponent, targetExponent_totalExponent]
  rcases hn.lt_or_eq with hless | rfl
  · have hlog : n.log2 < 53 := by
      rcases Nat.eq_zero_or_pos n with rfl | hpos
      · decide
      · exact (Nat.log2_lt hpos.ne').mpr hless
    have hshift : (max (n.log2 + g - 52) (-1074) - g).toNat = 0 := by omega
    refine ⟨n, g, ⟨hless, hleast, hfull⟩, rfl, ?_⟩
    rw [hshift]
    exact Prod.ext rfl (by simp)
  · have hshift : (max ((Nat.log2 (2 ^ 53) : ℕ) + g - 52) (-1074) - g).toNat = 1 := by
      rw [Nat.log2_two_pow]
      omega
    refine ⟨2 ^ 52, g + 1, ⟨by norm_num, by omega, fun _ => le_rfl⟩, ?_, ?_⟩
    · rw [zpow_add_one₀ two_ne_zero]
      norm_num
      ring
    · rw [hshift]
      rfl

/-- A positive number that is known as precisely as is needed for rounding is rounded to its magnitude. -/
theorem exists_roundWithAccuracy {m : ℕ} {e : ℤ} {accuracy : Accuracy} {q : ℚ}
    (hexpansion : IsExpansion (.ofMantissaAndAccuracy m accuracy) q) (hpos : 0 < q)
    (hfine : e ≤ grid (q * 2 ^ e)) (sign : Sign) :
    ∃ m' e', IsCanonical m' e' ∧ (m' : ℚ) * 2 ^ e' = magnitude (q * 2 ^ e) ∧
      roundWithAccuracy .binary64 sign m e accuracy = ofParts sign m' e' := by
  have hscale : (0 : ℚ) < 2 ^ e := by positivity
  have hfloor : ⌊q⌋₊ = m := by
    rw [hexpansion.floor_eq]
    rcases accuracy with _ | (_ | _ | _) <;> rfl
  let shifted := ExtendedMantissa.ofMantissaAndAccuracy m accuracy >>> (grid (q * 2 ^ e) - e).toNat
  have hfirst : shiftToTargetExponent .binary64 m e accuracy = (shifted, grid (q * 2 ^ e)) := by
    have htarget := targetExponent_eq hpos hfine
    rw [hfloor] at htarget
    simp only [shiftToTargetExponent, shiftToExponent, htarget]
    exact Prod.ext rfl (by simp only; omega)
  have hrounded : shifted.roundedMantissa = nearestEven (q * 2 ^ e / 2 ^ grid (q * 2 ^ e)) := by
    rw [(hexpansion.shiftRight _).roundedMantissa_eq]
    congr 1
    have hexponent : grid (q * 2 ^ e) = e + (grid (q * 2 ^ e) - e).toNat := by omega
    conv_rhs => rw [hexponent]
    rw [zpow_add₀ two_ne_zero, zpow_natCast]
    field_simp
  have hr : 0 < q * 2 ^ e := mul_pos hpos hscale
  obtain ⟨m', e', hcanonical, hvalue, hsecond⟩ := exists_shift (nearestEven_scaled_le hr) (least_le_grid _)
    (le_nearestEven_scaled hr)
  refine ⟨m', e', hcanonical, hvalue, ?_⟩
  simp only [roundWithAccuracy, hfirst, hrounded]
  simp only [hsecond]
  rfl

/-- A positive number is rounded to its magnitude, whichever exponent it is written at. -/
theorem exists_round {m : ℕ} (hpos : 0 < m) (e : ℤ) (sign : Sign) :
    ∃ m' e', IsCanonical m' e' ∧ (m' : ℚ) * 2 ^ e' = magnitude (m * 2 ^ e) ∧
      UnpackedFloat.round .binary64 sign m e = ofParts sign m' e' := by
  simp only [UnpackedFloat.round, decreaseExponent]
  generalize hn : (e - Format.binary64.targetExponent (totalExponent m e)).toNat = n
  have hvalue : ((m <<< n : ℕ) : ℚ) * 2 ^ (e - n) = m * 2 ^ e := by
    rw [Nat.shiftLeft_eq, zpow_sub₀ two_ne_zero, zpow_natCast]
    push_cast
    field_simp
  have hfine : e - n ≤ grid (((m <<< n : ℕ) : ℚ) * 2 ^ (e - n)) := by
    rw [targetExponent_totalExponent] at hn
    rw [hvalue, grid, log_natCast_mul hpos]
    omega
  have hshifted : (0 : ℚ) < (m <<< n : ℕ) := by
    rw [Nat.shiftLeft_eq]
    positivity
  rw [← hvalue]
  exact exists_roundWithAccuracy (isExpansion_exact _) hshifted hfine sign

end Pseudoclock.Binary64
