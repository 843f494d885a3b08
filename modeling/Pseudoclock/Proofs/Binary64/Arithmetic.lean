import Mathlib
import Pseudoclock.Proofs.Binary64.Place

/-!
Arithmetic of binary64 numbers. The sum, product and quotient of finite numbers are the numbers nearest to
the exact results, and the order of exact results is kept.
-/

open Float.Model Float.Model.UnpackedFloat

namespace Pseudoclock.Binary64

/-- A value rounded to a binary64 number whose exponent may be as large as it needs to be. -/
def rounded (r : ℚ) : ℚ :=
  if r < 0 then -magnitude (-r) else magnitude r

@[simp] theorem magnitude_zero : magnitude 0 = 0 := by
  simp [magnitude, nearestEven]

theorem rounded_neg (r : ℚ) : rounded (-r) = -rounded r := by
  rcases lt_trichotomy r 0 with hneg | rfl | hpos
  · rw [rounded, rounded, if_neg (by linarith), if_pos hneg, neg_neg]
  · simp [rounded]
  · rw [rounded, rounded, if_pos (by linarith), if_neg (by linarith), neg_neg]

theorem rounded_mono : Monotone rounded := by
  refine monotone_of_odd_of_monotoneOn_nonneg rounded_neg fun r hr s hs hle => ?_
  have hr : 0 ≤ r := hr
  have hs : 0 ≤ s := hs
  rw [rounded, rounded, if_neg hr.not_gt, if_neg hs.not_gt]
  rcases hr.eq_or_lt with rfl | hpos
  · rw [magnitude_zero]
    exact magnitude_nonneg s
  · exact magnitude_mono hpos hle

theorem rounded_signed (sign : Sign) {r : ℚ} (hpos : 0 < r) :
    rounded (signed sign r) = signed sign (magnitude r) := by
  cases sign with
  | negative => rw [signed, rounded_neg, rounded, if_neg hpos.not_gt, signed]
  | positive => rw [signed, rounded, if_neg hpos.not_gt, signed]

/-- The place of the number that is nearest to a value. -/
def nearestPlace (r : ℚ) : Place :=
  saturate (rounded r)

theorem nearestPlace_mono : Monotone nearestPlace :=
  saturate_mono.comp rounded_mono

theorem nearestPlace_zero : nearestPlace 0 = (0 : ℚ) := by
  have hzero : rounded 0 = 0 := by simp [rounded]
  rw [nearestPlace, hzero, saturate_of_lt (by linarith [limit_pos]) limit_pos]

/-- The place at which a number is packed. -/
def packedPlace? (x : UnpackedFloat) : Option Place :=
  place? (UnpackedFloat.unpack .binary64 (UnpackedFloat.pack .binary64 x))

theorem packedPlace?_zero (sign : Sign) : packedPlace? (.zero sign) = some (nearestPlace 0) := by
  rw [packedPlace?, unpack_pack_zero, nearestPlace_zero]
  rfl

theorem packedPlace?_ofParts {m : ℕ} {e : ℤ} (hcanonical : IsCanonical m e) {r : ℚ} (hpos : 0 < r)
    (hvalue : (m : ℚ) * 2 ^ e = magnitude r) (sign : Sign) :
    packedPlace? (ofParts sign m e) = some (nearestPlace (signed sign r)) := by
  rw [packedPlace?, place?_ofParts hcanonical, hvalue, nearestPlace, rounded_signed sign hpos]

/-- A number that has been rounded is packed at its own place. -/
theorem packedPlace?_finite {sign : Sign} {m : ℕ} {e : ℤ} {hm : 0 < m}
    (hx : IsRepresented (.finite sign m e hm)) :
    packedPlace? (.finite sign m e hm) = some (nearestPlace (value (.finite sign m e hm))) := by
  have hparts : ofParts sign m e = .finite sign m e hm := dif_neg hm.ne'
  have hplace := packedPlace?_ofParts hx.1 (by positivity) (hx.1.magnitude_eq hm).symm sign
  rwa [hparts] at hplace

theorem packedPlace?_normalize (mantissa e : ℤ) (zeroSign : Sign) :
    packedPlace? (UnpackedFloat.normalize .binary64 mantissa e zeroSign) = some (nearestPlace (mantissa * 2 ^ e)) := by
  rcases lt_trichotomy mantissa 0 with hneg | rfl | hpos
  · obtain ⟨n, hn⟩ := Int.eq_ofNat_of_zero_le (by omega : 0 ≤ -mantissa)
    obtain rfl : mantissa = -n := by omega
    have hnpos : 0 < n := by omega
    have hcompare : compare (-(n : ℤ)) 0 = .lt := compare_lt_iff_lt.mpr (by omega)
    obtain ⟨m', e', hcanonical, hvalue, hround⟩ := exists_round hnpos e .negative
    rw [UnpackedFloat.normalize, hcompare, neg_neg, Int.toNat_natCast, hround,
      packedPlace?_ofParts hcanonical (by positivity) hvalue]
    simp [signed]
  · have hcompare : compare (0 : ℤ) 0 = .eq := rfl
    rw [UnpackedFloat.normalize, hcompare, packedPlace?_zero]
    simp
  · obtain ⟨n, rfl⟩ := Int.eq_ofNat_of_zero_le hpos.le
    have hnpos : 0 < n := by omega
    have hcompare : compare (n : ℤ) 0 = .gt := compare_gt_iff_gt.mpr hpos
    obtain ⟨m', e', hcanonical, hvalue, hround⟩ := exists_round hnpos e .positive
    rw [UnpackedFloat.normalize, hcompare, Int.toNat_natCast, hround, packedPlace?_ofParts hcanonical (by positivity) hvalue]
    simp [signed]

section Operations

variable {x y : UnpackedFloat}

private theorem decreaseExponent_value (sign : Sign) (m : ℕ) {e least : ℤ} (hleast : least ≤ e) :
    ((sign.apply (decreaseExponent m e least).1 : ℤ) : ℚ) * 2 ^ least = signed sign (m * 2 ^ e) := by
  have hshift : (((e - least).toNat : ℕ) : ℤ) = e - least := by omega
  have hvalue : ((m <<< (e - least).toNat : ℕ) : ℚ) * 2 ^ least = m * 2 ^ e := by
    rw [Nat.shiftLeft_eq]
    push_cast
    rw [← zpow_natCast, hshift, mul_assoc, ← zpow_add₀ two_ne_zero, sub_add_cancel]
  simp only [decreaseExponent]
  rw [← hvalue]
  cases sign with
  | negative => rw [Sign.apply, signed, Int.cast_neg, Int.cast_natCast, neg_mul]
  | positive => rw [Sign.apply, signed, Int.cast_natCast]

theorem packedPlace?_add (hx : IsRepresented x) (hy : IsRepresented y) (hxfinite : x.isFinite = true)
    (hyfinite : y.isFinite = true) :
    packedPlace? (UnpackedFloat.add .binary64 x y) = some (nearestPlace (value x + value y)) := by
  cases x with
  | notANumber => cases hxfinite
  | infinity sign => cases hxfinite
  | zero sign =>
    cases y with
    | notANumber => cases hyfinite
    | infinity sign => cases hyfinite
    | zero sign' =>
      rw [UnpackedFloat.add]
      split <;> rw [packedPlace?_zero] <;> simp [value]
    | finite sign' m' e' hm' =>
      simp only [UnpackedFloat.add, packedPlace?_finite hy]
      simp [value]
  | finite sign m e hm =>
    cases y with
    | notANumber => cases hyfinite
    | infinity sign => cases hyfinite
    | zero sign' =>
      simp only [UnpackedFloat.add, packedPlace?_finite hx]
      simp [value]
    | finite sign' m' e' hm' =>
      simp only [UnpackedFloat.add, packedPlace?_normalize]
      push_cast
      rw [add_mul, decreaseExponent_value sign m (min_le_left e e'), decreaseExponent_value sign' m' (min_le_right e e')]
      rfl

private theorem signed_neg (sign : Sign) (r : ℚ) : signed (-sign) r = -signed sign r := by
  cases sign with
  | negative => exact (neg_neg r).symm
  | positive => rfl

private theorem sub_eq_add (x y : UnpackedFloat) :
    UnpackedFloat.sub .binary64 x y = UnpackedFloat.add .binary64 x y.neg := by
  cases x with
  | notANumber => rfl
  | infinity sign => cases y <;> rfl
  | zero sign => cases y <;> rfl
  | finite sign m e hm =>
    cases y with
    | finite sign' m' e' hm' =>
      cases sign' <;> simp [UnpackedFloat.sub, UnpackedFloat.add, UnpackedFloat.neg, Sign.apply, sub_eq_add_neg]
    | _ => rfl

theorem packedPlace?_sub (hx : IsRepresented x) (hy : IsRepresented y) (hxfinite : x.isFinite = true)
    (hyfinite : y.isFinite = true) :
    packedPlace? (UnpackedFloat.sub .binary64 x y) = some (nearestPlace (value x - value y)) := by
  have hrepresented : IsRepresented y.neg := by cases y <;> exact hy
  have hfinite : y.neg.isFinite = true := by cases y <;> exact hyfinite
  have hvalue : value y.neg = -value y := by
    cases y with
    | finite sign m e hm => exact signed_neg sign _
    | _ => exact neg_zero.symm
  rw [sub_eq_add, packedPlace?_add hx hrepresented hxfinite hfinite, hvalue, ← sub_eq_add_neg]

private theorem add_infinity (hx : x.isFinite = true) (sign : Sign) :
    UnpackedFloat.add .binary64 x (.infinity sign) = .infinity sign := by
  cases x with
  | notANumber => cases hx
  | infinity sign' => cases hx
  | zero sign' => rfl
  | finite sign' m e hm => rfl

private theorem infinity_add (hy : y.isFinite = true) (sign : Sign) :
    UnpackedFloat.add .binary64 (.infinity sign) y = .infinity sign := by
  cases y with
  | notANumber => cases hy
  | infinity sign' => cases hy
  | zero sign' => rfl
  | finite sign' m e hm => rfl

private theorem signed_mul (sign sign' : Sign) (r s : ℚ) :
    signed (sign * sign') (r * s) = signed sign r * signed sign' s := by
  cases sign <;> cases sign'
  · exact (neg_mul_neg r s).symm
  · exact (neg_mul r s).symm
  · exact (mul_neg r s).symm
  · rfl

private theorem signed_div (sign sign' : Sign) (r s : ℚ) :
    signed (sign / sign') (r / s) = signed sign r / signed sign' s := by
  cases sign <;> cases sign'
  · exact (neg_div_neg_eq r s).symm
  · exact (neg_div s r).symm
  · exact (div_neg r).symm
  · rfl

/-- A product is written at an exponent that is not too large for rounding it. -/
private theorem le_grid_mul {m m' : ℕ} {e e' : ℤ} (hm : IsCanonical m e) (hm' : IsCanonical m' e') (hpos : 0 < m)
    (hpos' : 0 < m') : e + e' ≤ grid ((m * m' : ℕ) * 2 ^ (e + e')) := by
  have hproduct : 0 < m * m' := Nat.mul_pos hpos hpos'
  rw [grid, log_natCast_mul hproduct]
  rcases Nat.lt_or_ge (m * m') (2 ^ 52) with hless | hge
  · have hshort : m < 2 ^ 52 := (Nat.le_mul_of_pos_right m hpos').trans_lt hless
    have hshort' : m' < 2 ^ 52 := (Nat.le_mul_of_pos_left m' hpos).trans_lt hless
    have hleast : ¬ -1074 < e := fun h => absurd (hm.isFull h) hshort.not_ge
    have hleast' : ¬ -1074 < e' := fun h => absurd (hm'.isFull h) hshort'.not_ge
    omega
  · have hlog : 52 ≤ (m * m').log2 := (Nat.le_log2 hproduct.ne').mpr hge
    omega

theorem packedPlace?_mul (hx : IsRepresented x) (hy : IsRepresented y) (hxfinite : x.isFinite = true)
    (hyfinite : y.isFinite = true) :
    packedPlace? (UnpackedFloat.mul .binary64 x y) = some (nearestPlace (value x * value y)) := by
  cases x with
  | notANumber => cases hxfinite
  | infinity sign => cases hxfinite
  | zero sign =>
    cases y with
    | notANumber => cases hyfinite
    | infinity sign' => cases hyfinite
    | zero sign' => simp [UnpackedFloat.mul, packedPlace?_zero, value]
    | finite sign' m' e' hm' => simp [UnpackedFloat.mul, packedPlace?_zero, value]
  | finite sign m e hm =>
    cases y with
    | notANumber => cases hyfinite
    | infinity sign' => cases hyfinite
    | zero sign' => simp [UnpackedFloat.mul, packedPlace?_zero, value]
    | finite sign' m' e' hm' =>
      have hproduct : (0 : ℚ) < (m * m' : ℕ) := by exact_mod_cast Nat.mul_pos hm hm'
      have hvalue : ((m * m' : ℕ) : ℚ) * 2 ^ (e + e') = (m * 2 ^ e) * (m' * 2 ^ e') := by
        rw [zpow_add₀ two_ne_zero]
        push_cast
        ring
      obtain ⟨n, f, hcanonical, hrounded, hround⟩ := exists_roundWithAccuracy (isExpansion_exact (m * m')) hproduct
        (le_grid_mul hx.1 hy.1 hm hm') (sign * sign')
      rw [UnpackedFloat.mul, hround, packedPlace?_ofParts hcanonical (by positivity) hrounded, hvalue, signed_mul]
      rfl

/-- The remainder of a division tells all that rounding needs to know of the quotient. -/
private theorem isExpansion_div (n : ℕ) {m : ℕ} (hpos : 0 < m) :
    IsExpansion (.ofMantissaAndAccuracy (n / m) (accuracyOfFraction (n % m) m)) ((n : ℚ) / m) := by
  have hm : (0 : ℚ) < m := Nat.cast_pos.mpr hpos
  have hsplit : (n : ℚ) / m = (n / m : ℕ) + ((n % m : ℕ) : ℚ) / m := by
    have hdivision : (n : ℚ) = m * (n / m : ℕ) + (n % m : ℕ) := by exact_mod_cast (Nat.div_add_mod n m).symm
    rw [eq_comm, eq_div_iff hm.ne', add_mul, div_mul_cancel₀ _ hm.ne', mul_comm, ← hdivision]
  have hless : ((n % m : ℕ) : ℚ) / m < 1 := (div_lt_one hm).mpr (Nat.cast_lt.mpr (Nat.mod_lt n hpos))
  rw [hsplit]
  generalize n / m = whole at *
  generalize n % m = left at *
  rcases Nat.eq_zero_or_pos left with rfl | hleft
  · simpa [accuracyOfFraction] using isExpansion_exact whole
  · have hfraction : 0 < (left : ℚ) / m := by positivity
    rw [accuracyOfFraction, if_neg hleft.ne']
    rcases lt_trichotomy (2 * left) m with hlow | heq | hhigh
    · have hhalf : (left : ℚ) / m < 1 / 2 := by
        rw [div_lt_div_iff₀ hm two_pos]
        exact_mod_cast (by omega : left * 2 < 1 * m)
      rw [compare_lt_iff_lt.mpr hlow]
      exact ⟨left / m, hfraction.le, hhalf, by simp [ExtendedMantissa.ofMantissaAndAccuracy, hfraction],
        by simp [ExtendedMantissa.ofMantissaAndAccuracy]⟩
    · have hhalf : (left : ℚ) / m = 1 / 2 := by
        rw [div_eq_div_iff hm.ne' two_ne_zero]
        exact_mod_cast (by omega : left * 2 = 1 * m)
      rw [compare_eq_iff_eq.mpr heq, hhalf]
      exact ⟨0, le_refl 0, by norm_num, by simp [ExtendedMantissa.ofMantissaAndAccuracy],
        by simp [ExtendedMantissa.ofMantissaAndAccuracy]⟩
    · have hhalf : 1 / 2 < (left : ℚ) / m := by
        rw [div_lt_div_iff₀ two_pos hm]
        exact_mod_cast (by omega : 1 * m < left * 2)
      rw [compare_gt_iff_gt.mpr hhigh]
      refine ⟨left / m - 1 / 2, by linarith, by linarith, ?_, ?_⟩
      · simpa [ExtendedMantissa.ofMantissaAndAccuracy] using hhalf
      · simp only [ExtendedMantissa.ofMantissaAndAccuracy, if_true]
        ring

/-- The exponent of a quotient is found from those of its operands. -/
private theorem le_grid_div {m m' : ℕ} (hpos : 0 < m) (hpos' : 0 < m') (e e' : ℤ) :
    max (m.log2 + e - (m'.log2 + e') - 53) (-1074) ≤ grid (m * 2 ^ e / (m' * 2 ^ e')) := by
  have hr : (0 : ℚ) < m * 2 ^ e := by positivity
  have hr' : (0 : ℚ) < m' * 2 ^ e' := by positivity
  have hlow := ((log_eq_iff hr).mp (log_natCast_mul hpos e)).1
  have hhigh := ((log_eq_iff hr').mp (log_natCast_mul hpos' e')).2
  have hlog : (m.log2 + e) - (m'.log2 + e' + 1) ≤ Int.log 2 ((m : ℚ) * 2 ^ e / (m' * 2 ^ e')) := by
    have hquotient : (2 : ℚ) ^ ((m.log2 + e) - (m'.log2 + e' + 1)) ≤ m * 2 ^ e / (m' * 2 ^ e') := by
      rw [zpow_sub₀ two_ne_zero]
      exact div_le_div₀ hr.le hlow hr' hhigh.le
    refine (Int.zpow_le_iff_le_log one_lt_two (div_pos hr hr')).mp ?_
    exact_mod_cast hquotient
  unfold grid
  omega

/-- The quotient of two finite numbers is rounded to a number with the sign of the exact quotient. -/
theorem exists_div {m m' : ℕ} (hm : 0 < m) (hm' : 0 < m') (e e' : ℤ) (sign sign' : Sign) :
    ∃ n f, IsCanonical n f ∧ (n : ℚ) * 2 ^ f = magnitude (m * 2 ^ e / (m' * 2 ^ e')) ∧
      UnpackedFloat.div .binary64 (.finite sign m e hm) (.finite sign' m' e' hm') = ofParts (sign / sign') n f := by
  have htarget : Format.binary64.targetExponent (totalExponent m e - totalExponent m' e') =
      max (m.log2 + e - (m'.log2 + e') - 53) (-1074) := by
    simp only [totalExponent, Format.targetExponent]
    change max ((m.log2 : ℤ) + 1 + e - (m'.log2 + 1 + e') - (53 : ℕ)) (-1074) = _
    congr 1
    push_cast
    ring
  simp only [UnpackedFloat.div, divCore, htarget]
  generalize ht : min (e - e') (max (m.log2 + e - (m'.log2 + e') - 53) (-1074)) = t
  have hshift : (((e - e' - t).toNat : ℕ) : ℤ) = e - e' - t := by omega
  have hvalue : ((m <<< (e - e' - t).toNat : ℕ) : ℚ) / m' * 2 ^ t = m * 2 ^ e / (m' * 2 ^ e') := by
    rw [Nat.shiftLeft_eq]
    push_cast
    rw [← zpow_natCast, hshift, zpow_sub₀ two_ne_zero, zpow_sub₀ two_ne_zero]
    field_simp
  have hpos : (0 : ℚ) < (m <<< (e - e' - t).toNat : ℕ) / m' := by
    rw [Nat.shiftLeft_eq]
    positivity
  have hfine : t ≤ grid ((m <<< (e - e' - t).toNat : ℕ) / m' * 2 ^ t) := by
    rw [hvalue]
    exact (ht.symm.trans_le (min_le_right _ _)).trans (le_grid_div hm hm' e e')
  obtain ⟨n, f, hcanonical, hrounded, hround⟩ :=
    exists_roundWithAccuracy (isExpansion_div _ hm') hpos hfine (sign / sign')
  exact ⟨n, f, hcanonical, hvalue ▸ hrounded, hround⟩

theorem packedPlace?_div (hxfinite : x.isFinite = true) (hyfinite : y.isFinite = true) (hne : value y ≠ 0) :
    packedPlace? (UnpackedFloat.div .binary64 x y) = some (nearestPlace (value x / value y)) := by
  cases y with
  | notANumber => cases hyfinite
  | infinity sign' => cases hyfinite
  | zero sign' => exact absurd rfl hne
  | finite sign' m' e' hm' =>
    cases x with
    | notANumber => cases hxfinite
    | infinity sign => cases hxfinite
    | zero sign => simp [UnpackedFloat.div, packedPlace?_zero, value]
    | finite sign m e hm =>
      obtain ⟨n, f, hcanonical, hrounded, hdiv⟩ := exists_div hm hm' e e' sign sign'
      rw [hdiv, packedPlace?_ofParts hcanonical (by positivity) hrounded, signed_div]
      rfl

end Operations

section Floats

variable {x y : Float}

def valueOf (x : Float) : ℚ := value x.toModel.unpack

theorem placeOf?_add (hx : x.isFinite = true) (hy : y.isFinite = true) :
    placeOf? (x + y) = some (nearestPlace (valueOf x + valueOf y)) :=
  packedPlace?_add (isRepresented_toModel x) (isRepresented_toModel y) hx hy

theorem placeOf?_sub (hx : x.isFinite = true) (hy : y.isFinite = true) :
    placeOf? (x - y) = some (nearestPlace (valueOf x - valueOf y)) :=
  packedPlace?_sub (isRepresented_toModel x) (isRepresented_toModel y) hx hy

theorem placeOf?_mul (hx : x.isFinite = true) (hy : y.isFinite = true) :
    placeOf? (x * y) = some (nearestPlace (valueOf x * valueOf y)) :=
  packedPlace?_mul (isRepresented_toModel x) (isRepresented_toModel y) hx hy

theorem placeOf?_div (hx : x.isFinite = true) (hy : y.isFinite = true) (hne : valueOf y ≠ 0) :
    placeOf? (x / y) = some (nearestPlace (valueOf x / valueOf y)) :=
  packedPlace?_div hx hy hne

/-- A finite number is at the place of its value. -/
theorem placeOf?_of_isFinite (hx : x.isFinite = true) : placeOf? x = some (valueOf x : ℚ) := by
  change x.toModel.unpack.isFinite = true at hx
  rw [placeOf?, valueOf]
  cases hunpack : x.toModel.unpack with
  | notANumber => simp [hunpack, UnpackedFloat.isFinite] at hx
  | infinity sign => simp [hunpack, UnpackedFloat.isFinite] at hx
  | zero sign => rfl
  | finite sign m e hm => rfl

theorem isFinite_of_placeOf? {r : ℚ} (hplace : placeOf? x = some r) : x.isFinite = true := by
  change x.toModel.unpack.isFinite = true
  rw [placeOf?] at hplace
  cases hunpack : x.toModel.unpack with
  | notANumber => rw [hunpack] at hplace; cases hplace
  | infinity sign =>
    rw [hunpack] at hplace
    cases sign <;> cases hplace
  | zero sign => rfl
  | finite sign m e hm => rfl

/-- The value of a finite number needs no rounding. -/
theorem nearestPlace_valueOf (hx : x.isFinite = true) : nearestPlace (valueOf x) = (valueOf x : ℚ) := by
  have hrepresented := isRepresented_toModel x
  change x.toModel.unpack.isFinite = true at hx
  rw [valueOf]
  cases hunpack : x.toModel.unpack with
  | notANumber => simp [hunpack, UnpackedFloat.isFinite] at hx
  | infinity sign => simp [hunpack, UnpackedFloat.isFinite] at hx
  | zero sign => exact nearestPlace_zero
  | finite sign m e hm =>
    rw [hunpack] at hrepresented
    have hplace := packedPlace?_finite hrepresented
    rw [packedPlace?, unpack_pack_finite hrepresented] at hplace
    exact (Option.some.inj hplace).symm

theorem le_iff_valueOf (hx : x.isFinite = true) (hy : y.isFinite = true) : x ≤ y ↔ valueOf x ≤ valueOf y := by
  rw [le_iff_place, placeOf?_of_isFinite hx, placeOf?_of_isFinite hy]
  simp

/-- What is not below some finite number is finite, or positive infinity. -/
theorem isFinite_or_infinity {least : Float} (hleast : least.isFinite = true) (hx : least ≤ x) :
    x.isFinite = true ∨ x.toModel.unpack = .infinity .positive := by
  obtain ⟨p, q, hp, hq, hle⟩ := le_iff_place.mp hx
  obtain rfl := Option.some.inj (hp.symm.trans (placeOf?_of_isFinite hleast))
  rw [placeOf?] at hq
  change x.toModel.unpack.isFinite = true ∨ _
  cases hunpack : x.toModel.unpack with
  | notANumber => rw [hunpack] at hq; cases hq
  | infinity sign =>
    cases sign with
    | positive => exact .inr rfl
    | negative =>
      rw [hunpack] at hq
      obtain rfl := Option.some.inj hq
      exact absurd hle (by simp)
  | zero sign => exact .inl rfl
  | finite sign m e hm => exact .inl rfl

theorem valueOf_zero : valueOf 0 = 0 := rfl

theorem zero_isFinite : (0 : Float).isFinite = true := rfl

/-- What is added moves a number up or leaves it where it is, also if it is infinite. -/
theorem le_add_of_nonneg {least : Float} (hleast : least.isFinite = true) (hx : least ≤ x) (hy : 0 ≤ y) :
    x ≤ x + y := by
  obtain ⟨_, p, _, hp, _⟩ := le_iff_place.mp hx
  by_cases hfinite : x.isFinite = true ∧ y.isFinite = true
  · obtain ⟨hxfinite, hyfinite⟩ := hfinite
    have hvalue : 0 ≤ valueOf y := (le_iff_valueOf zero_isFinite hyfinite).mp hy
    refine le_iff_place.mpr ⟨_, _, placeOf?_of_isFinite hxfinite, placeOf?_add hxfinite hyfinite, ?_⟩
    rw [← nearestPlace_valueOf hxfinite]
    exact nearestPlace_mono (by linarith)
  · have hsum : placeOf? (x + y) = some ⊤ := by
      change packedPlace? (UnpackedFloat.add .binary64 x.toModel.unpack y.toModel.unpack) = _
      rcases isFinite_or_infinity hleast hx with hxfinite | hxinfinite
      · rcases isFinite_or_infinity zero_isFinite hy with hyfinite | hyinfinite
        · exact absurd ⟨hxfinite, hyfinite⟩ hfinite
        · change x.toModel.unpack.isFinite = true at hxfinite
          rw [hyinfinite, add_infinity hxfinite]
          rfl
      · rcases isFinite_or_infinity zero_isFinite hy with hyfinite | hyinfinite
        · change y.toModel.unpack.isFinite = true at hyfinite
          rw [hxinfinite, infinity_add hyfinite]
          rfl
        · rw [hxinfinite, hyinfinite]
          rfl
    exact le_iff_place.mpr ⟨p, ⊤, hp, hsum, le_top⟩

theorem zero_le_mul (hxfinite : x.isFinite = true) (hyfinite : y.isFinite = true) (hx : 0 ≤ x) (hy : 0 ≤ y) :
    0 ≤ x * y := by
  have hxvalue : 0 ≤ valueOf x := (le_iff_valueOf zero_isFinite hxfinite).mp hx
  have hyvalue : 0 ≤ valueOf y := (le_iff_valueOf zero_isFinite hyfinite).mp hy
  refine le_iff_place.mpr ⟨_, _, placeOf?_of_isFinite zero_isFinite, placeOf?_mul hxfinite hyfinite, ?_⟩
  rw [valueOf_zero, ← nearestPlace_zero]
  exact nearestPlace_mono (mul_nonneg hxvalue hyvalue)

/-- Half of a finite number that is not negative is again such a number, however small it is. -/
theorem half_nonneg (hxfinite : x.isFinite = true) (hx : 0 ≤ x) : (x / 2).isFinite = true ∧ 0 ≤ x / 2 := by
  have htwo : valueOf 2 = 2 := by
    change (2 ^ 52 : ℕ) * (2 : ℚ) ^ (-51 : ℤ) = 2
    norm_num
  have hvalue : 0 ≤ valueOf x := (le_iff_valueOf zero_isFinite hxfinite).mp hx
  have hplace : placeOf? (x / 2) = some (nearestPlace (valueOf x / 2)) := by
    rw [placeOf?_div hxfinite rfl (by rw [htwo]; norm_num), htwo]
  have hlow : ((0 : ℚ) : Place) ≤ nearestPlace (valueOf x / 2) := by
    rw [← nearestPlace_zero]
    exact nearestPlace_mono (by linarith)
  have hhigh : nearestPlace (valueOf x / 2) ≤ (valueOf x : ℚ) := by
    rw [← nearestPlace_valueOf hxfinite]
    exact nearestPlace_mono (by linarith)
  refine ⟨?_, ?_⟩
  · generalize nearestPlace (valueOf x / 2) = place at *
    induction place using WithBotTop.rec with
    | bot => exact absurd hlow (by simp)
    | coe r => exact isFinite_of_placeOf? hplace
    | top => exact absurd hhigh (by simp)
  · exact le_iff_place.mpr ⟨_, _, placeOf?_of_isFinite zero_isFinite, hplace, hlow⟩

theorem uint32_isFinite (n : UInt32) : n.toFloat.isFinite = true := by
  rw [uint32_toFloat, ← uint64_toFloat]
  exact isFinite_toFloat _

theorem uint32_nonneg (n : UInt32) : 0 ≤ n.toFloat := by
  have hplace : placeOf? n.toFloat = some (nearestPlace (n.toNat * 2 ^ (0 : ℤ))) := by
    change packedPlace? (UnpackedFloat.normalize .binary64 n.toNat 0 .positive) = _
    rw [packedPlace?_normalize]
    simp
  refine le_iff_place.mpr ⟨_, _, placeOf?_of_isFinite zero_isFinite, hplace, ?_⟩
  rw [valueOf_zero, ← nearestPlace_zero]
  exact nearestPlace_mono (by positivity)

end Floats

end Pseudoclock.Binary64
