import Mathlib

/-!
Whole numbers as binary64 numbers: below `2 ^ 64` they are finite, and multiplication by one leaves
them as they are. A whole number is therefore the same binary64 number whichever type of integers it
is converted from.
-/

open Float.Model Float.Model.UnpackedFloat

namespace Pseudoclock.Binary64

/-- A significand of full width, at an exponent that binary64 numbers have. -/
structure IsNormal (mantissa : Nat) (exponent : Int) : Prop where
  log2_eq : mantissa.log2 = 52
  least_le : -1074 ≤ exponent
  le_greatest : exponent ≤ 971

/-- The binary64 number one before it is packed. -/
def one : UnpackedFloat := .finite .positive (2 ^ 52) (-52) (by decide)

theorem IsNormal.bounds {m : Nat} {e : Int} (hnormal : IsNormal m e) : 2 ^ 52 ≤ m ∧ m < 2 ^ 53 := by
  have hlog := hnormal.log2_eq
  have hne : m ≠ 0 := by
    intro hzero
    simp [hzero] at hlog
  exact ⟨(Nat.le_log2 hne).mp hlog.ge, (Nat.log2_lt hne).mp (by omega)⟩

theorem sign_of_packed (sign : Sign) (exponent : BitVec 11) (mantissa : BitVec 52) :
    Sign.ofBitVec (unpackSign (packComponents .binary64 sign exponent mantissa)) = sign := by
  have hbits : unpackSign (packComponents .binary64 sign exponent mantissa) = sign.toBitVec := by
    ext i hi
    obtain rfl : i = 0 := by omega
    simp only [unpackSign, packComponents, BitVec.extractLsb, BitVec.getElem_cast,
      BitVec.getElem_extractLsb']
    rw [BitVec.getLsbD_append, BitVec.getLsbD_append]
    simp
  rw [hbits]
  cases sign <;> rfl

/-- Packing loses nothing of a normal number. -/
theorem unpack_pack_normal {m : Nat} {e : Int} (hnormal : IsNormal m e) (sign : Sign) (hpos : 0 < m) :
    UnpackedFloat.unpack .binary64 (UnpackedFloat.pack .binary64 (.finite sign m e hpos)) = .finite sign m e hpos := by
  obtain ⟨hlog, hleast, hgreatest⟩ := hnormal
  obtain ⟨hlow, hhigh⟩ := IsNormal.bounds ⟨hlog, hleast, hgreatest⟩
  have hbiased : (e + Format.binary64.exponentBias + Format.binary64.mantissaBitsWithoutImplicit).toNat
      = (e + 1075).toNat := by
    change (e + (1023 : Nat) + (52 : Nat)).toNat = _
    congr 1
    omega
  have hexponent : (BitVec.ofNat 11 (e + 1075).toNat).toNat = (e + 1075).toNat := by
    rw [BitVec.toNat_ofNat]
    exact Nat.mod_eq_of_lt (by omega)
  have hnotTop : BitVec.ofNat 11 (e + 1075).toNat ≠ -1#11 := by
    intro heq
    have htop := congrArg BitVec.toNat heq
    rw [hexponent] at htop
    simp at htop
    omega
  have hnotZero : BitVec.ofNat 11 (e + 1075).toNat ≠ 0#11 := by
    intro heq
    have hzero := congrArg BitVec.toNat heq
    rw [hexponent] at hzero
    simp at hzero
    omega
  have hmantissa : (1#1 ++ BitVec.ofNat 52 m).toNat = m := by
    rw [BitVec.toNat_append, ← Nat.shiftLeft_add_eq_or_of_lt (BitVec.ofNat 52 m).isLt,
      BitVec.toNat_ofNat, Nat.shiftLeft_eq]
    simp
    omega
  rw [UnpackedFloat.pack]
  simp only [hlog, hbiased]
  rw [if_neg (by omega), if_pos (by rfl), UnpackedFloat.unpack]
  simp only [unpackMantissa_packComponents, unpackExponent_packComponents, sign_of_packed]
  rw [if_neg hnotTop, if_neg hnotZero]
  simp only [UnpackedFloat.finite.injEq, true_and]
  refine ⟨hmantissa, ?_⟩
  rw [hexponent]
  change ((e + 1075).toNat : Int) - ((1023 : Nat) + (52 : Nat)) = e
  omega

theorem unpack_pack_zero (sign : Sign) :
    UnpackedFloat.unpack .binary64 (UnpackedFloat.pack .binary64 (.zero sign)) = .zero sign := by
  cases sign <;> rfl


theorem mantissa_shiftRight (extended : ExtendedMantissa) (n : Nat) :
    (extended >>> n).mantissa = extended.mantissa / 2 ^ n := by
  induction n with
  | zero =>
    change extended.mantissa = _
    simp
  | succ n ih =>
    change (extended >>> n).mantissa / 2 = _
    rw [ih, Nat.div_div_eq_div_mul, Nat.pow_succ]

/-- Only zeros are shifted out of a multiple of a power of two. -/
theorem exact_shiftRight (m n : Nat) :
    (⟨m * 2 ^ n, false, false⟩ : ExtendedMantissa) >>> n = ⟨m, false, false⟩ := by
  induction n generalizing m with
  | zero =>
    change (⟨m * 2 ^ 0, false, false⟩ : ExtendedMantissa) = _
    simp
  | succ n ih =>
    change ((⟨m * 2 ^ (n + 1), false, false⟩ : ExtendedMantissa) >>> n).shiftRightOne = _
    rw [show m * 2 ^ (n + 1) = m * 2 * 2 ^ n by ring, ih]
    simp [ExtendedMantissa.shiftRightOne]

theorem roundedMantissa_le (extended : ExtendedMantissa) :
    extended.roundedMantissa ≤ extended.mantissa + 1 := by
  obtain ⟨m, round, sticky⟩ := extended
  cases round <;> cases sticky <;>
    simp only [ExtendedMantissa.roundedMantissa, ExtendedMantissa.accuracy, Accuracy.roundToNearestEven] <;>
    omega

theorem le_roundedMantissa (extended : ExtendedMantissa) :
    extended.mantissa ≤ extended.roundedMantissa := by
  obtain ⟨m, round, sticky⟩ := extended
  cases round <;> cases sticky <;>
    simp only [ExtendedMantissa.roundedMantissa, ExtendedMantissa.accuracy, Accuracy.roundToNearestEven] <;>
    omega

theorem log2_mul_two_pow {m : Nat} (hpos : 0 < m) (n : Nat) : (m * 2 ^ n).log2 = m.log2 + n := by
  have hne : m ≠ 0 := hpos.ne'
  have hlow := Nat.log2_self_le hne
  have hhigh : m < 2 ^ (m.log2 + 1) := Nat.lt_log2_self
  rw [Nat.log2_eq_iff (by positivity), show m.log2 + n + 1 = m.log2 + 1 + n by omega, pow_add, pow_add _ _ n]
  exact ⟨Nat.mul_le_mul_right _ hlow, Nat.mul_lt_mul_of_pos_right hhigh (by positivity)⟩

private theorem targetExponent_normal {m : Nat} {e : Int} (hnormal : IsNormal m e) (n : Nat) :
    Format.binary64.targetExponent (totalExponent (m * 2 ^ n) (e - n)) = e := by
  have hpos : 0 < m := lt_of_lt_of_le (by positivity) hnormal.bounds.1
  have hleast := hnormal.least_le
  simp only [totalExponent, log2_mul_two_pow hpos, hnormal.log2_eq, Format.targetExponent]
  change max (((52 + n : Nat) : Int) + 1 + (e - n) - (53 : Nat)) (-1074) = e
  omega

/-- The significand of a normal number may be written at a smaller exponent, with as many zeros
behind it. -/
theorem shiftToTargetExponent_normal {m : Nat} {e : Int} (hnormal : IsNormal m e) (n : Nat) :
    shiftToTargetExponent .binary64 (m * 2 ^ n) (e - n) .exact = (⟨m, false, false⟩, e) := by
  simp only [shiftToTargetExponent, shiftToExponent, targetExponent_normal hnormal]
  have hamount : (e - (e - (n : Int))).toNat = n := by omega
  rw [hamount]
  refine Prod.ext (exact_shiftRight m n) ?_
  change e - n + n = e
  omega

theorem roundWithAccuracy_normal {m : Nat} {e : Int} (hnormal : IsNormal m e) (sign : Sign) (n : Nat)
    (hpos : 0 < m) :
    roundWithAccuracy .binary64 sign (m * 2 ^ n) (e - n) .exact = .finite sign m e hpos := by
  have hrounded : (⟨m, false, false⟩ : ExtendedMantissa).roundedMantissa = m := rfl
  have hsame : shiftToTargetExponent .binary64 m e .exact = (⟨m, false, false⟩, e) := by
    simpa using shiftToTargetExponent_normal hnormal 0
  simp only [roundWithAccuracy, shiftToTargetExponent_normal hnormal, hrounded, hsame]
  rw [dif_neg hpos.ne']

theorem mul_one_normal {m : Nat} {e : Int} (hnormal : IsNormal m e) (sign : Sign) (hpos : 0 < m) :
    UnpackedFloat.mul .binary64 (.finite sign m e hpos) one = .finite sign m e hpos := by
  have hsign : sign * .positive = sign := by cases sign <;> rfl
  have hround := roundWithAccuracy_normal hnormal sign 52 hpos
  simpa only [UnpackedFloat.mul, one, hsign, sub_eq_add_neg, Nat.cast_ofNat] using hround

/-- A significand of 53 bits, or the next one after them, is normal up to zeros behind it. -/
private theorem exists_normal {m k : Nat} (hlow : 2 ^ 52 ≤ m) (hhigh : m ≤ 2 ^ 53) (hk : k ≤ 11) :
    ∃ m' e n, IsNormal m' e ∧ m = m' * 2 ^ n ∧ (k : Int) = e - (n : Nat) := by
  by_cases hfull : m = 2 ^ 53
  · exact ⟨2 ^ 52, k + 1, 1, ⟨Nat.log2_two_pow, by omega, by omega⟩, by omega, by omega⟩
  · have hlog : m.log2 = 52 := (Nat.log2_eq_iff (by omega)).mpr ⟨hlow, by omega⟩
    exact ⟨m, k, 0, ⟨hlog, by omega, by omega⟩, by omega, by omega⟩

private theorem div_two_pow_bounds {n : Nat} (hlarge : 52 ≤ n.log2) :
    2 ^ 52 ≤ n / 2 ^ (n.log2 - 52) ∧ n / 2 ^ (n.log2 - 52) < 2 ^ 53 := by
  have hne : n ≠ 0 := by
    intro hzero
    simp [hzero] at hlarge
  have hlow := Nat.log2_self_le hne
  have hhigh : n < 2 ^ (n.log2 + 1) := Nat.lt_log2_self
  constructor
  · refine (Nat.le_div_iff_mul_le (by positivity)).mpr ?_
    rwa [← pow_add, show 52 + (n.log2 - 52) = n.log2 by omega]
  · refine (Nat.div_lt_iff_lt_mul (by positivity)).mpr ?_
    rwa [← pow_add, show 53 + (n.log2 - 52) = n.log2 + 1 by omega]

/-- A whole number of 53 bits or more rounds to a normal number. -/
private theorem round_large {n : Nat} (hlarge : 52 ≤ n.log2) (hrange : n.log2 < 64) :
    ∃ m e, ∃ hpos : 0 < m, IsNormal m e ∧
      roundWithAccuracy .binary64 .positive n 0 .exact = .finite .positive m e hpos := by
  let k := n.log2 - 52
  let shifted := (⟨n, false, false⟩ : ExtendedMantissa) >>> k
  have hfirst : shiftToTargetExponent .binary64 n 0 .exact = (shifted, (k : Int)) := by
    have htarget : Format.binary64.targetExponent (totalExponent n 0) = (k : Int) := by
      simp only [totalExponent, Format.targetExponent]
      change max ((n.log2 : Int) + 1 + 0 - (53 : Nat)) (-1074) = _
      omega
    simp only [shiftToTargetExponent, shiftToExponent, htarget, sub_zero, Int.toNat_natCast, zero_add]
    rfl
  have hmantissa : shifted.mantissa = n / 2 ^ k := mantissa_shiftRight _ _
  have hbounds : 2 ^ 52 ≤ shifted.mantissa ∧ shifted.mantissa < 2 ^ 53 := hmantissa ▸ div_two_pow_bounds hlarge
  obtain ⟨m, e, j, hnormal, hrounded, hexponent⟩ := exists_normal (k := k)
    (hbounds.1.trans (le_roundedMantissa shifted)) (by have := roundedMantissa_le shifted; omega) (by omega)
  have hpos : 0 < m := lt_of_lt_of_le (by positivity) hnormal.bounds.1
  refine ⟨m, e, hpos, hnormal, ?_⟩
  have hsecond : shiftToTargetExponent .binary64 shifted.roundedMantissa k .exact = (⟨m, false, false⟩, e) := by
    rw [hrounded, hexponent]
    exact shiftToTargetExponent_normal hnormal j
  simp only [roundWithAccuracy, hfirst, hsecond]
  rw [dif_neg hpos.ne']

/-- Whole numbers from one to the largest of 64 bits are normal numbers. -/
theorem ofNat_normal {n : Nat} (hpos : 0 < n) (hrange : n < 2 ^ 64) :
    ∃ m e, ∃ hm : 0 < m, IsNormal m e ∧ UnpackedFloat.ofNat .binary64 n = .finite .positive m e hm := by
  have hlog : n.log2 < 64 := (Nat.log2_lt hpos.ne').mpr hrange
  have hofNat : UnpackedFloat.ofNat .binary64 n = UnpackedFloat.round .binary64 .positive n 0 := by
    have hcompare : compare (n : Int) 0 = .gt := compare_gt_iff_gt.mpr (by omega)
    simp only [UnpackedFloat.ofNat, UnpackedFloat.ofInt, UnpackedFloat.normalize, hcompare, Int.toNat_natCast]
  have htarget : Format.binary64.targetExponent (totalExponent n 0) = n.log2 - 52 := by
    simp only [totalExponent, Format.targetExponent]
    change max ((n.log2 : Int) + 1 + 0 - (53 : Nat)) (-1074) = _
    omega
  rw [hofNat]
  simp only [UnpackedFloat.round, decreaseExponent, htarget]
  by_cases hlarge : 52 ≤ n.log2
  · have hshift : (0 - ((n.log2 : Int) - 52)).toNat = 0 := by omega
    rw [hshift]
    simpa using round_large hlarge hlog
  · let k := 52 - n.log2
    have hshift : (0 - ((n.log2 : Int) - 52)).toNat = k := by omega
    have hnormal : IsNormal (n * 2 ^ k) (-k) :=
      ⟨by rw [log2_mul_two_pow hpos]; omega, by omega, by omega⟩
    have hround := roundWithAccuracy_normal hnormal .positive 0 (by positivity)
    refine ⟨n * 2 ^ k, -k, by positivity, hnormal, ?_⟩
    rw [hshift, Nat.shiftLeft_eq]
    simpa using hround

private theorem unpack_toFloat (n : UInt64) :
    n.toFloat.toModel.unpack = UnpackedFloat.ofNat .binary64 n.toNat := by
  change UnpackedFloat.unpack .binary64
    (UnpackedFloat.pack .binary64 (UnpackedFloat.ofNat .binary64 n.toNat)) = _
  by_cases hzero : n.toNat = 0
  · rw [hzero]
    rfl
  · obtain ⟨m, e, hm, hnormal, hofNat⟩ := ofNat_normal (Nat.pos_of_ne_zero hzero) n.toNat_lt
    rw [hofNat, unpack_pack_normal hnormal]

/-- A word is a finite number. -/
theorem isFinite_toFloat (n : UInt64) : n.toFloat.isFinite = true := by
  change n.toFloat.toModel.unpack.isFinite = true
  rw [unpack_toFloat]
  by_cases hzero : n.toNat = 0
  · rw [hzero]
    rfl
  · obtain ⟨m, e, hm, _, hofNat⟩ := ofNat_normal (Nat.pos_of_ne_zero hzero) n.toNat_lt
    rw [hofNat]
    rfl

/-- Multiplication by one leaves a word as it is. -/
theorem toFloat_mul_one {x : Float} (hone : x.toModel.unpack = one) (n : UInt64) :
    n.toFloat * x = n.toFloat := by
  have hmul : UnpackedFloat.mul .binary64 (UnpackedFloat.ofNat .binary64 n.toNat) one =
      UnpackedFloat.ofNat .binary64 n.toNat := by
    by_cases hzero : n.toNat = 0
    · rw [hzero]
      rfl
    · obtain ⟨m, e, hm, hnormal, hofNat⟩ := ofNat_normal (Nat.pos_of_ne_zero hzero) n.toNat_lt
      rw [hofNat, mul_one_normal hnormal]
  change Float.ofModel (Float.Model.pack
    (UnpackedFloat.mul .binary64 n.toFloat.toModel.unpack x.toModel.unpack)) = _
  rw [unpack_toFloat, hone, hmul]
  rfl

theorem ofNat_eq_toFloat {n : Nat} (hrange : n < 2 ^ 53) : Float.ofNat n = n.toUInt64.toFloat := by
  change Float.ofScientific n false 0 = _
  rw [Float.ofScientific, dif_pos ⟨hrange, by decide⟩]
  refine toFloat_mul_one ?_ _
  simp [Float.exactlyRepresentablePowersOfTen]
  rfl

/-- A number of 32 bits is the same binary64 number as the integer that it stands for. -/
theorem uint32_toFloat (n : UInt32) : n.toFloat = Float.ofInt n.toNat := by
  have hrange : n.toNat < 2 ^ 32 := n.toNat_lt
  change _ = Float.ofNat n.toNat
  rw [ofNat_eq_toFloat (by omega)]
  change Float.ofModel (Float.Model.pack (UnpackedFloat.ofNat .binary64 n.toNat)) =
    Float.ofModel (Float.Model.pack (UnpackedFloat.ofNat .binary64 n.toNat.toUInt64.toNat))
  rw [show n.toNat.toUInt64.toNat = n.toNat from Nat.mod_eq_of_lt (by omega)]

theorem uint64_toFloat (n : UInt32) : n.toUInt64.toFloat = Float.ofInt n.toNat := by
  rw [← uint32_toFloat]
  change Float.ofModel (Float.Model.pack (UnpackedFloat.ofNat .binary64 n.toUInt64.toNat)) = _
  rw [UInt32.toNat_toUInt64]
  rfl

end Pseudoclock.Binary64
