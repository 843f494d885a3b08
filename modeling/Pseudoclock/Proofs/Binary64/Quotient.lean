import Mathlib
import Pseudoclock.Proofs.Binary64.Arithmetic

/-!
Division by a unit of measure, which is a finite number without a sign and may be zero. It keeps the order of
numbers, if a quotient that is not a number counts as zero.
-/

open Float.Model Float.Model.UnpackedFloat

namespace Pseudoclock.Binary64

/-- A function of rational numbers, with a value below and a value above those that it has. -/
def onPlaces {α : Type} (low : α) (f : ℚ → α) (high : α) : Place → α :=
  WithBotTop.rec low f high

theorem onPlaces_coe {α : Type} (low : α) (f : ℚ → α) (high : α) (r : ℚ) : onPlaces low f high r = f r :=
  rfl

theorem onPlaces_mono {α : Type} [Preorder α] {low high : α} {f : ℚ → α} (hf : Monotone f) (hlow : ∀ r, low ≤ f r)
    (hhigh : ∀ r, f r ≤ high) : Monotone (onPlaces low f high) := by
  intro p q hle
  induction p using WithBotTop.rec with
  | bot =>
    induction q using WithBotTop.rec with
    | bot => exact le_refl low
    | coe s => exact hlow s
    | top => exact (hlow 0).trans (hhigh 0)
  | coe r =>
    induction q using WithBotTop.rec with
    | bot => exact absurd hle (by simp)
    | coe s => exact hf (WithBotTop.coe_le_coe.mp hle)
    | top => exact hhigh r
  | top =>
    obtain rfl : q = ⊤ := top_le_iff.mp hle
    exact le_refl high

/-- The place of a number, and zero for what is not a number. -/
def placeOrZero (x : Float) : Place :=
  (placeOf? x).getD (0 : ℚ)

/-- A finite number without a sign. -/
def IsUnsigned : UnpackedFloat → Prop
  | .zero sign => sign = .positive
  | .finite sign _ _ _ => sign = .positive
  | _ => False

/-- The place of the quotient of a number by a unit. Whatever is not zero is infinitely many times a unit of
zero. -/
def quotientPlace (unit : ℚ) : ℚ → Place := fun r =>
  if 0 < unit then nearestPlace (r / unit)
  else if r < 0 then ⊥
  else if r = 0 then (0 : ℚ)
  else ⊤

theorem quotientPlace_mono (unit : ℚ) : Monotone (quotientPlace unit) := by
  intro r s hle
  unfold quotientPlace
  by_cases hunit : 0 < unit
  · rw [if_pos hunit, if_pos hunit]
    exact nearestPlace_mono (div_le_div_of_nonneg_right hle hunit.le)
  · rw [if_neg hunit, if_neg hunit]
    rcases lt_trichotomy r 0 with hneg | rfl | hpos
    · rw [if_pos hneg]
      exact bot_le
    · rw [if_neg (lt_irrefl 0), if_pos rfl, if_neg hle.not_gt]
      split
      · exact le_refl _
      · exact le_top
    · have hs : 0 < s := hpos.trans_le hle
      rw [if_neg hs.not_gt, if_neg hs.ne']
      exact le_top

private theorem quotientPlace_zero_signed (sign : Sign) {r : ℚ} (hpos : 0 < r) :
    place? (.infinity sign) = some (quotientPlace 0 (signed sign r)) := by
  rw [quotientPlace, if_neg (lt_irrefl 0)]
  cases sign with
  | negative =>
    have hneg : signed .negative r < 0 := neg_lt_zero.mpr hpos
    rw [if_pos hneg]
    rfl
  | positive =>
    change 0 < signed .positive r at hpos
    rw [if_neg hpos.not_gt, if_neg hpos.ne']
    rfl

private theorem packedPlace?_infinity (sign : Sign) : packedPlace? (.infinity sign) = place? (.infinity sign) := by
  cases sign <;> rfl

private theorem div_positive (sign : Sign) : sign / .positive = sign := by
  cases sign <;> rfl

/-- The quotient of a number by a unit is at the place that depends on the place of the number only. -/
private theorem packedPlace?_div_unit {x unit : UnpackedFloat} (hunit : IsUnsigned unit) {p : Place}
    (hp : place? x = some p) :
    (packedPlace? (UnpackedFloat.div .binary64 x unit)).getD (0 : ℚ) =
      onPlaces ⊥ (quotientPlace (value unit)) ⊤ p := by
  cases unit with
  | notANumber => cases hunit
  | infinity sign => cases hunit
  | zero sign =>
    obtain rfl : sign = .positive := hunit
    cases x with
    | notANumber => cases hp
    | infinity sign =>
      rw [UnpackedFloat.div, div_positive, packedPlace?_infinity]
      cases sign <;> cases hp <;> rfl
    | zero sign =>
      cases hp
      have hdiv : UnpackedFloat.div .binary64 (.zero sign) (.zero .positive) = .notANumber := rfl
      have hquotient : quotientPlace 0 0 = (0 : ℚ) := by simp [quotientPlace]
      rw [hdiv, onPlaces_coe]
      exact hquotient.symm
    | finite sign m e hm =>
      have hpos : (0 : ℚ) < m * 2 ^ e := by positivity
      cases hp
      rw [UnpackedFloat.div, div_positive, packedPlace?_infinity, quotientPlace_zero_signed sign hpos]
      rfl
  | finite sign m' e' hm' =>
    obtain rfl : sign = .positive := hunit
    have hpos : 0 < value (.finite .positive m' e' hm') := by
      change (0 : ℚ) < m' * 2 ^ e'
      positivity
    cases x with
    | notANumber => cases hp
    | infinity sign =>
      rw [UnpackedFloat.div, div_positive, packedPlace?_infinity]
      cases sign <;> cases hp <;> rfl
    | _ =>
      cases hp
      rw [packedPlace?_div rfl rfl hpos.ne', Option.getD_some, onPlaces_coe, quotientPlace, if_pos hpos]
      rfl

section Floats

variable {x y unit : Float}

/-- Division by a unit keeps the order of numbers, the infinite ones among them. -/
theorem placeOrZero_div_mono (hunit : IsUnsigned unit.toModel.unpack) (hle : x ≤ y) :
    placeOrZero (x / unit) ≤ placeOrZero (y / unit) := by
  obtain ⟨p, q, hp, hq, hpq⟩ := le_iff_place.mp hle
  have hx : placeOrZero (x / unit) = _ := packedPlace?_div_unit hunit hp
  have hy : placeOrZero (y / unit) = _ := packedPlace?_div_unit hunit hq
  rw [hx, hy]
  exact onPlaces_mono (quotientPlace_mono _) (fun _ => bot_le) (fun _ => le_top) hpq

/-- The differences from one number are in the order of the numbers that it is subtracted from. -/
theorem sub_le_sub_right {origin : Float} (horigin : origin.isFinite = true) (hx : x.isFinite = true)
    (hy : y.isFinite = true) (hle : x ≤ y) : x - origin ≤ y - origin := by
  have hvalue : valueOf x ≤ valueOf y := (le_iff_valueOf hx hy).mp hle
  exact le_iff_place.mpr ⟨_, _, placeOf?_sub hx horigin, placeOf?_sub hy horigin, nearestPlace_mono (by linarith)⟩

theorem exists_positive (hfinite : x.isFinite = true) (hpos : ¬ x ≤ 0) :
    ∃ m e hm, x.toModel.unpack = .finite .positive m e hm := by
  have hvalue : 0 < valueOf x := by
    rw [le_iff_valueOf hfinite zero_isFinite, valueOf_zero] at hpos
    exact not_le.mp hpos
  rw [valueOf] at hvalue
  cases hunpack : x.toModel.unpack with
  | notANumber => rw [hunpack] at hvalue; exact absurd hvalue (lt_irrefl 0)
  | infinity sign => rw [hunpack] at hvalue; exact absurd hvalue (lt_irrefl 0)
  | zero sign => rw [hunpack] at hvalue; exact absurd hvalue (lt_irrefl 0)
  | finite sign m e hm =>
    cases sign with
    | positive => exact ⟨m, e, hm, rfl⟩
    | negative =>
      have hmagnitude : (0 : ℚ) < m * 2 ^ e := by positivity
      rw [hunpack] at hvalue
      exact absurd hvalue (neg_lt_zero.mpr hmagnitude).not_gt

theorem isUnsigned_of_pos (hfinite : x.isFinite = true) (hpos : ¬ x ≤ 0) : IsUnsigned x.toModel.unpack := by
  obtain ⟨m, e, hm, hunpack⟩ := exists_positive hfinite hpos
  rw [hunpack]
  rfl

/-- A number that has been rounded keeps its sign when it is packed, unless it is too large. -/
private theorem isUnsigned_unpack_pack {m : ℕ} {e : ℤ} (hcanonical : IsCanonical m e)
    (hfinite : (UnpackedFloat.unpack .binary64 (UnpackedFloat.pack .binary64 (ofParts .positive m e))).isFinite = true) :
    IsUnsigned (UnpackedFloat.unpack .binary64 (UnpackedFloat.pack .binary64 (ofParts .positive m e))) := by
  rcases Nat.eq_zero_or_pos m with rfl | hpos
  · rw [ofParts, dif_pos rfl, unpack_pack_zero]
    rfl
  · rw [ofParts, dif_neg hpos.ne'] at hfinite ⊢
    rcases le_or_gt e 971 with hsmall | hlarge
    · rw [unpack_pack_finite ⟨hcanonical, hsmall⟩]
      rfl
    · rw [unpack_pack_infinity hlarge] at hfinite
      cases hfinite

/-- Half of a positive number has no sign, also if it is so small that it is rounded to zero. -/
theorem isUnsigned_half (hfinite : x.isFinite = true) (hpos : ¬ x ≤ 0) : IsUnsigned (x / 2).toModel.unpack := by
  obtain ⟨m, e, hm, hunpack⟩ := exists_positive hfinite hpos
  have hzero : 0 ≤ x := (not_lt_iff zero_isFinite hfinite).mp fun hneg => hpos (le_of_lt hneg)
  have hhalf : (x / 2).isFinite = true := (half_nonneg hfinite hzero).1
  obtain ⟨n, f, hcanonical, _, hdiv⟩ :=
    exists_div hm (by norm_num : 0 < 2 ^ 52) e (-51) .positive .positive
  have hquotient : (x / 2).toModel.unpack =
      UnpackedFloat.unpack .binary64 (UnpackedFloat.pack .binary64 (ofParts .positive n f)) := by
    change UnpackedFloat.unpack .binary64 (UnpackedFloat.pack .binary64
      (UnpackedFloat.div .binary64 x.toModel.unpack (2 : Float).toModel.unpack)) = _
    rw [hunpack, ← div_positive .positive, ← hdiv]
    rfl
  change (x / 2).toModel.unpack.isFinite = true at hhalf
  rw [hquotient] at hhalf ⊢
  exact isUnsigned_unpack_pack hcanonical hhalf

end Floats

end Pseudoclock.Binary64
