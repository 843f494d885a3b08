import Mathlib
import Pseudoclock.Proofs.Binary64.Order
import Pseudoclock.Proofs.Binary64.Rounding
import Pseudoclock.Proofs.Binary64.Whole

/-!
The places of binary64 numbers among the rational numbers and two infinities. Comparison is that of places,
and a number that has been rounded is packed at the place of its value or, if that is too large, at infinity.
-/

open Float.Model Float.Model.UnpackedFloat

namespace Pseudoclock.Binary64

abbrev Place := WithBotTop ℚ

/-- A number of this sign and magnitude. -/
def signed : Sign → ℚ → ℚ
  | .negative, r => -r
  | .positive, r => r

/-- The value of a finite number. -/
def value : UnpackedFloat → ℚ
  | .finite sign m e _ => signed sign (m * 2 ^ e)
  | _ => 0

/-- The place of a number, which what is not a number lacks. -/
def place? : UnpackedFloat → Option Place
  | .notANumber => none
  | .infinity .negative => some ⊥
  | .infinity .positive => some ⊤
  | .zero _ => some (0 : ℚ)
  | .finite sign m e _ => some (signed sign (m * 2 ^ e) : ℚ)

/-- A number that has been rounded and is not too large. -/
def IsRepresented : UnpackedFloat → Prop
  | .finite _ m e _ => IsCanonical m e ∧ e ≤ 971
  | _ => True

theorem isRepresented_unpack (bits : BitVec Format.binary64.numBits) :
    IsRepresented (UnpackedFloat.unpack .binary64 bits) := by
  have hmantissa : (unpackMantissa bits).toNat < 2 ^ 52 := (unpackMantissa bits).isLt
  have hexponent : (unpackExponent bits).toNat < 2048 := (unpackExponent bits).isLt
  have hbias : ((Format.binary64.exponentBias : ℤ) + (Format.binary64.mantissaBitsWithoutImplicit : ℕ)) = 1075 := rfl
  rw [UnpackedFloat.unpack]
  split
  · split <;> trivial
  · next htop =>
    split
    · next hzero =>
      split
      · trivial
      · -- The numbers that are close to zero have the least exponent.
        have hleast : (unpackExponent bits).toNat = 0 := by rw [hzero]; rfl
        rw [hleast, hbias]
        exact ⟨⟨by omega, by norm_num, fun hless => by omega⟩, by norm_num⟩
    · next hzero =>
      have hfull : (1#1 ++ unpackMantissa bits).toNat = 2 ^ 52 + (unpackMantissa bits).toNat := by
        rw [BitVec.toNat_append, ← Nat.shiftLeft_add_eq_or_of_lt (unpackMantissa bits).isLt, Nat.shiftLeft_eq]
        simp
      have hpos : (unpackExponent bits).toNat ≠ 0 := fun h => hzero (BitVec.eq_of_toNat_eq h)
      have hless : (unpackExponent bits).toNat ≠ 2047 := fun h => htop (BitVec.eq_of_toNat_eq h)
      rw [hbias]
      exact ⟨⟨by omega, by omega, fun _ => by omega⟩, by omega⟩

private theorem magnitude_lt {m m' : ℕ} {e e' : ℤ} (hm : IsCanonical m e) (hm' : IsCanonical m' e') (hless : e < e') :
    (m : ℚ) * 2 ^ e < m' * 2 ^ e' := by
  calc (m : ℚ) * 2 ^ e < 2 ^ (53 + e) := mul_zpow_lt_of_lt hm.lt_two_pow e
    _ ≤ 2 ^ (52 + e') := zpow_le_zpow_right₀ one_le_two (by omega)
    _ ≤ m' * 2 ^ e' := le_mul_zpow_of_le (hm'.isFull (hm.least_le.trans_lt hless)) e'

/-- Among rounded numbers, the one with the larger exponent is larger. -/
theorem magnitude_le_iff {m m' : ℕ} {e e' : ℤ} (hm : IsCanonical m e) (hm' : IsCanonical m' e') :
    (m : ℚ) * 2 ^ e ≤ m' * 2 ^ e' ↔ e < e' ∨ e = e' ∧ m ≤ m' := by
  rcases lt_trichotomy e e' with hless | rfl | hless
  · simp [hless, (magnitude_lt hm hm' hless).le]
  · have hscale : (0 : ℚ) < 2 ^ e := by positivity
    simp [hscale]
  · have hnot := (magnitude_lt hm' hm hless).not_ge
    simp [hnot, hless.not_gt, hless.ne']

/-- Keys are ordered as places are. -/
private theorem key_le_iff {x y : UnpackedFloat} (hx : IsRepresented x) (hy : IsRepresented y) {a b : Key}
    (ha : key? x = some a) (hb : key? y = some b) :
    ∃ p q, place? x = some p ∧ place? y = some q ∧ (a ≤ b ↔ p ≤ q) := by
  have hpos : ∀ {m : ℕ} (e : ℤ), 0 < m → (0 : ℚ) < m * 2 ^ e := fun e hm => by positivity
  rcases x with (_ | _) | _ | _ | ⟨_ | _, m, e, hm⟩ <;> rcases y with (_ | _) | _ | _ | ⟨_ | _, m', e', hm'⟩ <;>
    cases ha <;> cases hb <;> refine ⟨_, _, rfl, rfl, ?_⟩ <;> simp [Prod.Lex.toLex_le_toLex, signed]
  case zero.finite.negative => exact hpos e' hm'
  case zero.finite.positive => exact (hpos e' hm').le
  case finite.negative.zero => exact (hpos e hm).le
  case finite.negative.finite.negative => rw [magnitude_le_iff hy.1 hx.1, eq_comm]
  case finite.negative.finite.positive => linarith [hpos e hm, hpos e' hm']
  case finite.positive.zero => exact hpos e hm
  case finite.positive.finite.negative => linarith [hpos e hm, hpos e' hm']
  case finite.positive.finite.positive => rw [magnitude_le_iff hx.1 hy.1]

def placeOf? (x : Float) : Option Place := place? x.toModel.unpack

theorem isRepresented_toModel (x : Float) : IsRepresented x.toModel.unpack :=
  isRepresented_unpack _

private theorem exists_key {x : UnpackedFloat} {p : Place} (hp : place? x = some p) : ∃ a, key? x = some a := by
  rcases x with (_ | _) | _ | _ | ⟨_ | _, m, e, hm⟩ <;> first | exact ⟨_, rfl⟩ | cases hp

/-- One number is at most another exactly if its place is. -/
theorem le_iff_place {x y : Float} : x ≤ y ↔ ∃ p q, placeOf? x = some p ∧ placeOf? y = some q ∧ p ≤ q := by
  have hx := isRepresented_toModel x
  have hy := isRepresented_toModel y
  rw [le_iff]
  constructor
  · rintro ⟨a, b, ha, hb, hab⟩
    obtain ⟨p, q, hp, hq, hiff⟩ := key_le_iff hx hy ha hb
    exact ⟨p, q, hp, hq, hiff.mp hab⟩
  · rintro ⟨p, q, hp, hq, hpq⟩
    obtain ⟨a, ha⟩ := exists_key hp
    obtain ⟨b, hb⟩ := exists_key hq
    obtain ⟨p', q', hp', hq', hiff⟩ := key_le_iff hx hy ha hb
    obtain rfl : p' = p := Option.some.inj (hp'.symm.trans hp)
    obtain rfl : q' = q := Option.some.inj (hq'.symm.trans hq)
    exact ⟨a, b, ha, hb, hiff.mpr hpq⟩

/-- The least positive value that is too large for a finite number. -/
def limit : ℚ := 2 ^ (1024 : ℤ)

theorem limit_pos : 0 < limit := by
  unfold limit
  positivity

/-- The place of a rounded value: infinity if the value is too large. -/
def saturate (r : ℚ) : Place :=
  if limit ≤ r then ⊤ else if r ≤ -limit then ⊥ else (r : ℚ)

theorem saturate_of_lt {r : ℚ} (hlow : -limit < r) (hhigh : r < limit) : saturate r = (r : ℚ) := by
  rw [saturate, if_neg hhigh.not_ge, if_neg hlow.not_ge]

theorem saturate_mono : Monotone saturate := by
  intro r s hle
  rcases le_or_gt limit s with hs | hs
  · rw [show saturate s = ⊤ from if_pos hs]
    exact le_top
  · rcases le_or_gt r (-limit) with hr | hr
    · have hnot : ¬ limit ≤ r := by linarith [limit_pos]
      rw [show saturate r = ⊥ by rw [saturate, if_neg hnot, if_pos hr]]
      exact bot_le
    · rw [saturate_of_lt hr (hle.trans_lt hs), saturate_of_lt (hr.trans_le hle) hs]
      exact WithBotTop.coe_le_coe.mpr hle

theorem unpack_pack_subnormal {m : ℕ} (hpos : 0 < m) (hless : m < 2 ^ 52) (sign : Sign) :
    UnpackedFloat.unpack .binary64 (UnpackedFloat.pack .binary64 (.finite sign m (-1074) hpos)) =
      .finite sign m (-1074) hpos := by
  have hlog : m.log2 < 52 := (Nat.log2_lt hpos.ne').mpr hless
  have hbiased : (-1074 + (Format.binary64.exponentBias : ℤ) + (Format.binary64.mantissaBitsWithoutImplicit : ℕ)).toNat =
      1 := rfl
  have hmantissa : (BitVec.ofNat 52 m).toNat = m := by
    rw [BitVec.toNat_ofNat]
    exact Nat.mod_eq_of_lt hless
  have hne : BitVec.ofNat 52 m ≠ 0#52 := by
    intro heq
    have hzero := congrArg BitVec.toNat heq
    rw [hmantissa] at hzero
    exact hpos.ne' hzero
  have hshort : ¬ m.log2 + 1 = Format.binary64.mantissaBits := by
    change ¬ m.log2 + 1 = 53
    omega
  rw [UnpackedFloat.pack]
  simp only [hbiased]
  rw [if_neg (by decide), if_neg hshort, UnpackedFloat.unpack]
  simp only [unpackMantissa_packComponents, unpackExponent_packComponents, sign_of_packed]
  rw [if_neg (by decide), if_pos trivial, dif_neg hne]
  simp only [UnpackedFloat.finite.injEq, true_and]
  exact ⟨hmantissa, rfl⟩

theorem unpack_pack_infinity {m : ℕ} {e : ℤ} (hlarge : 971 < e) (sign : Sign) (hpos : 0 < m) :
    UnpackedFloat.unpack .binary64 (UnpackedFloat.pack .binary64 (.finite sign m e hpos)) = .infinity sign := by
  have hbiased : (e + Format.binary64.exponentBias + Format.binary64.mantissaBitsWithoutImplicit).toNat
      = (e + 1075).toNat := by
    change (e + (1023 : Nat) + (52 : Nat)).toNat = _
    congr 1
    omega
  rw [UnpackedFloat.pack]
  simp only [hbiased]
  rw [if_pos (by omega)]
  cases sign <;> rfl

/-- Packing loses nothing of a number that has been rounded and is not too large. -/
theorem unpack_pack_finite {sign : Sign} {m : ℕ} {e : ℤ} {hpos : 0 < m}
    (hrepresented : IsRepresented (.finite sign m e hpos)) :
    UnpackedFloat.unpack .binary64 (UnpackedFloat.pack .binary64 (.finite sign m e hpos)) = .finite sign m e hpos := by
  obtain ⟨⟨hless, hleast, hfull⟩, hsmall⟩ := hrepresented
  rcases Nat.lt_or_ge m (2 ^ 52) with hshort | hlong
  · obtain rfl : e = -1074 := by
      by_contra hne
      have hlong := hfull (by omega)
      omega
    exact unpack_pack_subnormal hpos hshort sign
  · have hlog : m.log2 = 52 := (Nat.log2_eq_iff hpos.ne').mpr ⟨hlong, hless⟩
    exact unpack_pack_normal ⟨hlog, hleast, hsmall⟩ sign hpos

/-- A number that has been rounded is packed at the place of its value. -/
theorem place?_ofParts {m : ℕ} {e : ℤ} (hcanonical : IsCanonical m e) (sign : Sign) :
    place? (UnpackedFloat.unpack .binary64 (UnpackedFloat.pack .binary64 (ofParts sign m e))) =
      some (saturate (signed sign (m * 2 ^ e))) := by
  obtain ⟨hless, hleast, hfull⟩ := hcanonical
  rcases Nat.eq_zero_or_pos m with rfl | hpos
  · rw [ofParts, dif_pos rfl, unpack_pack_zero, saturate_of_lt] <;>
      cases sign <;> simp [signed, limit_pos, place?]
  · rw [ofParts, dif_neg hpos.ne']
    rcases le_or_gt e 971 with hsmall | hlarge
    · have hpacked : UnpackedFloat.unpack .binary64 (UnpackedFloat.pack .binary64 (.finite sign m e hpos)) =
          .finite sign m e hpos := unpack_pack_finite ⟨⟨hless, hleast, hfull⟩, hsmall⟩
      have hvalue : (m : ℚ) * 2 ^ e < limit := by
        calc (m : ℚ) * 2 ^ e < 2 ^ (53 + e) := mul_zpow_lt_of_lt hless e
          _ ≤ limit := zpow_le_zpow_right₀ one_le_two (by omega)
      have hnonneg : (0 : ℚ) ≤ m * 2 ^ e := by positivity
      rw [hpacked, saturate_of_lt]
      · rfl
      · cases sign <;> simp only [signed] <;> linarith
      · cases sign <;> simp only [signed] <;> linarith
    · have hvalue : limit ≤ (m : ℚ) * 2 ^ e := by
        calc limit ≤ 2 ^ (52 + e) := zpow_le_zpow_right₀ one_le_two (by omega)
          _ ≤ m * 2 ^ e := le_mul_zpow_of_le (hfull (by omega)) e
      rw [unpack_pack_infinity hlarge]
      cases sign with
      | negative =>
        have hnot : ¬ limit ≤ -((m : ℚ) * 2 ^ e) := by linarith [limit_pos]
        have hbottom : -((m : ℚ) * 2 ^ e) ≤ -limit := by linarith
        simp [signed, saturate, place?, hnot, hbottom]
      | positive => simp [signed, saturate, place?, hvalue]

end Pseudoclock.Binary64
