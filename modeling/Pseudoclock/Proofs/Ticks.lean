import Mathlib
import Pseudoclock.Ticks
import Pseudoclock.Proofs.Binary64.Whole

/-!
Positions. A segment's origin is at position zero, whatever the unit of time.
-/

open Float.Model Float.Model.UnpackedFloat

namespace Pseudoclock.Ticks

private theorem unpack_sub_self {time : Float} (hfinite : time.isFinite = true) :
    (time - time).toModel.unpack = .zero .positive := by
  change UnpackedFloat.unpack .binary64 (UnpackedFloat.pack .binary64
    (UnpackedFloat.sub .binary64 time.toModel.unpack time.toModel.unpack)) = _
  have hsub : UnpackedFloat.sub .binary64 time.toModel.unpack time.toModel.unpack = .zero .positive := by
    change time.toModel.unpack.isFinite = true at hfinite
    cases hunpack : time.toModel.unpack with
    | notANumber => simp [hunpack, UnpackedFloat.isFinite] at hfinite
    | infinity s => simp [hunpack, UnpackedFloat.isFinite] at hfinite
    | zero s => cases s <;> rfl
    | finite s m e hm =>
      simp only [UnpackedFloat.sub, sub_self]
      rfl
  rw [hsub, Binary64.unpack_pack_zero]

/-- Zero is at position zero in any unit, also in one that is itself zero or no number. -/
private theorem nearest_zero_div {x : Float} (hzero : x.toModel.unpack = .zero .positive) (unit : Float) :
    nearest (x / unit) = 0 := by
  have hdiv : (x / unit).toModel.unpack = UnpackedFloat.unpack .binary64 (UnpackedFloat.pack .binary64
      (UnpackedFloat.div .binary64 (.zero .positive) unit.toModel.unpack)) := by
    rw [← hzero]
    rfl
  rw [nearest, hdiv]
  cases unit.toModel.unpack with
  | notANumber => rfl
  | infinity s => cases s <;> rfl
  | zero s => cases s <;> rfl
  | finite s m e hm =>
    have hquotient : UnpackedFloat.div .binary64 (.zero .positive) (.finite s m e hm) =
        .zero (.positive / s) := rfl
    rw [hquotient, Binary64.unpack_pack_zero]

/-- No time at all is no tick at all. -/
theorem ofLength_sub_self {time : Float} (hfinite : time.isFinite = true) (unit : Float) :
    ofLength (time - time) unit = 0 :=
  nearest_zero_div (unpack_sub_self hfinite) unit

end Pseudoclock.Ticks
