import Mathlib

/-!
The order of binary64 numbers. Comparison is that of a key in a linear order, which numbers have and
which what is not a number lacks.
-/

open Float.Model Float.Model.UnpackedFloat

namespace Pseudoclock.Binary64

/-- A place in the order: the kind of number, then its exponent, then its significand. -/
abbrev Key := Int ×ₗ Int ×ₗ Int

/-- Where a number stands among all numbers. Both zeros are in one place. -/
def key? : UnpackedFloat → Option Key
  | .notANumber => none
  | .infinity .negative => some (toLex (-2, toLex (0, 0)))
  | .finite .negative m e _ => some (toLex (-1, toLex (-e, -(m : Int))))
  | .zero _ => some (toLex (0, toLex (0, 0)))
  | .finite .positive m e _ => some (toLex (1, toLex (e, (m : Int))))
  | .infinity .positive => some (toLex (2, toLex (0, 0)))

private theorem compare_natCast (m n : Nat) : compare (m : Int) (n : Int) = compare m n := by
  simp only [compare, compareOfLessAndEq, Int.ofNat_lt, Int.ofNat_inj]

private theorem compare_neg (a b : Int) : compare (-a) (-b) = (compare a b).swap := by
  rw [← Std.OrientedCmp.eq_swap]
  simp only [compare, compareOfLessAndEq, neg_lt_neg_iff, neg_inj, eq_comm]

private theorem compare_toLex (a b c a' b' c' : Int) :
    compare (toLex (a, toLex (b, c)) : Key) (toLex (a', toLex (b', c'))) =
      (compare a a').then ((compare b b').then (compare c c')) := rfl

theorem compare_eq (x y : UnpackedFloat) :
    x.compare y = (key? x).bind fun a => (key? y).map fun b => compare a b := by
  cases x with
  | notANumber => cases y <;> rfl
  | infinity s => rcases s <;> rcases y with (_ | _) | _ | (_ | _) | ⟨_ | _, _, _, _⟩ <;> rfl
  | zero s => rcases y with (_ | _) | _ | (_ | _) | ⟨_ | _, _, _, _⟩ <;> rfl
  | finite s m e hm =>
    cases s with
    | negative =>
      rcases y with (_ | _) | _ | (_ | _) | ⟨_ | _, m', e', hm'⟩
      case finite.negative =>
        simp only [UnpackedFloat.compare, key?, Option.bind_some, Option.map_some, compare_toLex,
          compare_neg, compare_natCast, Ordering.swap_then]
        rfl
      all_goals rfl
    | positive =>
      rcases y with (_ | _) | _ | (_ | _) | ⟨_ | _, m', e', hm'⟩
      case finite.positive =>
        simp only [UnpackedFloat.compare, key?, Option.bind_some, Option.map_some, compare_toLex,
          compare_natCast]
        rfl
      all_goals rfl

def keyOf? (x : Float) : Option Key := key? x.toModel.unpack

theorem le_iff {x y : Float} : x ≤ y ↔ ∃ a b, keyOf? x = some a ∧ keyOf? y = some b ∧ a ≤ b := by
  change decide (x.toModel.unpack.le y.toModel.unpack = true) = true ↔ _
  rw [decide_eq_true_iff, UnpackedFloat.le, compare_eq]
  cases hx : key? x.toModel.unpack <;> cases hy : key? y.toModel.unpack <;>
    simp [keyOf?, hx, hy, Ordering.isLE_iff_ne_gt, compare_gt_iff_gt]

theorem lt_iff {x y : Float} : x < y ↔ ∃ a b, keyOf? x = some a ∧ keyOf? y = some b ∧ a < b := by
  change decide (x.toModel.unpack.lt y.toModel.unpack = true) = true ↔ _
  rw [decide_eq_true_iff, UnpackedFloat.lt, compare_eq]
  cases hx : key? x.toModel.unpack <;> cases hy : key? y.toModel.unpack <;>
    simp [keyOf?, hx, hy, compare_lt_iff_lt]

theorem keyOf?_isSome {x : Float} (hx : x.isFinite = true) : ∃ a, keyOf? x = some a := by
  change x.toModel.unpack.isFinite = true at hx
  rw [keyOf?]
  cases hunpack : x.toModel.unpack with
  | notANumber => simp [hunpack, UnpackedFloat.isFinite] at hx
  | infinity s => simp [hunpack, UnpackedFloat.isFinite] at hx
  | zero s => exact ⟨_, rfl⟩
  | finite s m e hm => cases s <;> exact ⟨_, rfl⟩

theorem le_of_lt {x y : Float} (hxy : x < y) : x ≤ y := by
  obtain ⟨a, b, ha, hb, hab⟩ := lt_iff.mp hxy
  exact le_iff.mpr ⟨a, b, ha, hb, hab.le⟩

/-- What can be compared with anything is equal to itself, and so not what is not a number. -/
theorem le_self_of_le {x y : Float} (hxy : x ≤ y) : y ≤ y := by
  obtain ⟨_, b, _, hb, _⟩ := le_iff.mp hxy
  exact le_iff.mpr ⟨b, b, hb, hb, le_refl b⟩

/-- Everything but what is not a number is equal to itself. -/
theorem le_self_iff {x : Float} : x ≤ x ↔ x.isNaN = false := by
  change _ ↔ x.toModel.unpack.isNaN = false
  rw [le_iff, keyOf?]
  rcases x.toModel.unpack with (_ | _) | _ | _ | ⟨_ | _, _, _, _⟩ <;> simp [key?, UnpackedFloat.isNaN]

theorem le_self_of_isFinite {x : Float} (hx : x.isFinite = true) : x ≤ x := by
  obtain ⟨a, ha⟩ := keyOf?_isSome hx
  exact le_iff.mpr ⟨a, a, ha, ha, le_refl a⟩

/-- Of two numbers, one is not before the other exactly if it is at least as large. Infinities are such
numbers too. -/
theorem not_lt_iff_of_le_self {x y : Float} (hx : x ≤ x) (hy : y ≤ y) : ¬ y < x ↔ x ≤ y := by
  obtain ⟨a, _, ha, _, _⟩ := le_iff.mp hx
  obtain ⟨b, _, hb, _, _⟩ := le_iff.mp hy
  simp [le_iff, lt_iff, ha, hb]

/-- Of two finite numbers, one is not before the other exactly if it is at least as large. -/
theorem not_lt_iff {x y : Float} (hx : x.isFinite = true) (hy : y.isFinite = true) :
    ¬ y < x ↔ x ≤ y :=
  not_lt_iff_of_le_self (le_self_of_isFinite hx) (le_self_of_isFinite hy)

theorem le_trans {x y z : Float} (hxy : x ≤ y) (hyz : y ≤ z) : x ≤ z := by
  obtain ⟨a, b, ha, hb, hab⟩ := le_iff.mp hxy
  obtain ⟨b', c, hb', hc, hbc⟩ := le_iff.mp hyz
  obtain rfl : b = b' := by simpa [hb] using hb'
  exact le_iff.mpr ⟨a, c, ha, hc, hab.trans hbc⟩

/-- Numbers descend nowhere exactly if no two neighbours do. -/
theorem isChain_not_lt_iff {α : Type} (number : α → Float) {items : List α}
    (hnumbers : ∀ item ∈ items, number item ≤ number item) :
    items.IsChain (fun earlier later => ¬ number later < number earlier) ↔
      items.Pairwise fun earlier later => number earlier ≤ number later := by
  have htrans : IsTrans α fun earlier later => number earlier ≤ number later := ⟨fun _ _ _ => le_trans⟩
  rw [← List.isChain_iff_pairwise]
  induction items with
  | nil => simp
  | cons earlier rest ih =>
    cases rest with
    | nil => simp
    | cons later rest =>
      have hneighbours := not_lt_iff_of_le_self (hnumbers earlier (by simp)) (hnumbers later (by simp))
      rw [List.isChain_cons_cons, List.isChain_cons_cons, hneighbours]
      exact and_congr_right fun _ => ih fun item hitem => hnumbers item (List.mem_cons_of_mem _ hitem)

end Pseudoclock.Binary64
