import Mathlib
import Pseudoclock.Json.Value
import Pseudoclock.Proofs.Json.Literal

/-!
The written form of a finite number in documents is a number literal, whichever digits it has. All other numbers
are written as if they were missing.
-/

open Float.Model Float.Model.UnpackedFloat

namespace Pseudoclock.Decimal

section Shortest

variable {tie : Tie} {m : Nat} {e scale : Int}

/-- Zero is not among the decimals that round to a positive number. -/
theorem nearestOnGrid?_ne_zero (hm : 0 < m) : nearestOnGrid? tie m e scale ≠ some 0 := by
  have hlowest : 0 < (4 * m - if isNarrowBelow m e then 1 else 2) * Nat.pow 10 (-scale).toNat <<< (e - 2).toNat := by
    have hpow : 0 < Nat.pow 10 (-scale).toNat := Nat.pow_pos (by decide)
    rw [Nat.shiftLeft_eq]
    refine Nat.mul_pos ?_ (Nat.mul_pos hpow (by positivity))
    split <;> omega
  intro hfound
  simp only [nearestOnGrid?] at hfound
  generalize (4 * m - if isNarrowBelow m e then 1 else 2) * Nat.pow 10 (-scale).toNat <<< (e - 2).toNat = lowest
    at hlowest hfound
  generalize (4 * m + 2) * Nat.pow 10 (-scale).toNat <<< (e - 2).toNat = highest at hfound
  generalize Nat.pow 10 scale.toNat <<< (2 - e).toNat = step at hfound
  generalize 4 * m * (Nat.pow 10 (-scale).toNat <<< (e - 2).toNat) / step = below at hfound
  have hzero : ∀ {n : Nat}, n = 0 → (if m % 2 = 0 then decide (lowest ≤ n * step) && decide (n * step ≤ highest)
      else decide (lowest < n * step) && decide (n * step < highest)) = false := by
    rintro _ rfl
    split
    · simp
      omega
    · simp
  split at hfound
  · cases hfound
  · next hbelow _ =>
    rw [hzero (Option.some.inj hfound)] at hbelow
    cases hbelow
  · cases hfound
  · next hbelow _ =>
    have hne : below ≠ 0 := fun heq => by simp [hzero heq] at hbelow
    split at hfound
    · exact hne (Option.some.inj hfound)
    · cases hfound
    · cases tie with
      | up => cases hfound
      | even =>
        have heq := Option.some.inj hfound
        split at heq
        · exact hne heq
        · cases heq

theorem shortest_ne_zero (hm : 0 < m) : (shortest tie m e).coefficient ≠ 0 := by
  intro hzero
  simp only [shortest] at hzero
  cases hfound : (List.range 17).findSome? fun n : Nat =>
      (nearestOnGrid? tie m e (leadingExponent m e - n)).map
        fun coefficient => Scaled.mk coefficient (leadingExponent m e - n) with
  | none =>
    rw [hfound, Option.getD_none, exact] at hzero
    simp only [Nat.shiftLeft_eq] at hzero
    have hpow : 0 < Nat.pow 5 (-e).toNat := Nat.pow_pos (by decide)
    have hpos : 0 < m * 2 ^ e.toNat * Nat.pow 5 (-e).toNat := by positivity
    omega
  | some x =>
    rw [hfound, Option.getD_some] at hzero
    obtain ⟨n, _, hx⟩ := List.exists_of_findSome?_eq_some hfound
    obtain ⟨coefficient, hcoefficient, rfl⟩ := Option.map_eq_some_iff.mp hx
    obtain rfl : coefficient = 0 := hzero
    exact nearestOnGrid?_ne_zero hm hcoefficient

end Shortest

/-- Digits that begin with a zero only if they are those of zero. -/
structure Digits.IsProper (d : Digits) : Prop where
  isDigit : ∀ c ∈ d.digits, c.isDigit = true
  head : ∃ c rest, d.digits = c :: rest ∧ (c = '0' → rest = [] ∧ d.exponent = 0)

theorem isProper_zero : Digits.IsProper ⟨['0'], 0⟩ where
  isDigit c hc := by simp_all
  head := ⟨'0', [], rfl, fun _ => ⟨rfl, rfl⟩⟩

/-- Without its trailing zeros a positive number still begins with the digit it began with. -/
theorem Scaled.isProper_digits {x : Scaled} (hne : x.coefficient ≠ 0) : x.digits.IsProper := by
  obtain ⟨c, rest, hall⟩ := List.exists_cons_of_ne_nil (Nat.toDigits_ne_nil (n := x.coefficient) (b := 10))
  have hc : c ≠ '0' := by
    rintro rfl
    exact hne (Json.eq_zero_of_toDigits hall)
  have hfront : (Nat.toDigits 10 x.coefficient).rdropWhile (· == '0') <+: Nat.toDigits 10 x.coefficient :=
    List.rdropWhile_prefix _ _
  have hsignificant : (Nat.toDigits 10 x.coefficient).rdropWhile (· == '0') ≠ [] := by
    rw [Ne, List.rdropWhile_eq_nil_iff]
    intro hzeros
    exact hc (by simpa using hzeros c (hall ▸ List.mem_cons_self))
  have hdigits : x.digits.digits = (Nat.toDigits 10 x.coefficient).rdropWhile (· == '0') := by
    rw [Scaled.digits]
    exact if_neg (by simpa [List.rdropWhile] using hsignificant)
  constructor
  · intro digit hdigit
    rw [hdigits] at hdigit
    exact (Json.isWhole_toDigits x.coefficient).isDigit digit (hfront.subset hdigit)
  · obtain ⟨first, others, hcons⟩ := List.exists_cons_of_ne_nil hsignificant
    refine ⟨first, others, hdigits.trans hcons, fun hfirst => absurd hfirst ?_⟩
    rw [hcons, hall, List.cons_prefix_cons] at hfront
    rwa [hfront.1]

/-- What stands behind the sign of a number. -/
def IsMagnitude (text : List Char) : Prop :=
  ∃ whole fraction exponent, Json.IsWhole whole ∧ (∀ c ∈ fraction, c.isDigit = true) ∧
    (∀ part ∈ exponent, (∀ c ∈ part.2, c.isDigit = true) ∧ part.2 ≠ []) ∧
    text = whole ++ (Json.fractionText fraction ++ Json.exponentText exponent)

namespace Digits

variable {d : Digits}

theorem IsProper.isDigit_of_mem_take (hd : d.IsProper) {n : Nat} : ∀ c ∈ d.digits.take n, c.isDigit = true :=
  fun c hc => hd.isDigit c (List.mem_of_mem_take hc)

theorem IsProper.isDigit_of_mem_drop (hd : d.IsProper) {n : Nat} : ∀ c ∈ d.digits.drop n, c.isDigit = true :=
  fun c hc => hd.isDigit c (List.mem_of_mem_drop hc)

theorem isMagnitude_positional (hd : d.IsProper) : IsMagnitude (d.positional ['.', '0']) := by
  obtain ⟨c, rest, hcons, hzero⟩ := hd.head
  rw [positional]
  split
  · next hsmall =>
    -- zeros behind the point, and then all digits
    refine ⟨['0'], List.replicate (-d.exponent - 1).toNat '0' ++ d.digits, none, ⟨by simp, by simp, by simp⟩, ?_,
      by simp, ?_⟩
    · intro digit hdigit
      rcases List.mem_append.mp hdigit with hdigit | hdigit
      · rw [List.eq_of_mem_replicate hdigit]
        rfl
      · exact hd.isDigit digit hdigit
    · simp [Json.fractionText, Json.exponentText, hcons]
  · next hlarge =>
    simp only
    split
    · next hshort =>
      -- a whole number, with the zeros it needs
      refine ⟨d.digits ++ List.replicate ((d.exponent + 1).toNat - d.digits.length) '0', ['0'], none, ⟨?_, ?_, ?_⟩,
        by simp, by simp, by simp [Json.fractionText, Json.exponentText]⟩
      · intro digit hdigit
        rcases List.mem_append.mp hdigit with hdigit | hdigit
        · exact hd.isDigit digit hdigit
        · rw [List.eq_of_mem_replicate hdigit]
          rfl
      · simp [hcons]
      · intro others hothers
        rw [hcons, List.cons_append] at hothers
        obtain ⟨rfl, rfl⟩ := List.cons.inj hothers
        obtain ⟨rfl, hexponent⟩ := hzero rfl
        simp [hexponent]
    · next hlong =>
      -- the point between two digits
      refine ⟨d.digits.take (d.exponent + 1).toNat, d.digits.drop (d.exponent + 1).toNat, none, ⟨?_, ?_, ?_⟩,
        hd.isDigit_of_mem_drop, by simp, ?_⟩
      · exact hd.isDigit_of_mem_take
      · simp [hcons]
        omega
      · intro others hothers
        obtain ⟨count, hcount⟩ := Nat.exists_eq_add_one_of_ne_zero (by omega : (d.exponent + 1).toNat ≠ 0)
        rw [hcons, hcount, List.take_succ_cons] at hothers
        obtain ⟨rfl, _⟩ := List.cons.inj hothers
        obtain ⟨rfl, hexponent⟩ := hzero rfl
        simp [hcons, hexponent] at hlong
      · have hrest : d.digits.drop (d.exponent + 1).toNat ≠ [] := by simpa using hlong
        simp [Json.fractionText, Json.exponentText, hrest]

theorem isMagnitude_scientific (hd : d.IsProper) : IsMagnitude d.scientific := by
  obtain ⟨c, rest, hcons, hzero⟩ := hd.head
  refine ⟨[c], rest, some (decide (d.exponent < 0), Nat.toDigits 10 d.exponent.natAbs), ⟨?_, by simp, by simp⟩, ?_, ?_, ?_⟩
  · intro digit hdigit
    rw [List.mem_singleton.mp hdigit]
    exact hd.isDigit c (hcons ▸ List.mem_cons_self)
  · intro digit hdigit
    exact hd.isDigit digit (hcons ▸ List.mem_cons_of_mem c hdigit)
  · have hexponent := Json.isWhole_toDigits d.exponent.natAbs
    rintro _ ⟨⟩
    exact ⟨hexponent.isDigit, hexponent.ne_nil⟩
  · simp [scientific, hcons, Json.fractionText, Json.exponentText]

end Digits

theorem isMagnitude_layOut {d : Digits} (hd : d.IsProper) : IsMagnitude (document.layOut d) := by
  rw [Style.layOut]
  split
  · exact Digits.isMagnitude_positional hd
  · exact Digits.isMagnitude_scientific hd

theorem exists_isLiteral_signed (sign : Sign) {text : List Char} (htext : IsMagnitude text) :
    ∃ numeral, Json.IsLiteral (Style.finite?.signed sign text) numeral := by
  obtain ⟨whole, fraction, exponent, hwhole, hfraction, hexponent, rfl⟩ := htext
  have hliteral := Json.isLiteral_append (sign == Sign.negative) hwhole hfraction hexponent
  cases sign <;> exact ⟨_, hliteral⟩

/-- Finite numbers are written as literals in documents. -/
theorem exists_isLiteral_document {x : Float} (hx : x.isFinite = true) :
    ∃ numeral, Json.IsLiteral (Json.floatText x) numeral := by
  change x.toModel.unpack.isFinite = true at hx
  rw [Json.floatText, Style.finite?]
  cases hunpack : x.toModel.unpack with
  | notANumber => simp [hunpack, UnpackedFloat.isFinite] at hx
  | infinity sign => simp [hunpack, UnpackedFloat.isFinite] at hx
  | zero sign => exact exists_isLiteral_signed sign (isMagnitude_layOut isProper_zero)
  | finite sign mantissa exponent hpos =>
    exact exists_isLiteral_signed sign (isMagnitude_layOut (Scaled.isProper_digits (shortest_ne_zero hpos)))

/-- What is not finite is written as `null`. -/
theorem floatText_of_not_isFinite {x : Float} (hx : x.isFinite = false) : Json.floatText x = ['n', 'u', 'l', 'l'] := by
  change x.toModel.unpack.isFinite = false at hx
  rw [Json.floatText, Style.finite?]
  cases hunpack : x.toModel.unpack <;> simp_all [UnpackedFloat.isFinite]

end Pseudoclock.Decimal
