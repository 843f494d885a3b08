import Mathlib
import Pseudoclock.Json.Reading
import Pseudoclock.Proofs.Binary64.Whole

/-!
Number literals: a sign, digits, a fraction and an exponent are read back part by part. The digits of a whole
number are read as what they are worth, exactly and, if they fit in a word, as a binary64 number.
-/

namespace Pseudoclock.Json

/-- What may come behind a value, so that a literal ends there. -/
def Closes (rest : List Char) : Prop :=
  ∀ c ∈ rest.head?, c = ',' ∨ c = ']' ∨ c = '}' ∨ c = '\n'

/-- A text is the literal of a number: it begins like one, and it is read as a whole wherever a value may
stand. -/
structure IsLiteral (text : List Char) (numeral : Numeral) : Prop where
  head : ∃ c digits, text = c :: digits ∧ (c.isDigit = true ∨ c = '-')
  numeral?_append : ∀ rest, Closes rest → numeral? (text ++ rest) = some (numeral, rest)

/-- The literal of a whole number. -/
def Numeral.ofNat (n : Nat) : Numeral :=
  ⟨false, Nat.toDigits 10 n, [], none⟩

theorem Closes.not_isDigit {rest : List Char} (hcloses : Closes rest) : ∀ c ∈ rest.head?, c.isDigit = false := by
  intro c hc
  rcases hcloses c hc with rfl | rfl | rfl | rfl <;> rfl

private theorem spanDigits_append {digits rest : List Char} (hdigits : ∀ c ∈ digits, c.isDigit = true)
    (hrest : ∀ c ∈ rest.head?, c.isDigit = false) : spanDigits (digits ++ rest) = (digits, rest) := by
  rw [spanDigits, List.takeWhile_append_of_pos hdigits, List.dropWhile_append_of_pos hdigits]
  cases rest with
  | nil => simp
  | cons c rest => simp [hrest c rfl]

/-- Only zero is written with a zero in front. -/
theorem eq_zero_of_toDigits {n : Nat} {digits : List Char} (heq : Nat.toDigits 10 n = '0' :: digits) :
    n = 0 := by
  induction n using Nat.strong_induction_on generalizing digits with
  | _ n ih =>
    by_cases hsmall : n < 10
    · have hvalue : Nat.ofDigitChars 10 (Nat.toDigits 10 n) 0 = n := Nat.ofDigitChars_ten_toDigits
      rw [Nat.toDigits_of_lt_base hsmall] at heq hvalue
      obtain ⟨hzero, _⟩ := List.cons.inj heq
      rw [hzero] at hvalue
      exact hvalue.symm
    · rw [Nat.toDigits_of_base_le (by omega) (by omega)] at heq
      obtain ⟨c, front, hfront⟩ := List.exists_cons_of_ne_nil (Nat.toDigits_ne_nil (n := n / 10) (b := 10))
      rw [hfront, List.cons_append] at heq
      obtain ⟨rfl, _⟩ := List.cons.inj heq
      have hzero := ih (n / 10) (by omega) hfront
      omega

/-- Digits that may stand in front of a point: a zero alone, or digits that do not begin with one. -/
structure IsWhole (digits : List Char) : Prop where
  isDigit : ∀ c ∈ digits, c.isDigit = true
  ne_nil : digits ≠ []
  head : ∀ rest, digits = '0' :: rest → rest = []

theorem isWhole_toDigits (n : Nat) : IsWhole (Nat.toDigits 10 n) where
  isDigit _ hc := Nat.isDigit_of_mem_toDigits (by omega) (by omega) hc
  ne_nil := Nat.toDigits_ne_nil
  head rest heq := by
    rw [eq_zero_of_toDigits heq, Nat.toDigits_zero] at heq
    exact (List.cons.inj heq).2.symm

/-- The digits of a fraction behind their point, or nothing. -/
def fractionText (digits : List Char) : List Char :=
  if digits.isEmpty then [] else '.' :: digits

/-- The digits of an exponent behind their sign, or nothing. -/
def exponentText : Option (Bool × List Char) → List Char
  | none => []
  | some (isNegative, digits) => 'e' :: (if isNegative then '-' else '+') :: digits

/-- What an exponent of a sign and digits is worth. -/
def exponentValue (exponent : Bool × List Char) : Int :=
  if exponent.1 then -(digitsValue exponent.2 : Int) else digitsValue exponent.2

section Parts

variable {whole fraction rest : List Char} {exponent : Option (Bool × List Char)}

private theorem wholeDigits?_append (hwhole : IsWhole whole) (hrest : ∀ c ∈ rest.head?, c.isDigit = false) :
    wholeDigits? (whole ++ rest) = some (whole, rest) := by
  rw [wholeDigits?, spanDigits_append hwhole.isDigit hrest]
  split
  · next heq => exact absurd (Prod.mk.inj heq).1 hwhole.ne_nil
  · next heq => cases hwhole.head _ (Prod.mk.inj heq).1
  · rfl

private theorem fractionDigits?_append (hfraction : ∀ c ∈ fraction, c.isDigit = true)
    (hrest : ∀ c ∈ rest.head?, c.isDigit = false ∧ c ≠ '.') :
    fractionDigits? (fractionText fraction ++ rest) = some (fraction, rest) := by
  cases fraction with
  | nil =>
    change fractionDigits? rest = _
    rw [fractionDigits?]
    rintro digits rfl
    exact (hrest '.' rfl).2 rfl
  | cons c digits =>
    change fractionDigits? ('.' :: (c :: digits ++ rest)) = _
    rw [fractionDigits?, spanDigits_append hfraction fun other hother => (hrest other hother).1]

private theorem exponentDigits?_append {isNegative : Bool} {digits : List Char}
    (hdigits : ∀ c ∈ digits, c.isDigit = true) (hne : digits ≠ [])
    (hrest : ∀ c ∈ rest.head?, c.isDigit = false) :
    exponentDigits? ((if isNegative then '-' else '+') :: (digits ++ rest)) =
      some (some (exponentValue (isNegative, digits)), rest) := by
  have hsign : exponentSign ((if isNegative then '-' else '+') :: (digits ++ rest)) =
      (isNegative, digits ++ rest) := by
    cases isNegative <;> rfl
  obtain ⟨digit, others, rfl⟩ := List.exists_cons_of_ne_nil hne
  simp only [exponentDigits?, hsign, spanDigits_append hdigits hrest]
  rfl

private theorem exponentPart?_append
    (hexponent : ∀ part ∈ exponent, (∀ c ∈ part.2, c.isDigit = true) ∧ part.2 ≠ []) (hcloses : Closes rest) :
    exponentPart? (exponentText exponent ++ rest) = some (exponent.map exponentValue, rest) := by
  cases exponent with
  | none =>
    change exponentPart? rest = _
    rw [exponentPart?]
    · rfl
    · rintro _ rfl
      rcases hcloses 'e' rfl with h | h | h | h <;> cases h
    · rintro _ rfl
      rcases hcloses 'E' rfl with h | h | h | h <;> cases h
  | some part =>
    obtain ⟨hdigits, hne⟩ := hexponent part rfl
    exact exponentDigits?_append hdigits hne hcloses.not_isDigit

/-- No digit and no point comes behind the digits of a number, unless as a part of its own. -/
private theorem head?_exponentText (hcloses : Closes rest) :
    ∀ c ∈ (exponentText exponent ++ rest).head?, c.isDigit = false ∧ c ≠ '.' := by
  cases exponent with
  | none =>
    intro c hc
    rcases hcloses c hc with rfl | rfl | rfl | rfl <;> exact ⟨rfl, by decide⟩
  | some part =>
    rintro _ ⟨⟩
    exact ⟨rfl, by decide⟩

private theorem head?_fractionText (hcloses : Closes rest) :
    ∀ c ∈ (fractionText fraction ++ (exponentText exponent ++ rest)).head?, c.isDigit = false := by
  cases fraction with
  | nil => exact fun c hc => (head?_exponentText hcloses c hc).1
  | cons digit digits =>
    rintro _ ⟨⟩
    rfl

/-- A sign, digits, a fraction and an exponent make a literal; each of them but the digits may be missing. -/
theorem isLiteral_append (isNegative : Bool) (hwhole : IsWhole whole)
    (hfraction : ∀ c ∈ fraction, c.isDigit = true)
    (hexponent : ∀ part ∈ exponent, (∀ c ∈ part.2, c.isDigit = true) ∧ part.2 ≠ []) :
    IsLiteral ((if isNegative then ['-'] else []) ++ (whole ++ (fractionText fraction ++ exponentText exponent)))
      ⟨isNegative, whole, fraction, exponent.map exponentValue⟩ := by
  obtain ⟨c, digits, hcons⟩ := List.exists_cons_of_ne_nil hwhole.ne_nil
  have hc : c.isDigit = true := hwhole.isDigit c (hcons ▸ List.mem_cons_self)
  have hminus : ∀ rest, minusSign ((if isNegative then ['-'] else []) ++ (whole ++ rest)) =
      (isNegative, whole ++ rest) := by
    intro rest
    cases isNegative with
    | true => rfl
    | false =>
      subst hcons
      change minusSign (c :: (digits ++ rest)) = _
      rw [minusSign]
      · rfl
      · rintro _ heq
        obtain ⟨rfl, _⟩ := List.cons.inj heq
        cases hc
  constructor
  · cases isNegative with
    | true => exact ⟨'-', _, rfl, .inr rfl⟩
    | false => exact ⟨c, _, by rw [hcons]; rfl, .inl hc⟩
  · intro rest hcloses
    simp only [List.append_assoc, numeral?, hminus]
    simp [wholeDigits?_append hwhole (head?_fractionText hcloses),
      fractionDigits?_append hfraction (head?_exponentText hcloses), exponentPart?_append hexponent hcloses]

end Parts

/-- Whole numbers are written as literals. -/
theorem isLiteral_toDigits (n : Nat) : IsLiteral (Nat.toDigits 10 n) (Numeral.ofNat n) := by
  have hliteral := @isLiteral_append _ [] none false (isWhole_toDigits n) (by simp) (by simp)
  simpa [fractionText, exponentText, Numeral.ofNat] using hliteral

theorem digitsValue_toDigits (n : Nat) : digitsValue (Nat.toDigits 10 n) = n :=
  Nat.ofDigitChars_ten_toDigits

@[simp] theorem Numeral.toNat?_ofNat (n : Nat) : (Numeral.ofNat n).toNat? = some n := by
  simp [toNat?, Numeral.ofNat, digitsValue_toDigits]

/-- Digits are appended as long as what they are worth fits. -/
private theorem appendWhole_eq {digits : List Char} {significand : Nat}
    (hfits : Nat.ofDigitChars 10 digits significand ≤ greatestSignificand) :
    appendWhole significand digits = (Nat.ofDigitChars 10 digits significand, 0) := by
  induction digits generalizing significand with
  | nil => simp [appendWhole]
  | cons c digits ih =>
    rw [Nat.ofDigitChars_cons] at hfits ⊢
    have hlonger : 10 * significand + digitValue c ≤ greatestSignificand := by
      refine le_trans ?_ hfits
      rw [Nat.ofDigitChars_eq_ofDigitChars_zero]
      have hpow : 0 < 10 ^ digits.length := by positivity
      calc 10 * significand + digitValue c
          ≤ 10 ^ digits.length * (10 * significand + digitValue c) := Nat.le_mul_of_pos_left _ hpow
        _ ≤ _ := Nat.le_add_right _ _
    rw [appendWhole]
    simp only [hlonger, if_true]
    exact ih hfits

/-- A number of 64 bits is in the range of binary64. -/
theorem isSome_toFloat?_ofNat {n : Nat} (hn : n < 2 ^ 64) : (Numeral.ofNat n).toFloat?.isSome = true := by
  have hvalue : Nat.ofDigitChars 10 (Nat.toDigits 10 n) 0 = n := Nat.ofDigitChars_ten_toDigits
  have hwhole : appendWhole 0 (Nat.toDigits 10 n) = (n, 0) := by
    rw [appendWhole_eq (by rw [hvalue, greatestSignificand, UInt64.size]; omega), hvalue]
  have hone : (powerOfTen 0).toModel.unpack = Binary64.one := rfl
  have hfinite : ((UInt64.ofNat n).toFloat * powerOfTen 0).isFinite = true := by
    rw [Binary64.toFloat_mul_one hone]
    exact Binary64.isFinite_toFloat _
  simp only [Numeral.toFloat?, Numeral.ofNat, hwhole, appendFraction, scale?]
  by_cases hzero : n = 0
  · simp [hzero]
  · simp [hzero, hfinite]

end Pseudoclock.Json
