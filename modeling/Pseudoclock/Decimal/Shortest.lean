/-!
Shortest decimal digits of a binary64 number. A positive number `m · 2 ^ e` is named by every
decimal that rounds to it; among those with the fewest digits the one nearest to it is chosen.
-/

namespace Pseudoclock.Decimal

/-- Which of two equally near decimals is chosen. -/
inductive Tie where
  /-- The larger one. -/
  | up
  /-- The one with the even last digit. -/
  | even
deriving DecidableEq, Repr

/-- The number `coefficient · 10 ^ scale`. -/
structure Scaled where
  coefficient : Nat
  scale : Int
deriving DecidableEq, Repr

/-- How many decimal digits a number has; zero has one. -/
def digitCount (n : Nat) : Nat :=
  (Nat.toDigits 10 n).length

/-- The decimal exponent of the first digit of `m · 2 ^ e`, for positive `m`. -/
def leadingExponent (m : Nat) (e : Int) : Int :=
  let numerator := m <<< e.toNat
  let denominator := 1 <<< (-e).toNat
  if denominator ≤ numerator then
    digitCount (numerator / denominator) - 1
  else
    -(digitCount ((denominator - 1) / numerator) : Int)

/-- Whether the gap below `m · 2 ^ e` is half as wide as the gap above it: the number is a power
of two and not the least one with a full mantissa. -/
def isNarrowBelow (m : Nat) (e : Int) : Bool :=
  m == 1 <<< 52 && decide (-1074 < e)

/-- The multiple of `10 ^ scale` nearest to `m · 2 ^ e` among those that round to it. All
quantities are whole multiples of a common unit, of which a quarter of a last place of the binary
number has `quarter`; the ends of the interval round to the number exactly when `m` is even. -/
def nearestOnGrid? (tie : Tie) (m : Nat) (e scale : Int) : Option Nat :=
  let step := Nat.pow 10 scale.toNat <<< (2 - e).toNat
  let quarter := Nat.pow 10 (-scale).toNat <<< (e - 2).toNat
  let value := 4 * m * quarter
  let lowest := (4 * m - if isNarrowBelow m e then 1 else 2) * quarter
  let highest := (4 * m + 2) * quarter
  let below := value / step
  let above := below + 1
  let reads (n : Nat) : Bool :=
    if m % 2 = 0 then decide (lowest ≤ n * step) && decide (n * step ≤ highest)
    else decide (lowest < n * step) && decide (n * step < highest)
  match reads below, reads above with
  | false, false => none
  | true, false => some below
  | false, true => some above
  | true, true =>
    match compare (value - below * step) (above * step - value) with
    | .lt => some below
    | .gt => some above
    | .eq =>
      match tie with
      | .up => some above
      | .even => some (if below % 2 = 0 then below else above)

def exact (m : Nat) (e : Int) : Scaled :=
  ⟨(m <<< e.toNat) * Nat.pow 5 (-e).toNat, min e 0⟩

/-- The shortest decimal that rounds to `m · 2 ^ e`, the nearest one if there are several. -/
def shortest (tie : Tie) (m : Nat) (e : Int) : Scaled :=
  let first := leadingExponent m e
  let found := (List.range 17).findSome? fun (n : Nat) =>
    (nearestOnGrid? tie m e (first - n)).map fun coefficient => Scaled.mk coefficient (first - n)
  found.getD (exact m e)

end Pseudoclock.Decimal
