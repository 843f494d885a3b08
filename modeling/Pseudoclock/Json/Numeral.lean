/-!
Number literals and what they are worth. A literal is kept as its digits until its value is asked
for: as a whole number exactly, or as a binary64 number by one multiplication or division, which is
not always the nearest one.
-/

namespace Pseudoclock.Json

structure Numeral where
  isNegative : Bool
  /-- The digits in front of the point. -/
  whole : List Char
  /-- The digits behind the point; there are none without a point. -/
  fraction : List Char
  exponent : Option Int
deriving DecidableEq, Repr

def digitValue (c : Char) : Nat :=
  c.toNat - '0'.toNat

def digitsValue (digits : List Char) : Nat :=
  digits.foldl (fun n c => 10 * n + digitValue c) 0

def greatestSignificand : Nat := UInt64.size - 1

/-- Appends the digits in front of the point to a significand while they fit. Returns also how many
were left over. -/
def appendWhole (significand : Nat) : List Char → Nat × Nat
  | [] => (significand, 0)
  | c :: rest =>
    let longer := 10 * significand + digitValue c
    if longer ≤ greatestSignificand then appendWhole longer rest
    else (significand, rest.length + 1)

/-- Appends the digits behind the point to a significand while they fit. Returns also how many were
taken; all that follow the first one that does not fit are ignored. -/
def appendFraction (significand : Nat) : List Char → Nat × Nat
  | [] => (significand, 0)
  | c :: rest =>
    let longer := 10 * significand + digitValue c
    if longer ≤ greatestSignificand then
      let (all, taken) := appendFraction longer rest
      (all, taken + 1)
    else (significand, 0)

def powerOfTen (exponent : Nat) : Float :=
  Float.ofScientific 1 false exponent

/-- `significand · 10 ^ exponent`, or `none` if that is too large. The power of ten is a binary64
number, hence at most `1e308`: a larger exponent is too large, and a smaller one is reached in
steps, of which the second leaves zero. -/
def scale? (significand : Nat) (exponent : Int) : Option Float :=
  let s := (UInt64.ofNat significand).toFloat
  if 0 ≤ exponent then
    if significand = 0 then some 0
    else if exponent ≤ 308 then
      let product := s * powerOfTen exponent.toNat
      if product.isFinite then some product else none
    else none
  else if -308 ≤ exponent then some (s / powerOfTen (-exponent).toNat)
  else if -616 ≤ exponent then some (s / powerOfTen 308 / powerOfTen (-308 - exponent).toNat)
  else some 0

namespace Numeral

/-- The value of a literal without a point and an exponent, if it is not negative. -/
def toNat? (numeral : Numeral) : Option Nat :=
  if numeral.isNegative || !numeral.fraction.isEmpty || numeral.exponent.isSome then none
  else some (digitsValue numeral.whole)

/-- The binary64 number that a literal is read as; `none` if it is too large. -/
def toFloat? (numeral : Numeral) : Option Float :=
  let (whole, leftOver) := appendWhole 0 numeral.whole
  let (significand, taken) := appendFraction whole numeral.fraction
  let exponent := (leftOver : Int) - taken + numeral.exponent.getD 0
  (scale? significand exponent).map fun x => if numeral.isNegative then -x else x

end Numeral

end Pseudoclock.Json
