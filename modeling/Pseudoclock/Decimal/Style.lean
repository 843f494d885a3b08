import Pseudoclock.Decimal.Shortest

/-!
Written forms of a binary64 number. A style fixes when a number is written positionally, how a
whole number ends and which of two equally near decimals is taken.
-/

namespace Pseudoclock.Decimal

/-- Decimal digits without trailing zeros, the first of them worth `10 ^ exponent`. -/
structure Digits where
  digits : List Char
  exponent : Int
deriving DecidableEq, Repr

/-- The digits of a scaled number; zero has the single digit `0`. -/
def Scaled.digits (x : Scaled) : Digits :=
  let all := Nat.toDigits 10 x.coefficient
  let significant := (all.reverse.dropWhile (· == '0')).reverse
  ⟨if significant.isEmpty then ['0'] else significant, x.scale + all.length - 1⟩

structure Style where
  /-- The decimal exponents of numbers that are written without an exponent. -/
  isPositional : Int → Bool
  /-- What follows a whole number that is written without an exponent. -/
  wholeEnd : List Char
  tie : Tie

/-- Digits around a decimal point, with the zeros that their exponent needs. -/
def Digits.positional (d : Digits) (wholeEnd : List Char) : List Char :=
  if d.exponent < 0 then
    '0' :: '.' :: List.replicate (-d.exponent - 1).toNat '0' ++ d.digits
  else
    let whole := (d.exponent + 1).toNat
    if d.digits.length ≤ whole then
      d.digits ++ List.replicate (whole - d.digits.length) '0' ++ wholeEnd
    else
      d.digits.take whole ++ '.' :: d.digits.drop whole

/-- One digit before the point, then the exponent with its sign. -/
def Digits.scientific (d : Digits) : List Char :=
  let fraction := d.digits.drop 1
  d.digits.take 1 ++ (if fraction.isEmpty then [] else '.' :: fraction)
    ++ 'e' :: (if d.exponent < 0 then '-' else '+') :: Nat.toDigits 10 d.exponent.natAbs

def Style.layOut (style : Style) (d : Digits) : List Char :=
  if style.isPositional d.exponent then d.positional style.wholeEnd else d.scientific

/-- The text of a finite number; `none` for infinities and for what is not a number. -/
def Style.finite? (style : Style) (x : Float) : Option (List Char) :=
  match x.toModel.unpack with
  | .notANumber => none
  | .infinity _ => none
  | .zero sign => some (signed sign (style.layOut ⟨['0'], 0⟩))
  | .finite sign mantissa exponent _ =>
    some (signed sign (style.layOut (shortest style.tie mantissa exponent).digits))
where
  signed (sign : Float.Model.UnpackedFloat.Sign) (text : List Char) : List Char :=
    if sign == .negative then '-' :: text else text

/-- Numbers in messages have no exponent, and a whole number has no point. -/
def message : Style where
  isPositional _ := true
  wholeEnd := []
  tie := .up

/-- Numbers in documents have an exponent below `1e-5` and from `1e16` on, and a whole number
without one ends in `.0`. -/
def document : Style where
  isPositional exponent := decide (-5 ≤ exponent) && decide (exponent ≤ 15)
  wholeEnd := ['.', '0']
  tie := .even

def text (x : Float) : String :=
  match message.finite? x with
  | some digits => String.ofList digits
  | none => if x.isNaN then "NaN" else if x < 0 then "-inf" else "inf"

end Pseudoclock.Decimal
