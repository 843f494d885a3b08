/-!
Durations in seconds and whole numbers of clock ticks. A duration becomes the nearest multiple of
a unit, held to the range of the device's signed 64 bit position register.
-/

namespace Pseudoclock.Ticks

def greatest : Int := 0x7fffffffffffffff

def least : Int := -0x8000000000000000

/-- The position nearest to `n`. -/
def clamp (n : Int) : Int :=
  max least (min greatest n)

/-- `mantissa · 2 ^ exponent` rounded to a whole number, with halves rounded up. -/
def roundHalfUp (mantissa : Nat) (exponent : Int) : Nat :=
  if 0 ≤ exponent then
    mantissa <<< exponent.toNat
  else
    (2 * mantissa + (1 <<< (-exponent).toNat)) / (2 <<< (-exponent).toNat)

/-- The position nearest to `x`, with halves rounded away from zero. What is not a number is at
position zero. -/
def nearest (x : Float) : Int :=
  match x.toModel.unpack with
  | .notANumber => 0
  | .infinity sign => if sign == .negative then least else greatest
  | .zero _ => 0
  | .finite sign mantissa exponent _ => clamp (sign.apply (roundHalfUp mantissa exponent))

/-- How long a toggle device stays high for each unit of period. -/
def halfTick (clockResolution : Float) : Float :=
  clockResolution / 2

/-- The nearest whole number of units in a duration. -/
def ofLength (time unit : Float) : Int :=
  nearest (time / unit)

def halvesOfLength (time clockResolution : Float) : Int :=
  ofLength time (halfTick clockResolution)

def toLength (ticks : UInt64) (clockResolution : Float) : Float :=
  ticks.toFloat * clockResolution

end Pseudoclock.Ticks
