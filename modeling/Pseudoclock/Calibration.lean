import Pseudoclock.Error
import Pseudoclock.Ticks

/-!
Timing constants of a device: the clock resolution that all durations are counted in, the delays
that a replay adds, and what a device can hold.
-/

namespace Pseudoclock

/-- Timing constants that a replay needs, in seconds. -/
structure Calibration where
  /-- One clock tick. -/
  clockResolution : Float
  /-- From a trigger edge to the first instruction after it. -/
  triggerDelay : Float
  /-- How long a wait takes that no trigger ends. -/
  waitDelay : Float
deriving DecidableEq

/-- A clock resolution is positive and finite. -/
def checkResolution (clockResolution : Float) : Except Error Unit :=
  if !clockResolution.isFinite || clockResolution ≤ 0 then
    .error (.unsupportedCalibration (.resolution clockResolution))
  else
    .ok ()

def isUsableDelay (delay : Float) : Bool :=
  delay.isFinite && !(delay < 0)

namespace Calibration

/-- The first constant that cannot be used. -/
def validate (calibration : Calibration) : Except Error Unit := do
  checkResolution calibration.clockResolution
  check .trigger calibration.triggerDelay
  check .wait calibration.waitDelay
where
  check (which : Delay) (delay : Float) : Except Error Unit :=
    if isUsableDelay delay then .ok () else .error (.unsupportedCalibration (.delay which delay))

def ofConstants (clockResolution triggerDelay waitDelay : Float) : Except Error Calibration := do
  let calibration := Calibration.mk clockResolution triggerDelay waitDelay
  calibration.validate
  return calibration

/-- How long a toggle device stays high for each unit of period. -/
def halfTick (calibration : Calibration) : Float :=
  Ticks.halfTick calibration.clockResolution

end Calibration

structure Capabilities where
  /-- One clock tick, in seconds. -/
  clockResolution : Float
  /-- How many instructions fit into memory, the stop sequence among them. -/
  maxInstructions : UInt64
  /-- The shortest high phase, in half ticks. -/
  minPeriod : UInt32 := 1
deriving DecidableEq

namespace Capabilities

def validate (capabilities : Capabilities) : Except Error Unit := do
  checkResolution capabilities.clockResolution
  if capabilities.maxInstructions.toNat < stopLength then
    throw (.invalidDevice (.noRoomForStop capabilities.maxInstructions.toNat))
  if capabilities.minPeriod == 0 then
    throw (.invalidDevice .zeroMinPeriod)

/-- Refuses a program body that does not fit into memory with its stop sequence. -/
def checkCapacity (capabilities : Capabilities) (bodyLength : Nat) : Except Error Unit :=
  let required := bodyLength + stopLength
  if capabilities.maxInstructions.toNat < required then
    .error (.capacityExceeded required capabilities.maxInstructions.toNat)
  else
    .ok ()

theorem checkCapacity_eq_ok_iff {capabilities : Capabilities} {bodyLength : Nat} :
    capabilities.checkCapacity bodyLength = .ok () ↔
      bodyLength + stopLength ≤ capabilities.maxInstructions.toNat := by
  simp only [checkCapacity]
  split <;> simp <;> omega

end Capabilities

end Pseudoclock
