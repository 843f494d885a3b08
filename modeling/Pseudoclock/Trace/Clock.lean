import Pseudoclock.Error
import Pseudoclock.Trace

/-!
Clock traces: sampled levels of a clock line, and the rising edges that trigger a device.
-/

namespace Pseudoclock

/-- Whether some time is before the one in front of it. -/
def descends : List Float → Bool
  | [] => false
  | [_] => false
  | t :: u :: rest => decide (u < t) || descends (u :: rest)

/-- A trace of levels 0 and 1 in which no time is before the one in front of it. -/
structure ClockTrace where
  times : List Float
  levels : List UInt8
  length_eq : times.length = levels.length
  isBinary : levels.all (· ≤ 1) = true
  isOrdered : descends times = false
deriving DecidableEq

namespace ClockTrace

/-- Samples that make a clock trace. Of several faults, unequal lengths are found before levels,
and levels before times. -/
def check (times : List Float) (levels : List UInt8) : Except TraceFault ClockTrace :=
  if hlength : times.length = levels.length then
    if hbinary : levels.all (· ≤ 1) = true then
      if hordered : descends times = false then
        .ok ⟨times, levels, hlength, hbinary, hordered⟩
      else
        .error .unordered
    else
      .error (.notALevel ((levels.find? (1 < ·)).getD 0))
  else
    .error (.unequalLengths times.length levels.length)

def ofColumns (times : List Float) (levels : List UInt8) : Except Error ClockTrace :=
  (check times levels).mapError .invalidTrace

def toTrace (trace : ClockTrace) : Trace UInt8 :=
  ⟨trace.times, trace.levels⟩

/-- The times at which the level goes from 0 to 1, after it was `previous`. -/
def edgesAfter (previous : UInt8) : List (Float × UInt8) → List Float
  | [] => []
  | (time, level) :: rest =>
    if previous == 0 && level == 1 then time :: edgesAfter level rest else edgesAfter level rest

/-- The times at which the clock rises. A clock that is high when the trace begins counts as
rising there, since it rose then or before. -/
def risingEdges (trace : ClockTrace) : List Float :=
  edgesAfter 0 (trace.times.zip trace.levels)

end ClockTrace

end Pseudoclock
