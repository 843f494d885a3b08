import Pseudoclock.Error
import Pseudoclock.Ticks

/-!
Timelines: what an output is to do, as levels at given times and waits for triggers between them.
-/

namespace Pseudoclock

inductive EventKind where
  /-- The output has this level, or the output bank this packed word, from here on. -/
  | level (value : UInt64)
  /-- The device pauses until it is triggered. -/
  | wait
deriving DecidableEq, Repr

/-- A level change or a wait, at a time in seconds. -/
structure Event where
  time : Float
  kind : EventKind
deriving DecidableEq

/-- Events in the order in which they happen. -/
abbrev Timeline := List Event

namespace Timeline

/-- The difference of two positions, as whole numbers. -/
def exactDifference (a b : Int) : Except Error Int :=
  .ok (a - b)

/-- The first event that is before the one in front of it, and that one. -/
def firstDescent? : Timeline → Option (Event × Event)
  | [] => none
  | [_] => none
  | earlier :: later :: rest =>
    if later.time < earlier.time then some (later, earlier) else firstDescent? (later :: rest)

/-- Refuses times that are not finite, and then times that are out of order. -/
def checkTimes (timeline : Timeline) : Except Error Unit :=
  match timeline.find? fun event => !event.time.isFinite with
  | some event => .error (.invalidTimeline (.notFinite event.time))
  | none =>
    match timeline.firstDescent? with
    | some (later, earlier) => .error (.invalidTimeline (.unsorted later.time earlier.time))
    | none => .ok ()

end Timeline

end Pseudoclock
