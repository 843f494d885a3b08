import Pseudoclock.Calibration
import Pseudoclock.Log
import Pseudoclock.Program
import Pseudoclock.Timeline

/-!
Clock line timelines become toggle programs. Levels alternate, beginning high, and each cycle
stays low for as long as it stays high, both counted in half ticks from the origin of its segment.
The low phase that ends a timeline is not written in it and is taken to be as long as the high
phase before it.
-/

namespace Pseudoclock

/-- Where the positions of a stretch of events between waits are counted from. -/
inductive Segment where
  /-- No wait came before: positions count from program start, where the first rise must be. -/
  | first
  /-- A wait has just ended a segment: the next rise will be the origin. -/
  | pending
  /-- Positions count from this time. -/
  | running (origin : Float)
deriving DecidableEq

/-- Where positions count from when an edge is at `time`. -/
def Segment.origin (time : Float) : Segment → Float
  | .first => 0
  | .pending => time
  | .running origin => origin

/-- Adds one cycle after the instructions of a body, the last of which comes first. A cycle of the
same period as the last instruction is counted there while its register has room. -/
def Toggle.addCycle (period : UInt32) : List Toggle → List Toggle
  | [] => [⟨period, 1⟩]
  | last :: earlier =>
    if !isWait last && last.period == period && last.reps < 0xffffffff then
      ⟨last.period, last.reps + 1⟩ :: earlier
    else
      ⟨period, 1⟩ :: last :: earlier

/-- The position of `time`, counted from `origin`. -/
def Capabilities.position (capabilities : Capabilities) (origin time : Float) : Int :=
  Ticks.halvesOfLength (time - origin) capabilities.clockResolution

/-- The period of a cycle that is high for `high` half ticks and falls at `time`. -/
def Capabilities.periodOf (capabilities : Capabilities) (high : Int) (time : Float) :
    Except Error UInt32 :=
  if high < capabilities.minPeriod.toNat then
    .error (.invalidTimeline (.shortPhase time high capabilities.minPeriod))
  else if 0xffffffff < high then
    .error (.invalidTimeline (.longPhase time high))
  else
    .ok (UInt32.ofNat high.toNat)

namespace Timeline

section Compiler

/-! Compilation with a given subtraction of positions. Positions fit into registers, and it takes a
proof that their differences do. -/

variable {m : Type → Type} [Monad m] [MonadExceptOf Error m] [MonadLiftT (Except Error) m]
  (subtract : Int → Int → m Int)

/-- A fall must be followed, if by anything, after as many half ticks as passed since the rise. -/
def checkLowPhaseWith (position : Float → Int) (fall high : Int) : Timeline → m Unit
  | [] => return
  | next :: _ => do
    let low ← subtract (position next.time) fall
    if low ≠ high then throw (.invalidTimeline (.unequalPhases next.time high low))

/-- The instructions of a clock line's remaining events, the last one first. `rise` is the position
of the rising edge while the line is high, and `body` what was compiled before. -/
def clockCyclesWith (capabilities : Capabilities) :
    Segment → Option Int → List Toggle → Timeline → m (List Toggle)
  | _, none, body, [] => return body
  | _, some _, _, [] => throw (.invalidTimeline .endsHigh)
  | segment, rise, body, event :: rest =>
    match event.kind, rise with
    | .wait, some _ => throw (.invalidTimeline (.waitWhileHigh event.time))
    | .wait, none => clockCyclesWith capabilities .pending none (Toggle.wait :: body) rest
    | .level 1, some _ => throw (.invalidTimeline (.riseWhileHigh event.time))
    | .level 1, none =>
      let origin := segment.origin event.time
      let position := capabilities.position origin event.time
      if segment = .first ∧ position ≠ 0 then
        throw (.invalidTimeline (.lateFirstRise event.time))
      else
        clockCyclesWith capabilities (.running origin) (some position) body rest
    | .level 0, none => throw (.invalidTimeline (.fallWhileLow event.time))
    | .level 0, some rise => do
      let position := capabilities.position (segment.origin event.time)
      let fall := position event.time
      let high ← subtract fall rise
      checkLowPhaseWith subtract position fall high rest
      let period ← capabilities.periodOf high event.time
      clockCyclesWith capabilities segment none (Toggle.addCycle period body) rest
    | .level level, _ => throw (.invalidTimeline (.notALevel event.time level))

def compileToggleWith (timeline : Timeline) (capabilities : Capabilities) : m (Program Toggle) := do
  capabilities.validate
  timeline.checkTimes
  let reversed ← clockCyclesWith subtract capabilities .first none [] timeline
  capabilities.checkCapacity reversed.length
  return Program.ofBody reversed.reverse

end Compiler

/-- `checkLowPhaseWith` for whole numbers. -/
def checkLowPhase (position : Float → Int) (fall high : Int) (rest : Timeline) : Except Error Unit :=
  checkLowPhaseWith exactDifference position fall high rest

/-- `clockCyclesWith` for whole numbers. -/
def clockCycles (capabilities : Capabilities) (segment : Segment) (rise : Option Int) (body : List Toggle)
    (timeline : Timeline) : Except Error (List Toggle) :=
  clockCyclesWith exactDifference capabilities segment rise body timeline

/-- The program of a clock line's timeline. -/
def compileToggle (timeline : Timeline) (capabilities : Capabilities) : Except Error (Program Toggle) :=
  compileToggleWith exactDifference timeline capabilities

section Equations

variable (capabilities : Capabilities) (segment : Segment) (rise : Option Int) (body : List Toggle)

theorem checkLowPhase_cons (position : Float → Int) (fall high : Int) (next : Event) (rest : Timeline) :
    checkLowPhase position fall high (next :: rest) =
      if position next.time - fall ≠ high then
        .error (.invalidTimeline (.unequalPhases next.time high (position next.time - fall)))
      else
        .ok () :=
  rfl

theorem clockCycles_cons (event : Event) (rest : Timeline) :
    clockCycles capabilities segment rise body (event :: rest) =
      match event.kind, rise with
      | .wait, some _ => .error (.invalidTimeline (.waitWhileHigh event.time))
      | .wait, none => clockCycles capabilities .pending none (Toggle.wait :: body) rest
      | .level 1, some _ => .error (.invalidTimeline (.riseWhileHigh event.time))
      | .level 1, none =>
        let origin := segment.origin event.time
        let position := capabilities.position origin event.time
        if segment = .first ∧ position ≠ 0 then
          .error (.invalidTimeline (.lateFirstRise event.time))
        else
          clockCycles capabilities (.running origin) (some position) body rest
      | .level 0, none => .error (.invalidTimeline (.fallWhileLow event.time))
      | .level 0, some rise => do
        let position := capabilities.position (segment.origin event.time)
        let high := position event.time - rise
        checkLowPhase position (position event.time) high rest
        let period ← capabilities.periodOf high event.time
        clockCycles capabilities segment none (Toggle.addCycle period body) rest
      | .level level, _ => .error (.invalidTimeline (.notALevel event.time level)) := by
  cases rise <;> rfl

theorem compileToggle_eq (timeline : Timeline) :
    timeline.compileToggle capabilities = (do
      capabilities.validate
      timeline.checkTimes
      let reversed ← timeline.clockCycles capabilities .first none []
      capabilities.checkCapacity reversed.length
      return Program.ofBody reversed.reverse) :=
  rfl

end Equations

/-- The records of a clock line that was compiled to `bodyLength` instructions. -/
def toggleRecords (timeline : Timeline) (bodyLength : Nat) (diagnostics : Bool) : List Log.Record :=
  Log.diagnostic diagnostics .encoder
    s!"run-length encoded {timeline.length} events into {bodyLength} instructions"

end Timeline

end Pseudoclock
