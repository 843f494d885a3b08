import Pseudoclock.Layout
import Pseudoclock.Replay

/-!
Replay of snapshot programs: the packed words that a program drives, and the level of each channel.
-/

namespace Pseudoclock

namespace Replay

def hold (duration : Float) (word : UInt64) (replay : Replay UInt64) : Replay UInt64 :=
  { replay with
    clock := replay.clock + duration
    recorded := (replay.clock, word) :: replay.recorded }

/-- How long a wait takes. On a triggered device that is the trigger delay, whenever the edge
comes. -/
def waitDuration (calibration : Calibration) (replay : Replay UInt64) : Float :=
  if replay.edges.isSome then calibration.triggerDelay else calibration.waitDelay

/-- One snapshot instruction. The first marker of a wait shows its word, and markers that follow it
do nothing. -/
def stepSnapshot (calibration : Calibration) (replay : Replay UInt64) (instruction : Snapshot) :
    Replay UInt64 :=
  if isWait instruction then
    if replay.isWaiting then
      replay
    else
      { replay.hold (replay.waitDuration calibration) instruction.bits with isWaiting := true }
  else
    let duration := Ticks.toLength instruction.reps.toUInt64 calibration.clockResolution
    { replay.hold duration instruction.bits with isWaiting := false }

def startSnapshot (calibration : Calibration) (triggers : Option (List Float)) :
    Except Error (Replay UInt64) := do
  let replay ← Replay.start triggers
  return { replay with clock := replay.clock + calibration.triggerDelay }

end Replay

namespace Program

/-- The words that a program drives. `triggers` are the edges of the device that triggers it, and
there are none for a self-timed device. -/
def replayWords (program : Program Snapshot) (calibration : Calibration)
    (triggers : Option (List Float)) : Except Error (Replayed UInt64) := do
  calibration.validate
  let start ← Replay.startSnapshot calibration triggers
  return (program.body.foldl (Replay.stepSnapshot calibration) start).finish program.body.length

/-- Refuses a program in whose body some word drives more than the layout's channels. -/
def checkWords (program : Program Snapshot) (layout : Layout) : Except Error Unit :=
  match program.body.zipIdx.find? fun entry => !layout.fits entry.1.bits with
  | some (instruction, index) =>
    .error (.malformedProgram (.strayWord index instruction.bits layout.channels))
  | none => .ok ()

/-- The words that a program drives, if they suit the layout. Words that are held during waits
count too. -/
def replaySnapshot (program : Program Snapshot) (calibration : Calibration) (layout : Layout)
    (triggers : Option (List Float)) : Except Error (Replayed UInt64) := do
  layout.validate
  program.checkWords layout
  program.replayWords calibration triggers

def replayChannels (program : Program Snapshot) (calibration : Calibration) (layout : Layout)
    (triggers : Option (List Float)) : Except Error (List (Trace UInt8)) := do
  let replayed ← program.replaySnapshot calibration layout triggers
  return layout.demultiplex replayed.trace

end Program

def Usage.snapshotRecords (usage : Usage) (diagnostics : Bool) : List Log.Record :=
  usage.records "output words" diagnostics

end Pseudoclock
