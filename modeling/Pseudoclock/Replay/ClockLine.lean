import Pseudoclock.Replay

/-!
Replay of toggle programs: the clock line that a program drives.
-/

namespace Pseudoclock

namespace Replay

/-- Records cycles that are high and then low for `half` seconds each. -/
def cycles (half : Float) : Nat → Replay UInt8 → Replay UInt8
  | 0, replay => replay
  | reps + 1, replay =>
    let fall := replay.clock + half
    cycles half reps { replay with
      clock := fall + half
      recorded := (fall, 0) :: (replay.clock, 1) :: replay.recorded }

/-- One toggle instruction. The first marker of a wait takes the device to its next edge or passes
the delay of an unresolved wait; markers that follow it do nothing. -/
def stepToggle (calibration : Calibration) (replay : Replay UInt8) (instruction : Toggle) :
    Except Error (Replay UInt8) :=
  if isWait instruction then
    if replay.isWaiting then
      .ok replay
    else
      match replay.edges with
      | none =>
        .ok { replay with clock := replay.clock + calibration.waitDelay, isWaiting := true }
      | some reader => do
        let (edge, reader) ← reader.next
        return { replay with
          clock := edge + calibration.triggerDelay, edges := some reader, isWaiting := true }
  else
    let half := instruction.period.toFloat * calibration.halfTick
    .ok (cycles half instruction.reps.toNat { replay with isWaiting := false })

def startToggle (calibration : Calibration) (triggers : Option (List Float)) :
    Except Error (Replay UInt8) := do
  let replay ← Replay.start triggers
  if replay.edges.isSome then
    return { replay with clock := replay.clock + calibration.triggerDelay }
  else
    return replay

end Replay

namespace Program

/-- The clock line that a program drives. `triggers` are the edges of the device that triggers it,
and there are none for a self-timed device. -/
def replayToggle (program : Program Toggle) (calibration : Calibration)
    (triggers : Option (List Float)) : Except Error (Replayed UInt8) := do
  calibration.validate
  let start ← Replay.startToggle calibration triggers
  let replay ← program.body.foldlM (Replay.stepToggle calibration) start
  return replay.finish program.body.length

end Program

def Usage.toggleRecords (usage : Usage) (diagnostics : Bool) : List Log.Record :=
  usage.records "transitions" diagnostics

end Pseudoclock
