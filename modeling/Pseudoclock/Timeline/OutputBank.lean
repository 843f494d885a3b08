import Pseudoclock.Calibration
import Pseudoclock.Layout
import Pseudoclock.Log
import Pseudoclock.Program
import Pseudoclock.Timeline

/-!
Timelines of an output bank become snapshot programs, one instruction for each event. A word is
held until the next event of its segment, and the last one for a single tick; a wait keeps the word
before it on the outputs.
-/

namespace Pseudoclock.Timeline

section Compiler

/-! Compilation with a given subtraction of positions, as for clock lines. -/

variable {m : Type → Type} [Monad m] [MonadExceptOf Error m] [MonadLiftT (Except Error) m]
  (subtract : Int → Int → m Int)

/-- For how many ticks a word that begins at `time` is held, given what comes after it. -/
def holdTicksWith (position : Float → Int) (time : Float) : Timeline → m UInt32
  | [] => return 1
  | next :: _ => do
    let ticks ← subtract (position next.time) (position time)
    if ticks < 1 then
      throw (.invalidTimeline (.sameTick time next.time))
    else if 0xffffffff < ticks then
      throw (.invalidTimeline (.longHold time ticks))
    else
      return UInt32.ofNat ticks.toNat

/-- The instructions of an output bank's events. `held` is the last word so far, and `origin` the
time of the first word after the last wait. -/
def bankWordsWith (layout : Layout) (clockResolution : Float) :
    UInt64 → Option Float → Timeline → m (List Snapshot)
  | _, _, [] => return []
  | held, origin, event :: rest =>
    match event.kind with
    | .wait => do
      let words ← bankWordsWith layout clockResolution held none rest
      return Snapshot.wait held :: words
    | .level word =>
      if layout.fits word then do
        let start := origin.getD event.time
        let position := fun time => Ticks.ofLength (time - start) clockResolution
        let reps ← holdTicksWith subtract position event.time rest
        let words ← bankWordsWith layout clockResolution word (some start) rest
        return ⟨reps, word⟩ :: words
      else
        throw (.invalidTimeline (.strayWord word event.time layout.channels))

def compileSnapshotWith (timeline : Timeline) (layout : Layout) (capabilities : Capabilities) :
    m (Program Snapshot) := do
  capabilities.validate
  layout.validate
  timeline.checkTimes
  let body ← bankWordsWith subtract layout capabilities.clockResolution 0 none timeline
  capabilities.checkCapacity body.length
  return Program.ofBody body

end Compiler

/-- `holdTicksWith` for whole numbers. -/
def holdTicks (position : Float → Int) (time : Float) (rest : Timeline) : Except Error UInt32 :=
  holdTicksWith exactDifference position time rest

/-- `bankWordsWith` for whole numbers. -/
def bankWords (layout : Layout) (clockResolution : Float) (held : UInt64) (origin : Option Float)
    (timeline : Timeline) : Except Error (List Snapshot) :=
  bankWordsWith exactDifference layout clockResolution held origin timeline

/-- The program of an output bank's timeline. -/
def compileSnapshot (timeline : Timeline) (layout : Layout) (capabilities : Capabilities) :
    Except Error (Program Snapshot) :=
  compileSnapshotWith exactDifference timeline layout capabilities

section Equations

variable (layout : Layout) (clockResolution : Float) (held : UInt64) (origin : Option Float)

theorem holdTicks_cons (position : Float → Int) (time : Float) (next : Event) (rest : Timeline) :
    holdTicks position time (next :: rest) =
      let ticks := position next.time - position time
      if ticks < 1 then
        .error (.invalidTimeline (.sameTick time next.time))
      else if 0xffffffff < ticks then
        .error (.invalidTimeline (.longHold time ticks))
      else
        .ok (UInt32.ofNat ticks.toNat) :=
  rfl

theorem bankWords_cons (event : Event) (rest : Timeline) :
    bankWords layout clockResolution held origin (event :: rest) =
      match event.kind with
      | .wait => do
        let words ← bankWords layout clockResolution held none rest
        return Snapshot.wait held :: words
      | .level word =>
        if layout.fits word then do
          let start := origin.getD event.time
          let position := fun time => Ticks.ofLength (time - start) clockResolution
          let reps ← holdTicks position event.time rest
          let words ← bankWords layout clockResolution word (some start) rest
          return ⟨reps, word⟩ :: words
        else
          .error (.invalidTimeline (.strayWord word event.time layout.channels)) :=
  rfl

theorem compileSnapshot_eq (timeline : Timeline) (capabilities : Capabilities) :
    timeline.compileSnapshot layout capabilities = (do
      capabilities.validate
      layout.validate
      timeline.checkTimes
      let body ← timeline.bankWords layout capabilities.clockResolution 0 none
      capabilities.checkCapacity body.length
      return Program.ofBody body) :=
  rfl

end Equations

def snapshotRecords (timeline : Timeline) (bodyLength : Nat) : List Log.Record :=
  [⟨.debug, .encoder,
    s!"compiled {timeline.length} snapshot events into {bodyLength} instructions"⟩]

end Pseudoclock.Timeline
