import Pseudoclock.Calibration
import Pseudoclock.Log
import Pseudoclock.Program
import Pseudoclock.Trace

/-!
What replaying a program keeps track of: the clock, the trigger edges still to come, whether the
device is waiting and the samples so far.

A device is self-timed, and then every wait takes the calibrated delay, or it is triggered. A
triggered device starts at its first edge.
-/

namespace Pseudoclock

/-- A list of trigger edges that has been read up to some place. -/
structure EdgeReader where
  used : Nat
  pending : List Float
deriving DecidableEq

namespace EdgeReader

/-- How many edges there are, read or not. -/
def total (reader : EdgeReader) : Nat :=
  reader.used + reader.pending.length

def next (reader : EdgeReader) : Except Error (Float × EdgeReader) :=
  match reader.pending with
  | [] => .error (.triggerExhausted (reader.used + 1) reader.total)
  | edge :: rest => .ok (edge, ⟨reader.used + 1, rest⟩)

end EdgeReader

/-- Where a replay stands between two instructions. -/
structure Replay (α : Type) where
  clock : Float
  edges : Option EdgeReader
  isWaiting : Bool
  /-- The samples so far, the last one first. -/
  recorded : List (Float × α)
deriving DecidableEq

structure Usage where
  instructions : Nat
  samples : Nat
  /-- The edges of a triggered device, read as far as the program needed them. -/
  edges : Option EdgeReader
deriving DecidableEq

structure Replayed (α : Type) where
  trace : Trace α
  usage : Usage
deriving DecidableEq

namespace Replay

variable {α : Type}

/-- The clock starts at zero or, on a triggered device, at the first edge. -/
def start (triggers : Option (List Float)) : Except Error (Replay α) :=
  match triggers with
  | none => .ok ⟨0, none, false, []⟩
  | some pending => do
    let (edge, reader) ← EdgeReader.next ⟨0, pending⟩
    return ⟨edge, some reader, false, []⟩

def finish (replay : Replay α) (bodyLength : Nat) : Replayed α where
  trace := Trace.ofSamples replay.recorded.reverse
  usage := ⟨bodyLength, replay.recorded.length, replay.edges⟩

end Replay

namespace Usage

def unusedEdges (usage : Usage) (diagnostics : Bool) : List Log.Record :=
  match usage.edges with
  | none => []
  | some reader =>
    if reader.pending.isEmpty then []
    else Log.diagnostic diagnostics .decoder
      s!"{reader.pending.length} of {reader.total} trigger edges were not needed by the program"

/-- The records of a replay whose samples are called `what`. -/
def records (usage : Usage) (what : String) (diagnostics : Bool) : List Log.Record :=
  ⟨.debug, .decoder, s!"decoded {usage.instructions} instructions into {usage.samples} {what}"⟩
    :: usage.unusedEdges diagnostics

end Usage

end Pseudoclock
