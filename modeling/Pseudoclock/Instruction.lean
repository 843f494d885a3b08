/-!
The two kinds of instruction that a device executes. Either kind has a marker that pauses the
device until it is triggered.
-/

namespace Pseudoclock

/-- How many instructions end every program. -/
def stopLength : Nat := 2

/-- What programs need to know of an instruction. -/
class Instruction (ι : Type) where
  /-- Whether the instruction pauses the device until a trigger arrives. -/
  isWait : ι → Bool
  /-- The instruction that fills a stop sequence. -/
  stop : ι

export Instruction (isWait)

/-- A run of `reps` equal clock cycles, high for `period` half ticks and then low for as long. A
period of zero is a wait, whatever the repetitions say. -/
structure Toggle where
  period : UInt32
  reps : UInt32
deriving DecidableEq, Repr

/-- Drives the outputs with the packed word `bits` for `reps` ticks. No repetitions at all is a
wait, during which the word stays on the outputs. -/
structure Snapshot where
  reps : UInt32
  bits : UInt64
deriving DecidableEq, Repr

namespace Toggle

def wait : Toggle := ⟨0, 0⟩

instance : Instruction Toggle where
  isWait instruction := instruction.period == 0
  stop := ⟨0, 0⟩

end Toggle

namespace Snapshot

/-- The wait marker that keeps `bits` on the outputs. -/
def wait (bits : UInt64) : Snapshot := ⟨0, bits⟩

instance : Instruction Snapshot where
  isWait instruction := instruction.reps == 0
  stop := ⟨0, 0⟩

end Snapshot

inductive Shape where
  | toggle
  | snapshot
deriving DecidableEq, Repr

def Shape.columns : Shape → String
  | .toggle => "(period, reps)"
  | .snapshot => "(reps, bits)"

end Pseudoclock
