import Pseudoclock.Program

/-!
Instruction tables: the columns in which a program is stored, with its stop sequence.
-/

namespace Pseudoclock

/-- One column for each field of an instruction. -/
inductive Table where
  | toggle (period reps : List UInt32)
  | snapshot (reps : List UInt32) (bits : List UInt64)
deriving DecidableEq, Repr

namespace Table

def shape : Table → Shape
  | .toggle .. => .toggle
  | .snapshot .. => .snapshot

/-- How many rows a table has, counted by repetitions. -/
def length : Table → Nat
  | .toggle _ reps => reps.length
  | .snapshot reps _ => reps.length

def isEmpty (table : Table) : Bool :=
  table.length == 0

def checkColumns (left : String) (leftRows : Nat) (right : String) (rightRows : Nat) :
    Except Error Unit :=
  if leftRows = rightRows then .ok ()
  else .error (.malformedProgram (.raggedColumns left leftRows right rightRows))

def ofToggleProgram (program : Program Toggle) : Table :=
  .toggle (program.instructions.map (·.period)) (program.instructions.map (·.reps))

def ofSnapshotProgram (program : Program Snapshot) : Table :=
  .snapshot (program.instructions.map (·.reps)) (program.instructions.map (·.bits))

def toToggleProgram : Table → Except Error (Program Toggle)
  | .toggle period reps => do
    checkColumns "period" period.length "reps" reps.length
    Program.ofInstructions (List.zipWith Toggle.mk period reps)
  | .snapshot .. => .error (.malformedProgram (.wrongShape .toggle .snapshot))

def toSnapshotProgram : Table → Except Error (Program Snapshot)
  | .toggle .. => .error (.malformedProgram (.wrongShape .snapshot .toggle))
  | .snapshot reps bits => do
    checkColumns "reps" reps.length "bits" bits.length
    Program.ofInstructions (List.zipWith Snapshot.mk reps bits)

end Table

end Pseudoclock
