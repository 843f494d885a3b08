import Pseudoclock.Error

/-!
Programs: the instructions of a body, then a stop sequence whose values do not matter.
-/

namespace Pseudoclock

/-- What is loaded onto a device, the stop sequence included. -/
structure Program (ι : Type) where
  instructions : List ι
  stopLength_le : stopLength ≤ instructions.length
deriving DecidableEq

namespace Program

variable {ι : Type}

/-- Reads instructions as a program, taking the last ones for its stop sequence. -/
def ofInstructions (instructions : List ι) : Except Error (Program ι) :=
  if h : stopLength ≤ instructions.length then
    .ok ⟨instructions, h⟩
  else
    .error (.malformedProgram (.missingStop instructions.length))

def ofBody [Instruction ι] (body : List ι) : Program ι :=
  ⟨body ++ List.replicate stopLength Instruction.stop, by simp⟩

/-- The instructions that carry timing: all but the stop sequence. -/
def body (program : Program ι) : List ι :=
  program.instructions.take (program.instructions.length - stopLength)

/-- How many instructions a program takes in memory. -/
def length (program : Program ι) : Nat :=
  program.instructions.length

def isEmpty (program : Program ι) : Bool :=
  program.body.isEmpty

/-- How many instructions of the body are waits. -/
def waitCount [Instruction ι] (program : Program ι) : Nat :=
  program.body.countP isWait

@[simp] theorem body_ofBody [Instruction ι] (body : List ι) : (ofBody body).body = body := by
  simp [Program.body, ofBody]

theorem length_body (program : Program ι) : program.body.length + stopLength = program.length := by
  have h := program.stopLength_le
  simp only [body, length, List.length_take]
  omega

theorem length_ofBody [Instruction ι] (body : List ι) :
    (ofBody body).length = body.length + stopLength := by
  rw [← length_body, body_ofBody]

end Program

end Pseudoclock
