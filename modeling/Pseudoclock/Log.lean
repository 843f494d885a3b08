/-!
Log records. What is logged is a value that goes along with a result; nothing is printed here.
-/

namespace Pseudoclock.Log

inductive Level where
  | error
  | warn
  | info
  | debug
  | trace
deriving DecidableEq, Repr

namespace Level

def name : Level → String
  | .error => "ERROR"
  | .warn => "WARN"
  | .info => "INFO"
  | .debug => "DEBUG"
  | .trace => "TRACE"

/-- More verbose levels have larger ranks. -/
def rank : Level → Nat
  | .error => 1
  | .warn => 2
  | .info => 3
  | .debug => 4
  | .trace => 5

end Level

/-- The part of the program that a record comes from. -/
inductive Source where
  | encoder
  | decoder
  | device
  | tool
deriving DecidableEq, Repr

/-- The name by which log filters know a source. -/
def Source.target : Source → String
  | .encoder => "pulseprog.rust::pulse_program::encoder"
  | .decoder => "pulseprog.rust::pulse_program::decoder"
  | .device => "pulseprog.rust::pulse_program::device"
  | .tool => "pulseprog.rust::pulseprog"

structure Record where
  level : Level
  source : Source
  message : String
deriving DecidableEq, Repr

/-- A record that is made only while diagnostics are on. -/
def diagnostic (isEnabled : Bool) (source : Source) (message : String) : List Record :=
  if isEnabled then [⟨.info, source, message⟩] else []

end Pseudoclock.Log
