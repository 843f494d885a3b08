import Pseudoclock.Json.Decoder
import Pseudoclock.Json.Value
import Pseudoclock.Trace.Clock

/-!
Documents that hold traces: an object with a list of times and a list of values.
-/

namespace Pseudoclock

open Json (Decoder Value)

namespace Trace

variable {α : Type}

def toJson (value : α → Value) (trace : Trace α) : Value :=
  .object [("times", .array (trace.times.map .float)), ("values", .array (trace.values.map value))]

def ofJson (value : Decoder α) : Decoder (Trace α) := fun r => do
  let record ← Json.Record.ofReading ["times", "values"] r
  let times ← record.required "times" (Json.Decode.list Json.Decode.float)
  let values ← record.required "values" (Json.Decode.list value)
  return ⟨times, values⟩

def levelsToJson (trace : Trace UInt8) : Value :=
  trace.toJson fun level => .natural level.toNat

def levelsOfJson : Decoder (Trace UInt8) :=
  ofJson Json.Decode.uint8

def wordsToJson (trace : Trace UInt64) : Value :=
  trace.toJson fun word => .natural word.toNat

def wordsOfJson : Decoder (Trace UInt64) :=
  ofJson Json.Decode.uint64

end Trace

namespace ClockTrace

def toJson (trace : ClockTrace) : Value :=
  trace.toTrace.levelsToJson

/-- Reads a trace of levels that is a clock trace. -/
def ofJson : Decoder ClockTrace := fun r => do
  let trace ← Trace.levelsOfJson r
  (check trace.times trace.values).mapError .trace

end ClockTrace

/-- The document of named traces, in order. -/
def tracesToJson (traces : OrderedMap (Trace UInt8)) : Value :=
  .object (traces.entries.map fun entry => (entry.1, entry.2.levelsToJson))

end Pseudoclock
