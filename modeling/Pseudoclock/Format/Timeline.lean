import Pseudoclock.Json.Decoder
import Pseudoclock.Json.Value
import Pseudoclock.Timeline

/-!
Documents that hold timelines. An event is an object with its time and either its level or, for a
wait, `"wait": true`.
-/

namespace Pseudoclock

open Json (Decoder Value)

namespace Event

def toJson (event : Event) : Value :=
  match event.kind with
  | .level value => .object [("time", .float event.time), ("level", .natural value.toNat)]
  | .wait => .object [("time", .float event.time), ("wait", .bool true)]

/-- Reads an event, which must be a level or a wait and not both. -/
def ofJson : Decoder Event := fun r => do
  let record ← Json.Record.ofReading ["time", "level", "wait"] r
  let time ← record.required "time" Json.Decode.float
  let level ← record.optional "level" none (Json.Decode.nullable Json.Decode.uint64)
  let isWait ← record.optional "wait" false Json.Decode.bool
  match level, isWait with
  | some level, false => return ⟨time, .level level⟩
  | none, true => return ⟨time, .wait⟩
  | _, _ => throw (.timeline (.ambiguousEvent time))

end Event

namespace Timeline

def toJson (timeline : Timeline) : Value :=
  .array (timeline.map Event.toJson)

def ofJson : Decoder Timeline :=
  Json.Decode.list Event.ofJson

def mapToJson (timelines : OrderedMap Timeline) : Value :=
  .object (timelines.entries.map fun entry => (entry.1, toJson entry.2))

def mapOfJson : Decoder (OrderedMap Timeline) :=
  Json.Decode.map ofJson

end Timeline

end Pseudoclock
