import Pseudoclock.Dataset
import Pseudoclock.Json.Decoder
import Pseudoclock.Json.Value

/-!
Documents that hold instructions, tables and datasets. The two kinds of table are told apart by
their columns: one with good periods and repetitions holds toggles, and any other one with good
repetitions and words holds snapshots.
-/

namespace Pseudoclock

open Json (Decoder Value)

def columnToJson (column : List UInt32) : Value :=
  .array (column.map fun n => .natural n.toNat)

def wordColumnToJson (column : List UInt64) : Value :=
  .array (column.map fun word => .natural word.toNat)

namespace Toggle

def toJson (instruction : Toggle) : Value :=
  .object [("period", .natural instruction.period.toNat), ("reps", .natural instruction.reps.toNat)]

def ofJson : Decoder Toggle := fun r => do
  let record ← Json.Record.ofReading ["period", "reps"] r
  let period ← record.required "period" Json.Decode.uint32
  let reps ← record.required "reps" Json.Decode.uint32
  return ⟨period, reps⟩

end Toggle

namespace Snapshot

def toJson (instruction : Snapshot) : Value :=
  .object [("reps", .natural instruction.reps.toNat), ("bits", .natural instruction.bits.toNat)]

def ofJson : Decoder Snapshot := fun r => do
  let record ← Json.Record.ofReading ["reps", "bits"] r
  let reps ← record.required "reps" Json.Decode.uint32
  let bits ← record.required "bits" Json.Decode.uint64
  return ⟨reps, bits⟩

end Snapshot

namespace Table

def toJson : Table → Value
  | .toggle period reps => .object [("period", columnToJson period), ("reps", columnToJson reps)]
  | .snapshot reps bits => .object [("reps", columnToJson reps), ("bits", wordColumnToJson bits)]

def toggleOfColumns (columns : List (String × Json.Reading)) : Except DocumentFault Table := do
  let record ← Json.Record.ofNamed ["period", "reps"] columns
  let period ← record.required "period" (Json.Decode.list Json.Decode.uint32)
  let reps ← record.required "reps" (Json.Decode.list Json.Decode.uint32)
  return .toggle period reps

def snapshotOfColumns (columns : List (String × Json.Reading)) : Except DocumentFault Table := do
  let record ← Json.Record.ofNamed ["reps", "bits"] columns
  let reps ← record.required "reps" (Json.Decode.list Json.Decode.uint32)
  let bits ← record.required "bits" (Json.Decode.list Json.Decode.uint64)
  return .snapshot reps bits

/-- Reads a table that is nested in `enclosing` lists and objects. The columns are kept until their
kind is known, so that all of them must be fit to be kept. -/
def ofJson (enclosing : Nat) : Decoder Table
  | .object fields => do
    if (Json.Reading.object fields).isKept (Json.greatestDepth - enclosing) then
      let columns ← fields.mapM Json.Record.named
      match toggleOfColumns columns with
      | .ok table => return table
      | .error _ => snapshotOfColumns columns
    else Json.malformed
  | _ => Json.malformed

end Table

namespace Dataset

def toJson (dataset : Dataset) : Value :=
  .object [("device", .string dataset.device),
    ("tables", .object (dataset.tables.entries.map fun entry => (entry.1, entry.2.toJson)))]

def ofJson : Decoder Dataset := fun r => do
  let record ← Json.Record.ofReading ["device", "tables"] r
  let device ← record.required "device" Json.Decode.string
  let tables ← record.required "tables" (Json.Decode.map (Table.ofJson 2))
  return ⟨device, tables⟩

def toText (dataset : Dataset) : String :=
  dataset.toJson.text .indented

def ofText (text : String) : Except Error Dataset :=
  (Json.decode ofJson text).mapError .unreadable

end Dataset

end Pseudoclock
