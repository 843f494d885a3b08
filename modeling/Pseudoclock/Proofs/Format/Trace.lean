import Mathlib
import Pseudoclock.Format.Trace
import Pseudoclock.Proofs.Json.Decoding

/-!
What the document of named traces says: the names in their order, and under each of them the times and levels of its
trace. It says so whatever the traces are. They can be read back if their times are stable.
-/

namespace Pseudoclock

open Json (IsStable Reading Value)

/-- A part of a document says a time: it is the literal of the time, and missing for a time that is not finite. A
time that is stable comes back from it. -/
structure IsTimeIn (part : Reading) (time : Float) : Prop where
  literal : time.isFinite = true → ∃ numeral, part = .number numeral ∧ Json.IsLiteral (Json.floatText time) numeral
  missing : time.isFinite = false → part = .null
  decodes : IsStable time → Json.Decode.float part = .ok time

/-- A part of a document says a trace: it is an object of its times and its levels, each of them in its place. -/
def Trace.IsIn (trace : Trace UInt8) (part : Reading) : Prop :=
  ∃ times values, part = .object [(some "times", .array times), (some "values", .array values)] ∧
    List.Forall₂ IsTimeIn times trace.times ∧
    List.Forall₂ (fun part level => Json.Decode.uint8 part = .ok level) values trace.values

/-- A text is a document with these traces under their names, in their order, and with nothing else. -/
def HoldsTraces (text : String) (traces : List (String × Trace UInt8)) : Prop :=
  ∃ fields, Json.read text = ⟨.object fields, false⟩ ∧
    List.Forall₂ (fun field entry => field.1 = some entry.1 ∧ entry.2.IsIn field.2) fields traces

theorem isTimeIn_reading (time : Float) : IsTimeIn (Value.float time).reading time where
  literal hfinite := by
    obtain ⟨numeral, hliteral⟩ := Decimal.exists_isLiteral_document hfinite
    exact ⟨numeral, by rw [Value.reading, if_pos hfinite, hliteral.literalOf_eq], hliteral⟩
  missing hnot := by simp [Value.reading, hnot]
  decodes := Json.Decode.float_of_isStable

namespace Trace

theorem isIn_reading (trace : Trace UInt8) : trace.IsIn trace.levelsToJson.reading := by
  simp only [levelsToJson, toJson, Value.reading, Json.fieldReadings]
  refine ⟨_, _, rfl, ?_, ?_⟩
  · rw [Json.itemReadings_eq_map, List.map_map, List.forall₂_map_left_iff, List.forall₂_same]
    exact fun time _ => isTimeIn_reading time
  · rw [Json.itemReadings_eq_map, List.map_map, List.forall₂_map_left_iff, List.forall₂_same]
    exact fun level _ => Json.Decode.uint8_toNat level

/-- A trace is read back if its times come back from their literals. -/
theorem levelsOfJson_levelsToJson {trace : Trace UInt8} (hstable : ∀ time ∈ trace.times, IsStable time) :
    levelsOfJson trace.levelsToJson.reading = .ok trace := by
  rw [levelsOfJson, ofJson, levelsToJson, toJson, Json.Record.ofReading_object (by simp) (by simp)]
  change (Json.Decode.list Json.Decode.float (Value.array (trace.times.map .float)).reading >>= fun times =>
    Json.Decode.list Json.Decode.uint8
      (Value.array (trace.values.map fun level => .natural level.toNat)).reading >>= fun values =>
        (.ok ⟨times, values⟩ : Except DocumentFault (Trace UInt8))) = _
  rw [Json.Decode.list_map fun time htime => Json.Decode.float_of_isStable (hstable time htime),
    Json.Decode.list_map fun level _ => Json.Decode.uint8_toNat level]
  rfl

end Trace

variable (traces : OrderedMap (Trace UInt8)) (spacing : Json.Spacing)

theorem holdsTraces_text : HoldsTraces ((tracesToJson traces).text spacing) traces.entries := by
  refine ⟨_, by rw [Json.read_text, tracesToJson, Value.reading], ?_⟩
  rw [Json.fieldReadings_eq_map, List.map_map, List.forall₂_map_left_iff, List.forall₂_same]
  exact fun entry _ => ⟨rfl, entry.2.isIn_reading⟩

/-- Named traces are read back from either form of their text, in their order. -/
theorem decode_tracesToJson {traces : OrderedMap (Trace UInt8)}
    (hstable : ∀ entry ∈ traces.entries, ∀ time ∈ entry.2.times, IsStable time) :
    Json.decode (Json.Decode.map Trace.levelsOfJson) ((tracesToJson traces).text spacing) = .ok traces := by
  rw [Json.decode_text]
  exact Json.Decode.map_entries fun entry hentry => Trace.levelsOfJson_levelsToJson (hstable entry hentry)

end Pseudoclock
