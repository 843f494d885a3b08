import Mathlib
import Pseudoclock.Format.Timeline
import Pseudoclock.Proofs.Format.Device
import Pseudoclock.Proofs.Json.Decoding

/-!
Timelines survive their file format if their times are stable. With the descriptions of devices they are what a
compilation reads.
-/

namespace Pseudoclock

open Json (Decoder IsStable Reading Value)

namespace Event

/-- A level and a wait are each read back as what they are: the field of the other one is missing. -/
theorem ofJson_toJson {event : Event} (hstable : IsStable event.time) : ofJson event.toJson.reading = .ok event := by
  obtain ⟨time, kind⟩ := event
  cases kind with
  | level value =>
    rw [ofJson, toJson, Json.Record.ofReading_object (by simp) (by simp)]
    change (Json.Decode.float (Value.float time).reading >>= fun time =>
      (Json.Decode.uint64 (Value.natural value.toNat).reading >>= fun value => .ok (some value)) >>= fun level => _) = _
    rw [Json.Decode.float_of_isStable hstable, Json.Decode.uint64_toNat]
    rfl
  | wait =>
    rw [ofJson, toJson, Json.Record.ofReading_object (by simp) (by simp)]
    change (Json.Decode.float (Value.float time).reading >>= fun time => _) = _
    rw [Json.Decode.float_of_isStable hstable]
    rfl

end Event

namespace Timeline

/-- All times come back from their literals. -/
def IsStable (timeline : Timeline) : Prop :=
  ∀ event ∈ timeline, Json.IsStable event.time

/-- Named timelines are read back from either form of their text, in their order. -/
theorem decode_mapOfJson {timelines : OrderedMap Timeline}
    (hstable : ∀ entry ∈ timelines.entries, IsStable entry.2) (spacing : Json.Spacing) :
    Json.decode mapOfJson ((mapToJson timelines).text spacing) = .ok timelines := by
  rw [Json.decode_text mapOfJson]
  refine Json.Decode.map_entries fun entry hentry => ?_
  exact Json.Decode.list_map fun event hevent => Event.ofJson_toJson (hstable entry hentry event hevent)

end Timeline

/-- Descriptions without contradictions and named timelines are read back from what is written for them, on one
line or indented, if all of their numbers come back from their literals. -/
theorem compileInputs_readBack (spacing : Json.Spacing) :
    (∀ device : Device, device.validate = .ok () → device.IsStable →
      Device.ofText (device.toJson.text spacing) = .ok device) ∧
    ∀ timelines : OrderedMap Timeline, (∀ entry ∈ timelines.entries, Timeline.IsStable entry.2) →
      Json.decode Timeline.mapOfJson ((Timeline.mapToJson timelines).text spacing) = .ok timelines :=
  ⟨fun _ hvalid hstable => Device.ofText_text hvalid hstable spacing,
    fun _ hstable => Timeline.decode_mapOfJson hstable spacing⟩

/-- A bank with one delay and names that need escapes, and timelines with a negative zero, the greatest word and a
wait. -/
theorem compileInputs_readBack_bank :
    let device : Device :=
      ⟨"\t\"✓", ⟨25e-9, 30000, 7⟩, ⟨none, some 2.5e-6⟩, .snapshot "π" ⟨2, 16, .little⟩ ["\\", "\x01𝄞"]⟩
    let timelines : OrderedMap Timeline :=
      .ofEntries [("\n", [⟨-0.0, .level 0xffffffffffffffff⟩, ⟨0.1, .wait⟩]), ("", [])]
    device.validate = .ok () ∧ device.IsStable ∧ Device.ofText (device.toJson.text .indented) = .ok device ∧
      (∀ entry ∈ timelines.entries, Timeline.IsStable entry.2) ∧
      Json.decode Timeline.mapOfJson ((Timeline.mapToJson timelines).text .indented) = .ok timelines := by
  intro device timelines
  have hvalid : device.validate = .ok () := by decide +kernel
  have hstable : device.IsStable := by
    refine ⟨by decide +kernel, by simp [device], fun delay hdelay => ?_⟩
    obtain rfl : 2.5e-6 = delay := Option.some.inj hdelay
    decide +kernel
  have htimes : ∀ entry ∈ timelines.entries, ∀ event ∈ entry.2, Json.IsStable event.time := by decide +kernel
  obtain ⟨hdevices, htimelines⟩ := compileInputs_readBack .indented
  exact ⟨hvalid, hstable, hdevices device hvalid hstable, htimes, htimelines timelines htimes⟩

end Pseudoclock
