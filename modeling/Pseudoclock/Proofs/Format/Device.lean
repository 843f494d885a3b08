import Mathlib
import Pseudoclock.Format.Device
import Pseudoclock.Proofs.Device.Validity
import Pseudoclock.Proofs.Json.Decoding
import Pseudoclock.Proofs.Layout.Unpacking

/-!
Descriptions of devices survive their file format if their numbers are stable.
-/

namespace Pseudoclock

open Json (Decoder IsStable Reading Value)

namespace Capabilities

theorem ofJson_toJson {capabilities : Capabilities} (hstable : IsStable capabilities.clockResolution) :
    ofJson capabilities.toJson.reading = .ok capabilities := by
  rw [ofJson, toJson, Json.Record.ofReading_object (by simp) (by simp)]
  change (Json.Decode.float (Value.float capabilities.clockResolution).reading >>= fun clockResolution =>
    Json.Decode.uint64 (Value.natural capabilities.maxInstructions.toNat).reading >>= fun maxInstructions =>
      Json.Decode.uint32 (Value.natural capabilities.minPeriod.toNat).reading >>= fun minPeriod =>
        (.ok ⟨clockResolution, maxInstructions, minPeriod⟩ : Except DocumentFault Capabilities)) = _
  rw [Json.Decode.float_of_isStable hstable, Json.Decode.uint64_toNat, Json.Decode.uint32_toNat]
  rfl

end Capabilities

namespace DelaySettings

private theorem decode_delayToJson {delay : Option Float} (hstable : ∀ x ∈ delay, IsStable x) :
    Json.Decode.nullable Json.Decode.float (delayToJson delay).reading = .ok delay := by
  cases delay with
  | none => rfl
  | some x =>
    have hread := Json.Decode.float_of_isStable (hstable x rfl)
    rw [Value.reading, if_pos (hstable x rfl).isFinite] at hread
    rw [delayToJson, Value.reading, if_pos (hstable x rfl).isFinite]
    change (Json.Decode.float (.number _) >>= fun x => .ok (some x)) = _
    rw [hread]
    rfl

theorem ofJson_toJson {delays : DelaySettings} (htrigger : ∀ x ∈ delays.triggerDelay, IsStable x)
    (hwait : ∀ x ∈ delays.waitDelay, IsStable x) : ofJson delays.toJson.reading = .ok delays := by
  rw [ofJson, toJson, Json.Record.ofReading_object (by simp) (by simp)]
  change (Json.Decode.nullable Json.Decode.float (delayToJson delays.triggerDelay).reading >>= fun triggerDelay =>
    Json.Decode.nullable Json.Decode.float (delayToJson delays.waitDelay).reading >>= fun waitDelay =>
      (.ok ⟨triggerDelay, waitDelay⟩ : Except DocumentFault DelaySettings)) = _
  rw [decode_delayToJson htrigger, decode_delayToJson hwait]
  rfl

end DelaySettings

theorem ByteOrder.ofJson_toJson (order : ByteOrder) (wasKept : Bool) :
    ofJson wasKept order.toJson.reading = .ok order := by
  cases order <;> rfl

namespace Layout

variable {layout : Layout}

/-- A layout can be kept until the kind of its device is known. -/
theorem isKept_toJson (hchannels : layout.channels < UInt64.size) {depth : Nat} (hdepth : depth ≠ 0) :
    layout.toJson.reading.isKept depth = true := by
  have hwordBits : layout.wordBits.toNat < UInt64.size := lt_trans layout.wordBits.toNat_lt (by decide)
  simp [toJson, ByteOrder.toJson, Value.reading, Reading.isKept, Json.fieldsKept, hdepth,
    Json.isSome_toFloat?_ofNat hchannels, Json.isSome_toFloat?_ofNat hwordBits]

theorem ofJson_toJson (hchannels : layout.channels < UInt64.size) (wasKept : Bool) :
    ofJson wasKept layout.toJson.reading = .ok layout := by
  rw [ofJson, toJson, Json.Record.ofReading_object (by simp) (by simp)]
  change (Json.Decode.natural (UInt64.size - 1) (.number (Json.Numeral.ofNat layout.channels)) >>= fun channels =>
    Json.Decode.uint32 (Value.natural layout.wordBits.toNat).reading >>= fun wordBits =>
      ByteOrder.ofJson wasKept layout.byteOrder.toJson.reading >>= fun byteOrder =>
        (.ok ⟨channels, wordBits, byteOrder⟩ : Except DocumentFault Layout)) = _
  rw [Json.Decode.natural_ofNat (by omega), Json.Decode.uint32_toNat, ByteOrder.ofJson_toJson]
  rfl

end Layout

namespace Variant

private theorem isKept_names (names : List String) {depth : Nat} (hdepth : depth ≠ 0) :
    (Value.array (names.map .string)).reading.isKept depth = true := by
  simp [Value.reading, Reading.isKept, hdepth]

/-- What remains to be read behind the kind. -/
private theorem ofJson_object {kind : String} {fields : List (String × Value)}
    (hkind : ∀ field ∈ fields, field.1 ≠ "kind")
    (hkept : (Value.object (("kind", .string kind) :: fields)).reading.isKept (Json.greatestDepth - 1) = true) :
    ofJson 1 (Value.object (("kind", .string kind) :: fields)).reading =
      ofKind (.string (some kind)) fun known =>
        Json.Record.ofNamed known (fields.map fun field => (field.1, field.2.reading)) := by
  have hother : ∀ part ∈ fields.map fun field => (field.1, field.2.reading), ¬part.1 = "kind" := by
    intro part hpart
    obtain ⟨field, hfield, rfl⟩ := List.mem_map.mp hpart
    exact hkind field hfield
  have hparts : ((("kind", .string kind) :: fields).map fun field => (field.1, field.2.reading)).partition
      (·.1 == "kind") = ([("kind", .string (some kind))], fields.map fun field => (field.1, field.2.reading)) := by
    rw [List.partition_eq_filter_filter, List.map_cons, List.filter_cons_of_pos rfl,
      List.filter_cons_of_neg (by simp), List.filter_eq_nil_iff.mpr (by simpa using hother),
      List.filter_eq_self.mpr (by simpa using hother)]
    rfl
  rw [Value.reading] at hkept ⊢
  rw [ofJson, if_pos hkept, Json.Record.mapM_named]
  simp only [bind, Except.bind, hparts]

theorem ofJson_toggle (pseudoclocks : List String) :
    ofJson 1 (toJson (.toggle pseudoclocks)).reading = .ok (.toggle pseudoclocks) := by
  have hkept : (toJson (.toggle pseudoclocks)).reading.isKept (Json.greatestDepth - 1) = true := by
    have hnames := @isKept_names pseudoclocks 125 (by decide)
    simp [toJson, Value.reading, Reading.isKept, Json.fieldsKept, Json.greatestDepth] at hnames ⊢
  rw [toJson] at hkept ⊢
  rw [ofJson_object (by simp) hkept]
  change (Json.Record.ofNamed ["pseudoclocks"] _ >>= fun record =>
    record.required "pseudoclocks" (Json.Decode.list Json.Decode.string) >>= fun names =>
      (.ok (.toggle names) : Except DocumentFault Variant)) = _
  rw [Json.Record.ofNamed_of_known (by simp) (by simp)]
  change (Json.Decode.list Json.Decode.string (Value.array (pseudoclocks.map .string)).reading >>= fun names =>
    (.ok (.toggle names) : Except DocumentFault Variant)) = _
  rw [Json.Decode.list_string]
  rfl

theorem ofJson_snapshot (table : String) {layout : Layout} (hchannels : layout.channels < UInt64.size)
    (channelNames : List String) :
    ofJson 1 (toJson (.snapshot table layout channelNames)).reading = .ok (.snapshot table layout channelNames) := by
  have hkept : (toJson (.snapshot table layout channelNames)).reading.isKept (Json.greatestDepth - 1) = true := by
    have hlayout := @Layout.isKept_toJson layout hchannels 125 (by decide)
    have hnames := @isKept_names channelNames 125 (by decide)
    simp only [toJson, Value.reading, Json.fieldReadings, Reading.isKept, Json.fieldsKept, Json.greatestDepth] at *
    simp_all
  rw [toJson] at hkept ⊢
  rw [ofJson_object (by simp) hkept]
  change (Json.Record.ofNamed ["table", "layout", "channel_names"] _ >>= fun record =>
    record.optional "table" "pulse_program" Json.Decode.string >>= fun table =>
      record.required "layout" (Layout.ofJson true) >>= fun layout =>
        record.optional "channel_names" [] (Json.Decode.list Json.Decode.string) >>= fun channelNames =>
          (.ok (.snapshot table layout channelNames) : Except DocumentFault Variant)) = _
  rw [Json.Record.ofNamed_of_known (by simp) (by simp)]
  change (Layout.ofJson true layout.toJson.reading >>= fun layout =>
    Json.Decode.list Json.Decode.string (Value.array (channelNames.map .string)).reading >>= fun channelNames =>
      (.ok (.snapshot table layout channelNames) : Except DocumentFault Variant)) = _
  rw [Layout.ofJson_toJson hchannels, Json.Decode.list_string]
  rfl

end Variant

namespace Device

variable {device : Device}

/-- All numbers of a description that may have a fraction come back from their literals. -/
structure IsStable (device : Device) : Prop where
  clockResolution : Json.IsStable device.capabilities.clockResolution
  triggerDelay : ∀ delay ∈ device.delays.triggerDelay, Json.IsStable delay
  waitDelay : ∀ delay ∈ device.delays.waitDelay, Json.IsStable delay

/-- No layout without contradictions has more channels than a count can have. -/
private theorem ofJson_variant (hvalid : device.validate = .ok ()) :
    Variant.ofJson 1 device.variant.toJson.reading = .ok device.variant := by
  obtain ⟨_, _, _, hvariant⟩ := (validate_eq_ok_iff device).mp hvalid
  cases hkind : device.variant with
  | toggle pseudoclocks => exact Variant.ofJson_toggle pseudoclocks
  | snapshot table layout channelNames =>
    rw [hkind] at hvariant
    obtain ⟨_, _, hchannels⟩ := Layout.validate_eq_ok_iff.mp (checkVariant_snapshot_eq_ok hvariant).1
    have hwordBits : layout.wordBits.toNat < UInt64.size := lt_trans layout.wordBits.toNat_lt (by decide)
    exact Variant.ofJson_snapshot table (lt_of_le_of_lt hchannels hwordBits) channelNames

/-- A description without contradictions is read back from either form of its text. -/
theorem ofText_text (hvalid : device.validate = .ok ()) (hstable : device.IsStable) (spacing : Json.Spacing) :
    ofText (device.toJson.text spacing) = .ok device := by
  have hread : ofJson device.toJson.reading = .ok device := by
    rw [ofJson, toJson, Json.Record.ofReading_object (by simp) (by simp)]
    change (Capabilities.ofJson device.capabilities.toJson.reading >>= fun capabilities =>
      DelaySettings.ofJson device.delays.toJson.reading >>= fun delays =>
        Variant.ofJson 1 device.variant.toJson.reading >>= fun variant =>
          (.ok ⟨device.name, capabilities, delays, variant⟩ : Except DocumentFault Device)) = _
    rw [Capabilities.ofJson_toJson hstable.clockResolution,
      DelaySettings.ofJson_toJson hstable.triggerDelay hstable.waitDelay, ofJson_variant hvalid]
    rfl
  rw [ofText, ofRawText, Json.decode_text ofJson, hread]
  change (device.validate >>= fun _ => .ok device) = _
  rw [hvalid]
  rfl

end Device

end Pseudoclock
