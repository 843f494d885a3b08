import Pseudoclock.Device
import Pseudoclock.Json.Decoder
import Pseudoclock.Json.Value

/-!
Documents that describe devices. What a device executes is an object whose field `kind` tells which
other fields it has.
-/

namespace Pseudoclock

open Json (Decoder Value)

namespace Calibration

def toJson (calibration : Calibration) : Value :=
  .object [("clock_resolution", .float calibration.clockResolution),
    ("trigger_delay", .float calibration.triggerDelay),
    ("wait_delay", .float calibration.waitDelay)]

def ofJson : Decoder Calibration := fun r => do
  let record ← Json.Record.ofReading ["clock_resolution", "trigger_delay", "wait_delay"] r
  let clockResolution ← record.required "clock_resolution" Json.Decode.float
  let triggerDelay ← record.required "trigger_delay" Json.Decode.float
  let waitDelay ← record.required "wait_delay" Json.Decode.float
  return ⟨clockResolution, triggerDelay, waitDelay⟩

end Calibration

namespace Capabilities

def toJson (capabilities : Capabilities) : Value :=
  .object [("clock_resolution", .float capabilities.clockResolution),
    ("max_instructions", .natural capabilities.maxInstructions.toNat),
    ("min_period", .natural capabilities.minPeriod.toNat)]

/-- Reads capabilities; a period of one is short enough unless another one is given. -/
def ofJson : Decoder Capabilities := fun r => do
  let record ← Json.Record.ofReading ["clock_resolution", "max_instructions", "min_period"] r
  let clockResolution ← record.required "clock_resolution" Json.Decode.float
  let maxInstructions ← record.required "max_instructions" Json.Decode.uint64
  let minPeriod ← record.optional "min_period" 1 Json.Decode.uint32
  return ⟨clockResolution, maxInstructions, minPeriod⟩

end Capabilities

namespace DelaySettings

def delayToJson : Option Float → Value
  | none => .null
  | some delay => .float delay

def toJson (delays : DelaySettings) : Value :=
  .object [("trigger_delay", delayToJson delays.triggerDelay),
    ("wait_delay", delayToJson delays.waitDelay)]

def ofJson : Decoder DelaySettings := fun r => do
  let record ← Json.Record.ofReading ["trigger_delay", "wait_delay"] r
  let triggerDelay ← record.optional "trigger_delay" none (Json.Decode.nullable Json.Decode.float)
  let waitDelay ← record.optional "wait_delay" none (Json.Decode.nullable Json.Decode.float)
  return ⟨triggerDelay, waitDelay⟩

end DelaySettings

namespace ByteOrder

def name : ByteOrder → String
  | .big => "big"
  | .little => "little"

def ofName : String → Except DocumentFault ByteOrder
  | "big" => .ok .big
  | "little" => .ok .little
  | _ => Json.malformed

def toJson (order : ByteOrder) : Value :=
  .string order.name

/-- Reads a byte order, which may also be the only name of an object that holds nothing under it.
In a part that was kept, an empty object counts as nothing too. -/
def ofJson (wasKept : Bool) : Decoder ByteOrder
  | .string (some name) => ofName name
  | .object [(some name, .null)] => ofName name
  | .object [(some name, .object [])] => if wasKept then ofName name else Json.malformed
  | _ => Json.malformed

end ByteOrder

namespace Layout

def toJson (layout : Layout) : Value :=
  .object [("channels", .natural layout.channels), ("word_bits", .natural layout.wordBits.toNat),
    ("byte_order", layout.byteOrder.toJson)]

/-- Reads a layout; the most significant byte comes first unless told otherwise. -/
def ofJson (wasKept : Bool) : Decoder Layout := fun r => do
  let record ← Json.Record.ofReading ["channels", "word_bits", "byte_order"] r
  let channels ← record.required "channels" Json.Decode.count
  let wordBits ← record.required "word_bits" Json.Decode.uint32
  let byteOrder ← record.optional "byte_order" .big (ByteOrder.ofJson wasKept)
  return ⟨channels, wordBits, byteOrder⟩

end Layout

namespace Variant

def toJson : Variant → Value
  | .toggle pseudoclocks =>
    .object [("kind", .string "toggle"), ("pseudoclocks", .array (pseudoclocks.map .string))]
  | .snapshot table layout channelNames =>
    .object [("kind", .string "snapshot"), ("table", .string table), ("layout", layout.toJson),
      ("channel_names", .array (channelNames.map .string))]

def toggleOfRecord (record : List String → Except DocumentFault Json.Record) :
    Except DocumentFault Variant := do
  let record ← record ["pseudoclocks"]
  let pseudoclocks ← record.required "pseudoclocks" (Json.Decode.list Json.Decode.string)
  return .toggle pseudoclocks

def snapshotOfRecord (record : List String → Except DocumentFault Json.Record) :
    Except DocumentFault Variant := do
  let record ← record ["table", "layout", "channel_names"]
  let table ← record.optional "table" "pulse_program" Json.Decode.string
  let layout ← record.required "layout" (Layout.ofJson true)
  let channelNames ← record.optional "channel_names" [] (Json.Decode.list Json.Decode.string)
  return .snapshot table layout channelNames

def ofKind (kind : Json.Reading) (record : List String → Except DocumentFault Json.Record) :
    Except DocumentFault Variant :=
  match kind with
  | .string (some "toggle") => toggleOfRecord record
  | .string (some "snapshot") => snapshotOfRecord record
  | _ => Json.malformed

/-- Reads what a device executes from a part that is nested in `enclosing` lists and objects. The
fields are kept until the kind is known, so that all of them must be fit to be kept. A list has the
kind in front. -/
def ofJson (enclosing : Nat) : Decoder Variant := fun r =>
  if r.isKept (Json.greatestDepth - enclosing) then
    match r with
    | .object fields => do
      let (kinds, others) := (← fields.mapM Json.Record.named).partition (·.1 == "kind")
      match kinds with
      | [(_, kind)] => ofKind kind fun known => Json.Record.ofNamed known others
      | _ => Json.malformed
    | .array (kind :: items) => ofKind kind fun known => Json.Record.ofItems known items
    | _ => Json.malformed
  else Json.malformed

end Variant

namespace Device

def toJson (device : Device) : Value :=
  .object [("name", .string device.name), ("capabilities", device.capabilities.toJson),
    ("calibration", device.delays.toJson), ("variant", device.variant.toJson)]

def ofJson : Decoder Device := fun r => do
  let record ← Json.Record.ofReading ["name", "capabilities", "calibration", "variant"] r
  let name ← record.required "name" Json.Decode.string
  let capabilities ← record.required "capabilities" Capabilities.ofJson
  let delays ← record.optional "calibration" (DelaySettings.mk none none) DelaySettings.ofJson
  let variant ← record.required "variant" (Variant.ofJson 1)
  return ⟨name, capabilities, delays, variant⟩

/-- Reads a device from its text, without a look at what it says. -/
def ofRawText (text : String) : Except Error Device :=
  (Json.decode ofJson text).mapError .unreadable

/-- Reads a device without contradictions from its text. -/
def ofText (text : String) : Except Error Device := do
  let device ← ofRawText text
  device.validate
  return device

end Device

end Pseudoclock
