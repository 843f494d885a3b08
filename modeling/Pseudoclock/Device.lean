import Pseudoclock.Calibration
import Pseudoclock.Layout

/-!
Descriptions of devices. The delays may be left out for devices that are only compiled for; a
replay asks for them.
-/

namespace Pseudoclock

structure DelaySettings where
  triggerDelay : Option Float := none
  waitDelay : Option Float := none
deriving DecidableEq

inductive Variant where
  /-- Independent clock lines with a toggle table each. -/
  | toggle (pseudoclocks : List String)
  /-- A bank of outputs with one table of packed words. No channel names stand for default ones. -/
  | snapshot (table : String) (layout : Layout) (channelNames : List String)
deriving DecidableEq

structure Device where
  name : String
  capabilities : Capabilities
  delays : DelaySettings
  variant : Variant
deriving DecidableEq

namespace Device

/-- Refuses names that are empty or that stand in the list or in `seen` before. -/
def checkNames (device : String) (seen : List String) : List String → Except Error Unit
  | [] => .ok ()
  | name :: rest =>
    if name.isEmpty then .error (.invalidDevice (.emptyChannelName device))
    else if name ∈ seen then .error (.invalidDevice (.repeatedChannelName device name))
    else checkNames device (name :: seen) rest

def checkDelay (device : String) (which : Delay) : Option Float → Except Error Unit
  | none => .ok ()
  | some delay =>
    if isUsableDelay delay then .ok ()
    else .error (.unsupportedCalibration (.deviceDelay device which delay))

def checkVariant (device : String) : Variant → Except Error Unit
  | .toggle pseudoclocks =>
    if pseudoclocks.isEmpty then .error (.invalidDevice (.noPseudoclocks device))
    else checkNames device [] pseudoclocks
  | .snapshot table layout channelNames => do
    if table.isEmpty then
      throw (.invalidDevice (.emptyTableName device))
    layout.validate
    if !channelNames.isEmpty && channelNames.length != layout.channels then
      throw (.invalidLayout (.nameCount device channelNames.length layout.channels))
    checkNames device [] channelNames

/-- The first contradiction in a description. -/
def validate (device : Device) : Except Error Unit := do
  device.capabilities.validate
  checkDelay device.name .trigger device.delays.triggerDelay
  checkDelay device.name .wait device.delays.waitDelay
  checkVariant device.name device.variant

def requireDelay (device : Device) (which : Delay) : Option Float → Except Error Float
  | some delay => .ok delay
  | none => .error (.unsupportedCalibration (.missingDelay device.name which))

def calibration (device : Device) : Except Error Calibration := do
  let triggerDelay ← device.requireDelay .trigger device.delays.triggerDelay
  let waitDelay ← device.requireDelay .wait device.delays.waitDelay
  Calibration.ofConstants device.capabilities.clockResolution triggerDelay waitDelay

def channelNames (device : Device) : List String :=
  match device.variant with
  | .toggle pseudoclocks => pseudoclocks
  | .snapshot _ layout channelNames =>
    if channelNames.isEmpty then
      (List.range layout.channels).map fun channel => s!"channel{channel}"
    else channelNames

def tableNames (device : Device) : List String :=
  match device.variant with
  | .toggle pseudoclocks => pseudoclocks
  | .snapshot table _ _ => [table]

end Device

end Pseudoclock
