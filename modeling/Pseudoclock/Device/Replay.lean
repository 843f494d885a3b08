import Pseudoclock.Dataset
import Pseudoclock.Device
import Pseudoclock.Replay.ClockLine
import Pseudoclock.Replay.OutputBank
import Pseudoclock.Trace.Clock

/-!
Replay of all tables of a device. A table that fails does not keep the others from being replayed:
the outcome of each table is its own, and the report, the traces and the records are read off the
outcomes.
-/

namespace Pseudoclock

/-- What the replay of one table gave: the traces of its channels, by name. -/
structure TableReplay where
  channels : List (String × Trace UInt8)
  usage : Usage
deriving DecidableEq

structure Report where
  device : Device
  /-- The device that the dataset says it was compiled for. -/
  datasetDevice : String
  outcomes : List (String × Except Error TableReplay)

namespace Device

/-- The replay of the table under a name. All channels are triggered by the same edges, and each
table reads them from the first one on. -/
def replayTable (device : Device) (dataset : Dataset) (calibration : Calibration)
    (triggers : Option (List Float)) (name : String) : Except Error TableReplay := do
  let table ← dataset.table name
  match device.variant with
  | .toggle _ =>
    let program ← table.toToggleProgram
    let replayed ← program.replayToggle calibration triggers
    return ⟨[(name, replayed.trace)], replayed.usage⟩
  | .snapshot _ layout _ =>
    let program ← table.toSnapshotProgram
    let replayed ← program.replaySnapshot calibration layout triggers
    return ⟨device.channelNames.zip (layout.demultiplex replayed.trace), replayed.usage⟩

/-- The replay of all tables of a device, triggered by the rising edges of a reference if there is
one. -/
def replay (device : Device) (dataset : Dataset) (reference : Option ClockTrace) :
    Except Error Report := do
  device.validate
  let calibration ← device.calibration
  let triggers := reference.map ClockTrace.risingEdges
  return ⟨device, dataset.device, device.tableNames.map fun name =>
    (name, device.replayTable dataset calibration triggers name)⟩

end Device

namespace Report

def decoded (report : Report) : List String :=
  report.outcomes.filterMap fun outcome =>
    match outcome.2 with
    | .ok _ => some outcome.1
    | .error _ => none

def failures (report : Report) : List (String × Error) :=
  report.outcomes.filterMap fun outcome =>
    match outcome.2 with
    | .ok _ => none
    | .error error => some (outcome.1, error)

def traces (report : Report) : List (String × Trace UInt8) :=
  report.outcomes.flatMap fun outcome =>
    match outcome.2 with
    | .ok replay => replay.channels
    | .error _ => []

def isSuccess (report : Report) : Bool :=
  report.failures.isEmpty

/-- The tables that were replayed, or the first failure. -/
def result (report : Report) : Except Error (List String) :=
  match report.failures with
  | [] => .ok report.decoded
  | (_, error) :: _ => .error error

def mismatchRecords (report : Report) : List Log.Record :=
  if report.datasetDevice = report.device.name then []
  else [⟨.warn, .device,
    s!"replaying a dataset of device '{report.datasetDevice}' with the configuration of device "
      ++ s!"'{report.device.name}'"⟩]

def outcomeRecords (report : Report) (diagnostics : Bool)
    (outcome : String × Except Error TableReplay) : List Log.Record :=
  match outcome with
  | (_, .ok replay) =>
    match report.device.variant with
    | .toggle _ => replay.usage.toggleRecords diagnostics
    | .snapshot .. => replay.usage.snapshotRecords diagnostics
  | (name, .error error) =>
    [⟨.warn, .device, s!"replay of table '{name}' failed: {error.message}"⟩]

def records (report : Report) (diagnostics : Bool) : List Log.Record :=
  report.mismatchRecords ++ report.outcomes.flatMap (report.outcomeRecords diagnostics)

end Report

end Pseudoclock
