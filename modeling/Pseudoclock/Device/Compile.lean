import Pseudoclock.Dataset
import Pseudoclock.Device
import Pseudoclock.Timeline.ClockLine
import Pseudoclock.Timeline.OutputBank

/-!
Compilation of all tables of a device. Either every table compiles and fits into memory, or there is
no dataset; a table without a timeline is compiled from the empty one.
-/

namespace Pseudoclock.Device

def compileTable (device : Device) (timeline : Timeline) : Except Error Table :=
  match device.variant with
  | .toggle _ =>
    return Table.ofToggleProgram (← timeline.compileToggle device.capabilities)
  | .snapshot _ layout _ =>
    return Table.ofSnapshotProgram (← timeline.compileSnapshot layout device.capabilities)

/-- The timeline under a name, or the empty one. -/
def timelineOf (timelines : OrderedMap Timeline) (name : String) : Timeline :=
  (timelines.get? name).getD []

/-- Refuses the first timeline that belongs to no table. -/
def checkTimelines (device : Device) (timelines : OrderedMap Timeline) : Except Error Unit :=
  match timelines.names.find? fun name => !device.tableNames.contains name with
  | some unknown => .error (.invalidTimeline (.unknownTable device.name unknown))
  | none => .ok ()

/-- What becomes of each of these tables, up to the first one that cannot be compiled. -/
def attempts (device : Device) (timelines : OrderedMap Timeline) :
    List String → List (String × Except Error Table)
  | [] => []
  | name :: rest =>
    match device.compileTable (timelineOf timelines name) with
    | .ok table => (name, .ok table) :: device.attempts timelines rest
    | .error error => [(name, .error error)]

def settled (attempt : String × Except Error Table) : Except Error (String × Table) :=
  attempt.2.map (attempt.1, ·)

def compile (device : Device) (timelines : OrderedMap Timeline) : Except Error Dataset := do
  device.validate
  device.checkTimelines timelines
  let tables ← (device.attempts timelines device.tableNames).mapM settled
  return ⟨device.name, OrderedMap.ofEntries tables⟩

def attemptRecords (device : Device) (timelines : OrderedMap Timeline) (diagnostics : Bool)
    (attempt : String × Except Error Table) : List Log.Record :=
  let (name, outcome) := attempt
  match outcome with
  | .ok table =>
    let timeline := timelineOf timelines name
    let bodyLength := table.length - stopLength
    match device.variant with
    | .toggle _ => timeline.toggleRecords bodyLength diagnostics
    | .snapshot .. => timeline.snapshotRecords bodyLength
  | .error error =>
    [⟨.warn, .device,
      s!"compiling table '{name}' of device '{device.name}' failed: {error.message}"⟩]

def datasetRecords (device : Device) (dataset : Dataset) : List Log.Record :=
  let instructions := dataset.tables.values.foldl (fun total table => total + table.length) 0
  [⟨.info, .device,
    s!"compiled {dataset.tables.entries.length} tables for device '{device.name}' "
      ++ s!"({instructions} instructions)"⟩]

/-- The records of a compilation. None are made before the first table is tried. -/
def compileRecords (device : Device) (timelines : OrderedMap Timeline) (diagnostics : Bool) :
    List Log.Record :=
  match device.validate, device.checkTimelines timelines with
  | .ok (), .ok () =>
    (device.attempts timelines device.tableNames).flatMap
        (device.attemptRecords timelines diagnostics)
      ++ match device.compile timelines with
        | .ok dataset => device.datasetRecords dataset
        | .error _ => []
  | _, _ => []

end Pseudoclock.Device
