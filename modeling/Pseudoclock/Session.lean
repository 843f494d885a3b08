import Pseudoclock.Device.Compile
import Pseudoclock.Device.Replay
import Pseudoclock.Format.Dataset
import Pseudoclock.Format.Device

/-!
Sessions: work on one device, its timelines, a dataset, a reference clock and the traces that were
reconstructed so far. A step that is refused leaves the session as it was.
-/

namespace Pseudoclock

structure Session where
  device : Option Device := none
  timelines : OrderedMap Timeline := OrderedMap.empty
  dataset : Option Dataset := none
  reference : Option ClockTrace := none
  traces : OrderedMap (Trace UInt8) := OrderedMap.empty
  /-- Whether diagnostic records are made. -/
  diagnostics : Bool := false

namespace Session

inductive Refusal where
  | noDevice
  | noDataset
  | noChannel
  | failed (error : Error)
deriving DecidableEq

abbrev Outcome := Except Refusal

def requireDevice (session : Session) : Outcome Device :=
  match session.device with
  | some device => .ok device
  | none => .error .noDevice

def requireDataset (session : Session) : Outcome Dataset :=
  match session.dataset with
  | some dataset => .ok dataset
  | none => .error .noDataset

def loadDevice (session : Session) (text : String) : Outcome Session := do
  let device ← (Device.ofText text).mapError .failed
  return { session with device := some device }

/-- Changes the device, without a look at what it becomes. -/
def modifyDevice (session : Session) (change : Device → Device) : Outcome Session := do
  let device ← session.requireDevice
  return { session with device := some (change device) }

def setTimeline (session : Session) (name : String) (timeline : Timeline) : Session :=
  { session with timelines := session.timelines.insert name timeline }

def push (session : Session) (name : String) (event : Event) : Session :=
  session.setTimeline name ((session.timelines.get? name).getD [] ++ [event])

def dropTimeline (session : Session) (name : String) : Session :=
  { session with timelines := session.timelines.erase name }

/-- Compiles the timelines; the new dataset takes the place of the old one. -/
def compile (session : Session) : Outcome (Session × Dataset) := do
  let device ← session.requireDevice
  let dataset ← (device.compile session.timelines).mapError .failed
  return ({ session with dataset := some dataset }, dataset)

def compileRecords (session : Session) : List Log.Record :=
  match session.device with
  | some device => device.compileRecords session.timelines session.diagnostics
  | none => []

def newDataset (session : Session) (device : String) : Session :=
  { session with dataset := some (Dataset.empty device) }

def loadDataset (session : Session) (text : String) : Outcome Session := do
  let dataset ← (Dataset.ofText text).mapError .failed
  return { session with dataset := some dataset }

def setTable (session : Session) (name text : String) : Outcome (Session × Dataset) := do
  let table ← (Json.decode (Table.ofJson 0) text).mapError (.failed ∘ .unreadable)
  let dataset ← session.requireDataset
  let changed := { dataset with tables := dataset.tables.insert name table }
  return ({ session with dataset := some changed }, changed)

/-- Takes a table out of the dataset. Returns also whether it was there. -/
def dropTable (session : Session) (name : String) : Outcome (Session × Bool) := do
  let dataset ← session.requireDataset
  let changed := { dataset with tables := dataset.tables.erase name }
  return ({ session with dataset := some changed }, dataset.tables.names.contains name)

def table (session : Session) (name : String) : Outcome Table := do
  let dataset ← session.requireDataset
  (dataset.table name).mapError .failed

def setReference (session : Session) (times : List Float) (levels : List UInt8) :
    Outcome (Session × ClockTrace) := do
  let reference ← (ClockTrace.ofColumns times levels).mapError .failed
  return ({ session with reference := some reference }, reference)

def clearReference (session : Session) : Session :=
  { session with reference := none }

/-- Makes a reconstructed trace the reference clock. -/
def setReferenceFrom (session : Session) (channel : String) : Outcome (Session × ClockTrace) :=
  match session.traces.get? channel with
  | some trace => session.setReference trace.times trace.values
  | none => .error .noChannel

/-- Replays the dataset. Its traces are put to those of earlier replays. -/
def replay (session : Session) : Outcome (Session × Report) := do
  let device ← session.requireDevice
  let dataset ← session.requireDataset
  let report ← (device.replay dataset session.reference).mapError .failed
  return ({ session with traces := session.traces.insertAll report.traces }, report)

/-- The records of a replay. None are made without a report. -/
def replayRecords (session : Session) : List Log.Record :=
  match session.replay with
  | .ok (_, report) => report.records session.diagnostics
  | .error _ => []

def clearTraces (session : Session) : Session :=
  { session with traces := OrderedMap.empty }

def setDiagnostics (session : Session) (isOn : Bool) : Session :=
  { session with diagnostics := isOn }

/-- What can be asked of a session. -/
inductive Step where
  | loadDevice (text : String)
  | setDelays (delays : DelaySettings)
  | setCapabilities (capabilities : Capabilities)
  | rename (name : String)
  | setTimeline (name : String) (timeline : Timeline)
  | push (name : String) (event : Event)
  | dropTimeline (name : String)
  | compile
  | newDataset (device : String)
  | loadDataset (text : String)
  | setTable (name text : String)
  | dropTable (name : String)
  | setReference (times : List Float) (levels : List UInt8)
  | setReferenceFrom (channel : String)
  | clearReference
  | replay
  | clearTraces
  | setDiagnostics (isOn : Bool)

/-- What a step gives beside the session after it. -/
inductive Answer where
  | done
  /-- Whether there was anything under the name. -/
  | dropped (wasThere : Bool)
  | dataset (dataset : Dataset)
  | reference (clock : ClockTrace)
  | report (report : Report)

/-- The session after a step, and its answer. -/
def perform (session : Session) : Step → Outcome (Session × Answer)
  | .loadDevice text => return (← session.loadDevice text, .done)
  | .setDelays delays =>
    return (← session.modifyDevice fun device => { device with delays }, .done)
  | .setCapabilities capabilities =>
    return (← session.modifyDevice fun device => { device with capabilities }, .done)
  | .rename name => return (← session.modifyDevice fun device => { device with name }, .done)
  | .setTimeline name timeline => return (session.setTimeline name timeline, .done)
  | .push name event => return (session.push name event, .done)
  | .dropTimeline name =>
    return (session.dropTimeline name, .dropped (session.timelines.names.contains name))
  | .compile => return (← session.compile).map id .dataset
  | .newDataset device => return (session.newDataset device, .done)
  | .loadDataset text => return (← session.loadDataset text, .done)
  | .setTable name text => return (← session.setTable name text).map id .dataset
  | .dropTable name => return (← session.dropTable name).map id .dropped
  | .setReference times levels => return (← session.setReference times levels).map id .reference
  | .setReferenceFrom channel => return (← session.setReferenceFrom channel).map id .reference
  | .clearReference => return (session.clearReference, .done)
  | .replay => return (← session.replay).map id .report
  | .clearTraces => return (session.clearTraces, .done)
  | .setDiagnostics isOn => return (session.setDiagnostics isOn, .done)

/-- The records that a step makes, also if it is refused. -/
def records (session : Session) : Step → List Log.Record
  | .compile => session.compileRecords
  | .replay => session.replayRecords
  | _ => []

/-- The session after a step, which is the same one if the step is refused. -/
def after (session : Session) (step : Step) : Session :=
  match session.perform step with
  | .ok (next, _) => next
  | .error _ => session

def run (session : Session) (steps : List Step) : Session :=
  steps.foldl after session

/-- What steps answer, or what they are refused for, one after the other. -/
def answers (session : Session) : List Step → List (Outcome Answer)
  | [] => []
  | step :: rest => (session.perform step).map (·.2) :: (session.after step).answers rest

end Session

end Pseudoclock
