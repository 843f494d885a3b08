import Pseudoclock.CommandLine.Arguments
import Pseudoclock.CommandLine.Script
import Pseudoclock.Format.Timeline
import Pseudoclock.Format.Trace
import Pseudoclock.Session

/-!
The commands. `compile` writes a dataset only if every table compiles. `decode` shows or writes the
traces of all tables that replay, and fails if some do not. `edges` shows the rising edges of a
clock trace.
-/

namespace Pseudoclock.CommandLine

inductive Task where
  | loadDevice (path : String)
  | read (path : String)
  | parseEvents (path : String)
  | compile (device : String)
  | write (path : String)
  | readProgram (path : String)
  | parseReference (path : String)
  | replay (device : String)
  | replayTables (failed : Nat)
deriving DecidableEq, Repr

def Task.message : Task → String
  | .loadDevice path => s!"Failed to load device configuration {path}"
  | .read path => s!"Failed to read {path}"
  | .parseEvents path => s!"Failed to parse events file {path}"
  | .compile device => s!"Failed to compile device '{device}'"
  | .write path => s!"Failed to write {path}"
  | .readProgram path => s!"Failed to read program {path}"
  | .parseReference path => s!"Failed to parse reference trace {path}"
  | .replay device => s!"Failed to replay device '{device}'"
  | .replayTables failed => s!"{failed} tables could not be replayed"

inductive Cause where
  | file (fault : FileFault)
  | error (error : Error)
deriving DecidableEq

structure Failure where
  task : Task
  cause : Cause
deriving DecidableEq

/-- What is reported of a failure. `describe` words the errors. -/
def Failure.report (failure : Failure) (describe : Error → String) : String :=
  let cause := match failure.cause with
    | .file fault => fault.message
    | .error error => describe error
  s!"error: {failure.task.message}\n  caused by: {cause}\n"

/-- A script that may fail. -/
abbrev Action := ExceptT Failure Script

namespace Action

variable {α : Type}

def attempt (task : Task) (result : Except Error α) : Action α :=
  match result with
  | .ok value => pure value
  | .error error => throw ⟨task, .error error⟩

def readFile (task : Task) (path : String) : Action String := do
  match ← Script.readFile path with
  | .ok text => return text
  | .error fault => throw ⟨task, .file fault⟩

def writeFile (path text : String) : Action Unit := do
  match ← Script.writeFile path text with
  | .ok () => return ()
  | .error fault => throw ⟨.write path, .file fault⟩

end Action

def loadDevice (path : String) : Action Device := do
  let text ← Action.readFile (.loadDevice path) path
  Action.attempt (.loadDevice path) (Device.ofText text)

def loadTimelines (path : String) : Action (OrderedMap Timeline) := do
  let text ← Action.readFile (.read path) path
  Action.attempt (.parseEvents path) ((Json.decode Timeline.mapOfJson text).mapError .unreadable)

def loadDataset (path : String) : Action Dataset := do
  let text ← Action.readFile (.readProgram path) path
  Action.attempt (.readProgram path) (Dataset.ofText text)

def loadReference (path : String) : Action ClockTrace := do
  let text ← Action.readFile (.read path) path
  Action.attempt (.parseReference path) ((Json.decode ClockTrace.ofJson text).mapError .unreadable)

def report (level : Log.Level) (message : String) : Action Unit :=
  Script.record [⟨level, .tool, message⟩]

def runCompile (diagnostics : Bool) (device events output : String) : Action Unit := do
  let description ← loadDevice device
  let timelines ← loadTimelines events
  Script.record (description.compileRecords timelines diagnostics)
  let dataset ← Action.attempt (.compile description.name) (description.compile timelines)
  Action.writeFile output dataset.toText
  report .info s!"wrote {dataset.tables.entries.length} tables to {output}"

def deliver (output : Option String) (text : String) : Action Unit :=
  match output with
  | some path => Action.writeFile path text
  | none => Script.display (text ++ "\n")

def runDecode (diagnostics : Bool) (device program : String) (reference output : Option String) :
    Action Unit := do
  let description ← loadDevice device
  let dataset ← loadDataset program
  let reference ← reference.mapM loadReference
  let replayed ← Action.attempt (.replay description.name) (description.replay dataset reference)
  Script.record (replayed.records diagnostics)
  deliver output ((tracesToJson (OrderedMap.ofEntries replayed.traces)).text .indented)
  match replayed.failures with
  | [] => return ()
  | (_, error) :: _ =>
    let names := ", ".intercalate (replayed.failures.map (·.1))
    report .warn s!"tables without traces: {names}"
    throw ⟨.replayTables replayed.failures.length, .error error⟩

def runEdges (path : String) : Action Unit := do
  let reference ← loadReference path
  let edges := reference.risingEdges
  if edges.isEmpty then
    report .warn s!"{path} contains no rising edges"
  Script.display ((Json.Value.array (edges.map .float)).text .indented ++ "\n")

def Command.run (diagnostics : Bool) : Command → Action Unit
  | .compile device events output => runCompile diagnostics device events output
  | .decode device program reference output =>
    runDecode diagnostics device program reference output
  | .edges reference => runEdges reference

structure Environment where
  /-- A filter text for log records. -/
  logFilter : Option String := none
  /-- A device for commands that are not given one. -/
  device : Option String := none

/-- The filter of an invocation, to which the environment adds, and complaints about what it
adds. -/
def filterOf (threshold : Threshold) (environment : Environment) : LogFilter × List String :=
  let filter := LogFilter.ofThreshold threshold
  match environment.logFilter with
  | some text => filter.addText text
  | none => (filter, [])

def complaint (fault : String) : String :=
  s!"warning: {fault}, ignoring it\n"

def versionText : String := "pulseprog 0.4.0\n"

def usageText : String :=
  "Usage: pulseprog [--log-level LEVEL] [--diagnostics] COMMAND\n\n"
    ++ "Commands:\n"
    ++ "  compile -d DEVICE -e EVENTS -o OUTPUT\n"
    ++ "  decode -d DEVICE -p PROGRAM [-r REFERENCE] [-o OUTPUT]\n"
    ++ "  edges -r REFERENCE\n"

structure Outcome where
  exitCode : Nat
  printed : String
  reported : String
  files : FileSystem

/-- What is shown of a notice: all of a text, and the line of a record that a filter admits. -/
def Notice.shown (filter : LogFilter) : Notice → String
  | .record entry => if filter.admits entry then LogFilter.line entry ++ "\n" else ""
  | .text characters => characters

def shown (filter : LogFilter) (notices : List Notice) : String :=
  String.join (notices.map (·.shown filter))

/-- Runs the command line on files that are a value. -/
def runOn (files : FileSystem) (environment : Environment) (describe : Error → String)
    (arguments : List String) : Outcome :=
  match Invocation.ofArguments arguments environment.device with
  | .error .usage => ⟨2, "", usageText, files⟩
  | .error .help => ⟨0, usageText, "", files⟩
  | .error .version => ⟨0, versionText, "", files⟩
  | .ok invocation =>
    let (filter, faults) := filterOf invocation.threshold environment
    let (result, world) := (invocation.command.run invocation.diagnostics).run.runOn { files }
    let reported := String.join (faults.map complaint) ++ shown filter world.notices
    match result with
    | .ok () => ⟨0, world.printed, reported, world.files⟩
    | .error failure => ⟨1, world.printed, reported ++ failure.report describe, world.files⟩

end Pseudoclock.CommandLine
