import Pseudoclock.CommandLine.Run

/-!
The command line on real files. Requests of a script are carried out one by one; records that the
filter admits are shown as they are made.
-/

namespace Pseudoclock.CommandLine

/-- The number of a system error, which some calls give with a minus sign. -/
def errorNumber (code : UInt32) : UInt32 :=
  min code (-code)

def faultOf : IO.Error → FileFault
  | .noFileOrDirectory .. => .notFound
  | .inappropriateType _ code _ => if errorNumber code = 20 then .notDirectory else .isDirectory
  | .permissionDenied _ code _ =>
    if errorNumber code = 13 then .other "Permission denied (os error 13)"
    else .other "Operation not permitted (os error 1)"
  | .invalidArgument _ code _ =>
    if errorNumber code = 36 then .nameTooLong else .other "Invalid argument (os error 22)"
  | .resourceExhausted _ code text => if errorNumber code = 28 then .noSpace else .other text
  | error => .other (toString error)

def readReal (path : String) : IO (Except FileFault String) := do
  try
    match String.fromUTF8? (← IO.FS.readBinFile path) with
    | some characters => return .ok characters
    | none => return .error .notText
  catch error => return .error (faultOf error)

def writeReal (path text : String) : IO (Except FileFault Unit) := do
  try
    IO.FS.withFile path .write fun file => do
      file.putStr text
      file.flush
    return .ok ()
  catch error => return .error (faultOf error)

def Script.perform {α : Type} (filter : LogFilter) : Script α → IO α
  | done result => return result
  | read path next => do (next (← readReal path)).perform filter
  | write path text next => do (next (← writeReal path text)).perform filter
  | print text next => do
    IO.print text
    next.perform filter
  | log records next => do
    IO.eprint (shown filter (records.map .record))
    next.perform filter

def Invocation.perform (invocation : Invocation) (environment : Environment) : IO UInt32 := do
  let (filter, faults) := filterOf invocation.threshold environment
  for fault in faults do
    IO.eprint (complaint fault)
  match ← (invocation.command.run invocation.diagnostics).run.perform filter with
  | .ok () => return 0
  | .error failure =>
    IO.eprint (failure.report Error.message)
    return 1

end Pseudoclock.CommandLine

open Pseudoclock.CommandLine in
def main (arguments : List String) : IO UInt32 := do
  let environment : Environment := ⟨← IO.getEnv "RUST_LOG", ← IO.getEnv "PULSEPROG_DEVICE"⟩
  match Invocation.ofArguments arguments environment.device with
  | .ok invocation => invocation.perform environment
  | .error .usage =>
    IO.eprint usageText
    return 2
  | .error .help =>
    IO.print usageText
    return 0
  | .error .version =>
    IO.print versionText
    return 0
