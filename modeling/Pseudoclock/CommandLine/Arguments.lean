import Pseudoclock.CommandLine.LogFilter

/-!
Arguments of the command line. Options stand in front of the command's name or behind it, those of
the command only behind it. A value follows its option as an argument of its own or attached to it;
no option is given twice on one side of the name.
-/

namespace Pseudoclock.CommandLine

inductive Command where
  | compile (device events output : String)
  | decode (device program : String) (reference output : Option String)
  | edges (reference : String)
deriving DecidableEq, Repr

structure Invocation where
  threshold : Threshold
  diagnostics : Bool
  command : Command
deriving DecidableEq, Repr

inductive Stop where
  | usage
  | help
  | version
deriving DecidableEq, Repr

inductive Key where
  | logLevel
  | device
  | events
  | output
  | program
  | reference
deriving DecidableEq, Repr

inductive CommandName where
  | compile
  | decode
  | edges
deriving DecidableEq, Repr

inductive Effect where
  | take (key : Key)
  | diagnose
  | stop (reason : Stop)
deriving DecidableEq, Repr

/-- The options that may stand behind a command's name, or in front of all names, by long name. -/
def longOption? (command : Option CommandName) (name : String) : Option Effect :=
  match name, command with
  | "log-level", _ => some (.take .logLevel)
  | "diagnostics", _ => some .diagnose
  | "help", _ => some (.stop .help)
  | "version", none => some (.stop .version)
  | "device", some .compile => some (.take .device)
  | "device", some .decode => some (.take .device)
  | "events", some .compile => some (.take .events)
  | "output", some .compile => some (.take .output)
  | "output", some .decode => some (.take .output)
  | "program", some .decode => some (.take .program)
  | "reference", some .decode => some (.take .reference)
  | "reference", some .edges => some (.take .reference)
  | _, _ => none

/-- The same options by letter. -/
def shortOption? (command : Option CommandName) (letter : Char) : Option Effect :=
  match letter, command with
  | 'h', _ => some (.stop .help)
  | 'V', none => some (.stop .version)
  | 'd', some .compile => some (.take .device)
  | 'd', some .decode => some (.take .device)
  | 'e', some .compile => some (.take .events)
  | 'o', some .compile => some (.take .output)
  | 'o', some .decode => some (.take .output)
  | 'p', some .decode => some (.take .program)
  | 'r', some .decode => some (.take .reference)
  | 'r', some .edges => some (.take .reference)
  | _, _ => none

def CommandName.ofText? : String → Option CommandName
  | "compile" => some .compile
  | "decode" => some .decode
  | "edges" => some .edges
  | _ => none

/-- The options on one side of the command's name. -/
structure Given where
  values : List (Key × String) := []
  diagnostics : Bool := false
deriving DecidableEq, Repr

namespace Given

def value? (given : Given) (key : Key) : Option String :=
  given.values.lookup key

/-- Takes the value of an option. A path is not empty, and a level has a name. -/
def take (given : Given) (key : Key) (value : String) : Except Stop Given :=
  let isFit := if key = .logLevel then (Threshold.ofName? value).isSome else !value.isEmpty
  if (given.value? key).isSome || !isFit then .error .usage
  else .ok { given with values := given.values ++ [(key, value)] }

def diagnose (given : Given) : Except Stop Given :=
  if given.diagnostics then .error .usage else .ok { given with diagnostics := true }

end Given

inductive Form where
  /-- Two dashes alone: options end here. -/
  | endOfOptions
  | long (name : String) (attached : Option String)
  | short (letter : Char) (attached : List Char)
  | plain
deriving DecidableEq, Repr

def splitAtEquals (text : List Char) : String × Option String :=
  let name := String.ofList (text.takeWhile (· != '='))
  match text.dropWhile (· != '=') with
  | [] => (name, none)
  | _ :: value => (name, some (String.ofList value))

/-- The form of an argument. A dash alone is plain. -/
def Form.ofArgument (argument : String) : Form :=
  match argument.toList with
  | ['-', '-'] => .endOfOptions
  | '-' :: '-' :: text =>
    let (name, attached) := splitAtEquals text
    .long name attached
  | '-' :: letter :: attached => .short letter attached
  | _ => .plain

/-- What an option with an attached value does. An option without a value has none attached. -/
def applyAttached (given : Given) (value : String) : Effect → Except Stop Given
  | .take key => given.take key value
  | .diagnose => .error .usage
  | .stop _ => .error .usage

/-- What is attached to a letter, of which an equals sign in front is no part. -/
def attachedValue : List Char → String
  | '=' :: value => String.ofList value
  | value => String.ofList value

/-- Reads options up to the first plain argument. Returns also that argument and what follows it. -/
def readOptions (command : Option CommandName) (given : Given) :
    List String → Except Stop (Given × List String)
  | [] => .ok (given, [])
  | argument :: rest =>
    let apply (action : Option Effect) : Except Stop (Given × List String) :=
      match action with
      | none => .error .usage
      | some (.stop reason) => .error reason
      | some .diagnose => do readOptions command (← given.diagnose) rest
      | some (.take key) =>
        match rest with
        | [] => .error .usage
        | value :: rest =>
          if Form.ofArgument value = .plain then do
            readOptions command (← given.take key value) rest
          else .error .usage
    match Form.ofArgument argument with
    | .plain => .ok (given, argument :: rest)
    | .endOfOptions => if rest.isEmpty then .ok (given, []) else .error .usage
    | .long name none => apply (longOption? command name)
    | .long name (some value) =>
      match longOption? command name with
      | none => .error .usage
      | some action => do readOptions command (← applyAttached given value action) rest
    | .short letter [] => apply (shortOption? command letter)
    | .short letter attached =>
      match shortOption? command letter with
      | some (.take key) => do
        readOptions command (← given.take key (attachedValue attached)) rest
      | some (.stop reason) => .error reason
      | _ => .error .usage

def Given.require (given : Given) (key : Key) : Except Stop String :=
  match given.value? key with
  | some value => .ok value
  | none => .error .usage

/-- The device of a command: the option's value, or the one that the environment names. -/
def Given.requireDevice (given : Given) (fallback : Option String) : Except Stop String :=
  match given.value? .device, fallback with
  | some value, _ => .ok value
  | none, some value => if value.isEmpty then .error .usage else .ok value
  | none, none => .error .usage

def commandOf (name : CommandName) (given : Given) (device : Option String) :
    Except Stop Command := do
  match name with
  | .compile =>
    let device ← given.requireDevice device
    return .compile device (← given.require .events) (← given.require .output)
  | .decode =>
    let device ← given.requireDevice device
    return .decode device (← given.require .program) (given.value? .reference)
      (given.value? .output)
  | .edges => return .edges (← given.require .reference)

/-- The threshold of the option, which counts most behind the command's name. -/
def thresholdOf (front behind : Given) : Threshold :=
  let name := (behind.value? .logLevel).or (front.value? .logLevel)
  (name.bind Threshold.ofName?).getD (some .warn)

/-- Whether help can be had on what is named: on everything, on a command or on help itself. -/
def isTopic : List String → Bool
  | [] => true
  | [name] => name = "help" || (CommandName.ofText? name).isSome
  | _ => false

/-- What the arguments ask for. `device` is the device that the environment names. -/
def Invocation.ofArguments (arguments : List String) (device : Option String) :
    Except Stop Invocation := do
  let (front, rest) ← readOptions none {} arguments
  match rest with
  | [] => throw .usage
  | name :: rest =>
    match CommandName.ofText? name with
    | none => throw (if name = "help" && isTopic rest then .help else .usage)
    | some name =>
      let (behind, rest) ← readOptions (some name) {} rest
      if rest.isEmpty then
        let command ← commandOf name behind device
        return ⟨thresholdOf front behind, front.diagnostics || behind.diagnostics, command⟩
      else throw .usage

end Pseudoclock.CommandLine
