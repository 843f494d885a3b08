import Pseudoclock.Blank
import Pseudoclock.Log
import Pseudoclock.Pattern

/-!
Which records are shown. A filter is a list of directives, each a threshold for the targets that
begin with a name. Of the directives for a target the one with the longest name counts. A pattern
can be asked of the messages besides.
-/

namespace Pseudoclock.CommandLine

open Log (Level Record)

/-- The least urgent level that is shown; nothing at all is shown without one. -/
abbrev Threshold := Option Level

namespace Threshold

def admits (threshold : Threshold) (level : Level) : Bool :=
  match threshold with
  | none => false
  | some least => level.rank ≤ least.rank

/-- The threshold of a name, in letters of either case. -/
def ofName? (name : String) : Option Threshold :=
  match String.ofList (name.toList.map Char.toLower) with
  | "off" => some none
  | "error" => some (some .error)
  | "warn" => some (some .warn)
  | "info" => some (some .info)
  | "debug" => some (some .debug)
  | "trace" => some (some .trace)
  | _ => none

end Threshold

/-- A threshold for the targets that begin with a name, or for all of them. -/
structure Directive where
  target : Option String
  threshold : Threshold
deriving DecidableEq, Repr

namespace Directive

def covers (directive : Directive) (target : String) : Bool :=
  match directive.target with
  | none => true
  | some name => target.startsWith name

/-- How long the name in a directive is. -/
def weight (directive : Directive) : Nat :=
  match directive.target with
  | none => 0
  | some name => name.utf8ByteSize

def ofText (text : String) : Except String Directive :=
  match text.splitOn "=" with
  | [name] =>
    match Threshold.ofName? name with
    | some threshold => .ok ⟨none, threshold⟩
    | none => .ok ⟨some name, some .trace⟩
  | [name, level] =>
    let level := trimBlanks level
    if level.isEmpty then .ok ⟨some name, some .trace⟩
    else
      match Threshold.ofName? level with
      | some threshold => .ok ⟨some name, threshold⟩
      | none => .error s!"invalid logging spec '{level}'"
  | _ => .error s!"invalid logging spec '{text}'"

end Directive

structure LogFilter where
  directives : List Directive
  /-- What shown messages have a part of. -/
  pattern : Option Pattern := none
deriving DecidableEq, Repr

namespace LogFilter

def ofThreshold (threshold : Threshold) : LogFilter :=
  ⟨[⟨none, threshold⟩], none⟩

/-- Adds a directive, in place of the one for the same targets. -/
def add (filter : LogFilter) (directive : Directive) : LogFilter :=
  if filter.directives.any (·.target == directive.target) then
    { filter with directives := filter.directives.map fun other =>
        if other.target == directive.target then directive else other }
  else
    { filter with directives := filter.directives ++ [directive] }

/-- Adds the directives that stand in a text, separated by commas. Returns also what is wrong with
those that are passed over. -/
def addDirectives (filter : LogFilter) (text : String) : LogFilter × List String :=
  let parts := ((text.splitOn ",").map trimBlanks).filter (!·.isEmpty)
  parts.foldl (fun (filter, faults) part =>
    match Directive.ofText part with
    | .ok directive => (filter.add directive, faults)
    | .error fault => (filter, faults ++ [fault])) (filter, [])

/-- The pattern of a text. Returns also what is wrong with a text that is none. -/
def patternOf (text : String) : Option Pattern × List String :=
  match Pattern.ofText text with
  | .ok pattern => (some pattern, [])
  | .error refusal => (none, [s!"invalid regex filter - {refusal.message text}"])

/-- Adds what a filter text says: directives, and a pattern behind a slash. Returns also what is
wrong with the parts that are passed over. -/
def addText (filter : LogFilter) (text : String) : LogFilter × List String :=
  match text.splitOn "/" with
  | [directives] =>
    let (filter, faults) := filter.addDirectives directives
    ({ filter with pattern := none }, faults)
  | [directives, pattern] =>
    let (filter, faults) := filter.addDirectives directives
    let (pattern, patternFaults) := patternOf pattern
    ({ filter with pattern }, faults ++ patternFaults)
  | _ => (filter, [s!"invalid logging spec '{text}' (too many '/'s)"])

def directive? (filter : LogFilter) (target : String) : Option Directive :=
  (filter.directives.filter (·.covers target)).foldl (fun best directive =>
    match best with
    | none => some directive
    | some found => if found.weight ≤ directive.weight then some directive else best) none

def admits (filter : LogFilter) (record : Record) : Bool :=
  (match filter.directive? record.source.target with
    | some directive => directive.threshold.admits record.level
    | none => false)
  && filter.pattern.all (·.occursIn record.message)

def paddedName (level : Level) : String :=
  level.name ++ String.ofList (List.replicate (5 - level.name.length) ' ')

/-- The lines of a record. Further lines of its message are indented. -/
def line (record : Record) : String :=
  let message := "\n    ".intercalate (record.message.splitOn "\n")
  s!"[{paddedName record.level} {record.source.target}] {message}"

end LogFilter

end Pseudoclock.CommandLine
