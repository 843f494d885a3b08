import Pseudoclock.CommandLine.FileSystem
import Pseudoclock.Log

/-!
Scripts: what a command asks of its surroundings, one request after the other. A script can be run
on files that are a value, which `runOn` does, or on real ones.
-/

namespace Pseudoclock.CommandLine

/-- Requests, each with what is to be done once it is answered. -/
inductive Script (α : Type) where
  | done (result : α)
  | read (path : String) (next : Except FileFault String → Script α)
  | write (path text : String) (next : Except FileFault Unit → Script α)
  | print (text : String) (next : Script α)
  | log (records : List Log.Record) (next : Script α)

namespace Script

variable {α β : Type}

def bind : Script α → (α → Script β) → Script β
  | done result, k => k result
  | read path next, k => read path fun answer => (next answer).bind k
  | write path text next, k => write path text fun answer => (next answer).bind k
  | print text next, k => print text (next.bind k)
  | log records next, k => log records (next.bind k)

instance : Monad Script where
  pure := done
  bind := bind

def readFile (path : String) : Script (Except FileFault String) :=
  read path done

def writeFile (path text : String) : Script (Except FileFault Unit) :=
  write path text done

def display (text : String) : Script Unit :=
  print text (done ())

def record (records : List Log.Record) : Script Unit :=
  log records (done ())

end Script

/-- What is reported beside what is printed. -/
inductive Notice where
  | record (entry : Log.Record)
  | text (characters : String)

/-- What scripts work on, and what they have put out. -/
structure World where
  files : FileSystem
  printed : String := ""
  notices : List Notice := []

namespace World

def print (world : World) (text : String) : World :=
  { world with printed := world.printed ++ text }

def report (world : World) (notices : List Notice) : World :=
  { world with notices := world.notices ++ notices }

def accept (world : World) (text : String) : FileSystem.Written → World
  | .kept files => { world with files }
  | .passed .output => world.print text
  | .passed .report => world.report [.text text]
  | .passed .null => world
  | .passed .full => world

end World

/-- Runs a script on files that are a value. -/
def Script.runOn {α : Type} (world : World) : Script α → α × World
  | done result => (result, world)
  | read path next => (next (world.files.read path)).runOn world
  | write path text next =>
    match world.files.write path text with
    | .ok written => (next (.ok ())).runOn (world.accept text written)
    | .error fault => (next (.error fault)).runOn world
  | print text next => next.runOn (world.print text)
  | log records next => next.runOn (world.report (records.map .record))

end Pseudoclock.CommandLine
