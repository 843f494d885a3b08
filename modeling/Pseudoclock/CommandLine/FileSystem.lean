/-!
Files as the command line sees them: contents under paths, and why a path cannot be read or written.
A path is walked component by component from the working directory; whatever lies in front of a
component must be a directory. Directories are not stored: a path is one when a file lies below it,
or when every system has it. Some paths lead to streams, which keep nothing of what is written.
-/

namespace Pseudoclock.CommandLine

inductive FileFault where
  | notFound
  | notDirectory
  | isDirectory
  | nameTooLong
  | noSpace
  /-- The bytes are no UTF-8. -/
  | notText
  /-- Something that only a real file system reports. -/
  | other (text : String)
deriving DecidableEq, Repr

def FileFault.message : FileFault → String
  | .notFound => "No such file or directory (os error 2)"
  | .notDirectory => "Not a directory (os error 20)"
  | .isDirectory => "Is a directory (os error 21)"
  | .nameTooLong => "File name too long (os error 36)"
  | .noSpace => "No space left on device (os error 28)"
  | .notText => "stream did not contain valid UTF-8"
  | .other text => text

/-- What takes text in the place of a file. -/
inductive Stream where
  /-- All text is dropped. -/
  | null
  /-- There is never room for more. -/
  | full
  | output
  | report
deriving DecidableEq, Repr

inductive Content where
  | text (characters : String)
  | binary (bytes : List UInt8)
  | stream (kind : Stream)
deriving DecidableEq

def Content.ofBytes (bytes : List UInt8) : Content :=
  match String.fromUTF8? (ByteArray.mk bytes.toArray) with
  | some characters => .text characters
  | none => .binary bytes

/-- The components of a path from the working directory, or from the root behind `/`. Only its
first components can be `..`. -/
abbrev Location := List String

def Location.parent (location : Location) : Location :=
  match location.getLast? with
  | none => [".."]
  | some ".." => location ++ [".."]
  | some "/" => location
  | some _ => location.dropLast

structure FileSystem where
  files : List (Location × Content)

namespace FileSystem

/-- The directories in the root that every system has. -/
def rootDirectories : List String :=
  ["bin", "boot", "dev", "etc", "home", "lib", "media", "mnt", "opt", "proc", "root", "run", "sbin",
    "srv", "sys", "tmp", "usr", "var"]

/-- Whether a location is a directory that every system has: one around the working directory, the
root, or one in it. -/
def isGiven : Location → Bool
  | ["/"] => true
  | ["/", name] => rootDirectories.contains name
  | location => location.all (· == "..")

def isDirectory (fs : FileSystem) (location : Location) : Bool :=
  isGiven location ||
    fs.files.any fun file => location.isPrefixOf file.1 && location.length < file.1.length

def content? (fs : FileSystem) (location : Location) : Option Content :=
  fs.files.lookup location

def enter (fs : FileSystem) (location : Location) : Except FileFault Unit :=
  if fs.isDirectory location then .ok ()
  else if (fs.content? location).isSome then .error .notDirectory
  else .error .notFound

/-- How many bytes a component has at most. -/
def nameLimit : Nat := 255

/-- How many bytes a path has at most. -/
def pathLimit : Nat := 4095

def step (fs : FileSystem) (location : Location) (component : String) :
    Except FileFault Location := do
  fs.enter location
  match component with
  | "" => return location
  | "." => return location
  | ".." => return location.parent
  | name =>
    if nameLimit < name.utf8ByteSize then throw .nameTooLong
    return location ++ [name]

/-- What stands between the slashes of a path. -/
def segments (path : String) : List String :=
  (path.toList.splitOn '/').map String.ofList

/-- Where a path starts, and its components. -/
def components (path : String) : Location × List String :=
  match segments path with
  | "" :: rest => (["/"], rest)
  | all => ([], all)

def walk (fs : FileSystem) (start : Location) (components : List String) :
    Except FileFault Location :=
  components.foldlM fs.step start

def locate (fs : FileSystem) (path : String) : Except FileFault Location := do
  if pathLimit < path.utf8ByteSize then throw .nameTooLong
  let (start, names) := components path
  fs.walk start names

/-- The text of a file. Streams hold none. -/
def read (fs : FileSystem) (path : String) : Except FileFault String := do
  let location ← fs.locate path
  match fs.content? location with
  | some (.text characters) => return characters
  | some (.binary _) => throw .notText
  | some (.stream _) => return ""
  | none => if fs.isDirectory location then throw .isDirectory else throw .notFound

def put (fs : FileSystem) (location : Location) (content : Content) : FileSystem :=
  ⟨(location, content) :: fs.files.filter (·.1 != location)⟩

/-- A path without the slashes at its end, if there are any. -/
def unslash? (path : String) : Option String :=
  if path.endsWith "/" then
    some (String.ofList (path.toList.reverse.dropWhile (· == '/')).reverse)
  else none

inductive Written where
  | kept (files : FileSystem)
  | passed (kind : Stream)

/-- Writes a text to a file, which is made if need be; its directory is not. A path that ends in a
slash is never a file. -/
def write (fs : FileSystem) (path text : String) : Except FileFault Written := do
  match unslash? path with
  | some shorter => do
    if pathLimit < path.utf8ByteSize then throw .nameTooLong
    let (start, names) := components shorter
    fs.enter (← fs.walk start names.dropLast)
    throw .isDirectory
  | none => do
    let location ← fs.locate path
    if fs.isDirectory location then throw .isDirectory
    match fs.content? location with
    | some (.stream .full) => throw .noSpace
    | some (.stream kind) => return .passed kind
    | _ => return .kept (fs.put location (.text text))

/-- The streams that every system has, by name. Nothing comes in. -/
def streams : List (String × Stream) :=
  [("null", .null), ("full", .full), ("stdin", .null), ("stdout", .output), ("stderr", .report)]

/-- Files under their names in the working directory, and the streams that every system has. -/
def ofFiles (files : List (String × Content)) : FileSystem :=
  let given := streams.map fun (name, kind) => (["/", "dev", name], Content.stream kind)
  files.foldl (fun fs file => fs.put (segments file.1) file.2) ⟨given⟩

end FileSystem

end Pseudoclock.CommandLine
