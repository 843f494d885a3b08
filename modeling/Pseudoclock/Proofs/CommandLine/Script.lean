import Mathlib
import Pseudoclock.CommandLine.Run
import Pseudoclock.Proofs.CommandLine.Files
import Pseudoclock.Proofs.Except

/-!
Running actions on files that are a value. Actions that only look at files leave the world as it is, so that what
they give is computed from the files alone.
-/

namespace Pseudoclock.CommandLine

variable {α β : Type}

theorem Script.runOn_bind (script : Script α) (next : α → Script β) (world : World) :
    (script.bind next).runOn world = (next (script.runOn world).1).runOn (script.runOn world).2 := by
  induction script generalizing world with
  | done result => rfl
  | read path answer ih => exact ih (world.files.read path) world
  | write path text answer ih =>
    rw [bind, runOn, runOn]
    cases world.files.write path text with
    | ok written => exact ih (.ok ()) (world.accept text written)
    | error fault => exact ih (.error fault) world
  | print text answer ih => exact ih (world.print text)
  | log records answer ih => exact ih (world.report (records.map .record))

theorem World.files_accept (world : World) (text : String) (written : FileSystem.Written) :
    (world.accept text written).files = world.files.behind written := by
  cases written with
  | kept files => rfl
  | passed kind => cases kind <;> rfl

namespace Action

/-- What an action gives, and what becomes of the world. -/
def runOn (world : World) (action : Action α) : Except Failure α × World :=
  action.run.runOn world

/-- An action that fails is not followed by the next one. -/
theorem runOn_bind (action : Action α) (next : α → Action β) (world : World) :
    runOn world (action >>= next) =
      match runOn world action with
      | (.ok value, after) => runOn after (next value)
      | (.error failure, after) => (.error failure, after) := by
  have hbind : (action >>= next).run = action.run.bind fun result =>
      match result with
      | .ok value => (next value).run
      | .error failure => .done (.error failure) := by
    change Script.bind _ _ = _
    congr 1
    funext result
    cases result <;> rfl
  rw [runOn, hbind, Script.runOn_bind, runOn]
  cases action.run.runOn world with
  | mk result after => cases result <;> rfl

theorem runOn_writeFile (path text : String) (world : World) :
    runOn world (writeFile path text) =
      match world.files.write path text with
      | .ok written => (.ok (), world.accept text written)
      | .error fault => (.error ⟨.write path, .file fault⟩, world) := by
  change (Script.write path text fun answer => _).runOn world = _
  rw [Script.runOn]
  cases world.files.write path text <;> rfl

/-- An action leaves the world as it is, and gives what is seen in the files. -/
def IsLook (action : Action α) (view : FileSystem → Except Failure α) : Prop :=
  ∀ world, runOn world action = (view world.files, world)

theorem isLook_attempt (task : Task) (result : Except Error α) :
    IsLook (attempt task result) fun _ => result.mapError fun error => ⟨task, .error error⟩ := by
  intro world
  cases result <;> rfl

theorem isLook_readFile (task : Task) (path : String) :
    IsLook (readFile task path) fun files => (files.read path).mapError fun fault => ⟨task, .file fault⟩ := by
  intro world
  change (Script.read path fun answer => _).runOn world = ((world.files.read path).mapError _, world)
  rw [Script.runOn]
  cases world.files.read path <;> rfl

theorem IsLook.bind {action : Action α} {view : FileSystem → Except Failure α} (hlook : IsLook action view)
    {next : α → Action β} {nextView : α → FileSystem → Except Failure β}
    (hnext : ∀ value, IsLook (next value) (nextView value)) :
    IsLook (action >>= next) fun files => view files >>= fun value => nextView value files := by
  intro world
  change runOn world (action >>= next) = (view world.files >>= fun value => nextView value world.files, world)
  rw [runOn_bind, hlook world]
  cases view world.files with
  | error failure => rfl
  | ok value => exact hnext value world

theorem IsLook.runOn_bind {action : Action α} {view : FileSystem → Except Failure α} (hlook : IsLook action view)
    (next : α → Action β) (world : World) :
    runOn world (action >>= next) =
      match view world.files with
      | .ok value => runOn world (next value)
      | .error failure => (.error failure, world) := by
  rw [Action.runOn_bind, hlook world]
  cases view world.files <;> rfl

end Action

namespace FileSystem

variable {files : FileSystem} {path : String}

/-- What loading a file gives: the value that its text is read as. -/
def load (readTask parseTask : Task) (decode : String → Except Error α) (path : String) (files : FileSystem) :
    Except Failure α := do
  let text ← (files.read path).mapError fun fault => ⟨readTask, .file fault⟩
  (decode text).mapError fun error => ⟨parseTask, .error error⟩

/-- A path leads to a text that is read as a value. -/
def Holds {ε : Type} (files : FileSystem) (path : String) (decode : String → Except ε α) (value : α) : Prop :=
  ∃ text, files.read path = .ok text ∧ decode text = .ok value

theorem load_eq_ok_iff {readTask parseTask : Task} {decode : String → Except Error α} {value : α} :
    files.load readTask parseTask decode path = .ok value ↔ files.Holds path decode value := by
  simp only [load, bind_eq_ok_iff, mapError_eq_ok_iff, Holds]

end FileSystem

namespace Action

theorem isLook_loadDevice (path : String) :
    IsLook (loadDevice path) (FileSystem.load (.loadDevice path) (.loadDevice path) Device.ofText path) :=
  (isLook_readFile _ path).bind fun text => isLook_attempt _ (Device.ofText text)

theorem isLook_loadTimelines (path : String) :
    IsLook (loadTimelines path) (FileSystem.load (.read path) (.parseEvents path)
      (fun text => (Json.decode Timeline.mapOfJson text).mapError .unreadable) path) :=
  (isLook_readFile _ path).bind fun _ => isLook_attempt _ _

theorem isLook_loadDataset (path : String) :
    IsLook (loadDataset path) (FileSystem.load (.readProgram path) (.readProgram path) Dataset.ofText path) :=
  (isLook_readFile _ path).bind fun text => isLook_attempt _ (Dataset.ofText text)

theorem isLook_loadReference (path : String) :
    IsLook (loadReference path) (FileSystem.load (.read path) (.parseReference path)
      (fun text => (Json.decode ClockTrace.ofJson text).mapError .unreadable) path) :=
  (isLook_readFile _ path).bind fun _ => isLook_attempt _ _

/-- What may be missing is looked at if it is there. -/
theorem isLook_mapM {action : String → Action α} {view : String → FileSystem → Except Failure α}
    (hlook : ∀ path, IsLook (action path) (view path)) (path : Option String) :
    IsLook (path.mapM action) fun files => path.mapM (view · files) := by
  intro world
  cases path with
  | none => rfl
  | some path =>
    change runOn world (action path >>= fun value => pure (some value)) =
      (view path world.files >>= fun value => pure (some value), world)
    rw [runOn_bind, hlook path world]
    cases view path world.files <;> rfl

end Action

end Pseudoclock.CommandLine
