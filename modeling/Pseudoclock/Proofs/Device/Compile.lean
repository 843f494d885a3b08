import Mathlib
import Pseudoclock.Device.Compile
import Pseudoclock.Proofs.Device.Validity

/-!
Which tables a dataset has when it has been compiled: one under each of the device's names, compiled from
that name's timeline.
-/

namespace Pseudoclock.Device

variable {device : Device} {timelines : OrderedMap Timeline}

/-- A table is the encoding of a timeline: the timeline compiles, with the compiler for this kind of device and
within its capabilities, and each row is an instruction of the program. -/
inductive Encodes (device : Device) (timeline : Timeline) : Table → Prop where
  | toggle {pseudoclocks : List String} {program : Program Toggle} (hvariant : device.variant = .toggle pseudoclocks)
      (hprogram : timeline.compileToggle device.capabilities = .ok program) :
      Encodes device timeline (.toggle (program.instructions.map (·.period)) (program.instructions.map (·.reps)))
  | snapshot {tableName : String} {layout : Layout} {channelNames : List String} {program : Program Snapshot}
      (hvariant : device.variant = .snapshot tableName layout channelNames)
      (hprogram : timeline.compileSnapshot layout device.capabilities = .ok program) :
      Encodes device timeline (.snapshot (program.instructions.map (·.reps)) (program.instructions.map (·.bits)))

/-- A timeline has no encoding: the compiler for this kind of device refuses it. -/
inductive FailsToEncode (device : Device) (timeline : Timeline) (error : Error) : Prop where
  | toggle {pseudoclocks : List String} (hvariant : device.variant = .toggle pseudoclocks)
      (herror : timeline.compileToggle device.capabilities = .error error)
  | snapshot {tableName : String} {layout : Layout} {channelNames : List String}
      (hvariant : device.variant = .snapshot tableName layout channelNames)
      (herror : timeline.compileSnapshot layout device.capabilities = .error error)

variable {timeline : Timeline}

/-- A compiled table holds the program of its timeline. -/
theorem compileTable_eq_ok_iff {table : Table} :
    device.compileTable timeline = .ok table ↔ device.Encodes timeline table := by
  rw [compileTable]
  constructor
  · intro hcompile
    cases hvariant : device.variant with
    | toggle pseudoclocks =>
      simp only [hvariant] at hcompile
      obtain ⟨program, hprogram, htable⟩ := bind_eq_ok_iff.mp hcompile
      obtain rfl := Except.ok.inj htable
      exact .toggle hvariant hprogram
    | snapshot tableName layout channelNames =>
      simp only [hvariant] at hcompile
      obtain ⟨program, hprogram, htable⟩ := bind_eq_ok_iff.mp hcompile
      obtain rfl := Except.ok.inj htable
      exact .snapshot hvariant hprogram
  · rintro (⟨hvariant, hprogram⟩ | ⟨hvariant, hprogram⟩) <;> simp only [hvariant, hprogram] <;> rfl

/-- A table that is not compiled fails with the error of its timeline. -/
theorem compileTable_eq_error_iff {error : Error} :
    device.compileTable timeline = .error error ↔ device.FailsToEncode timeline error := by
  rw [compileTable]
  constructor
  · intro hcompile
    cases hvariant : device.variant with
    | toggle pseudoclocks =>
      simp only [hvariant] at hcompile
      exact .toggle hvariant (by simpa [bind_eq_error_iff, pure, Except.pure] using hcompile)
    | snapshot tableName layout channelNames =>
      simp only [hvariant] at hcompile
      exact .snapshot hvariant (by simpa [bind_eq_error_iff, pure, Except.pure] using hcompile)
  · rintro (⟨hvariant, herror⟩ | ⟨hvariant, herror⟩) <;> simp only [hvariant, herror] <;> rfl

/-- A table from the timeline under its name, together with the name. -/
def compileNamed (device : Device) (timelines : OrderedMap Timeline) (name : String) :
    Except Error (String × Table) :=
  (device.compileTable (timelineOf timelines name)).map (name, ·)

/-- The attempts end with the first table that fails, so that settling them compiles one table after the other. -/
private theorem mapM_settled_attempts (names : List String) :
    (device.attempts timelines names).mapM settled = names.mapM (device.compileNamed timelines) := by
  induction names with
  | nil => rfl
  | cons name names ih =>
    rw [attempts, List.mapM_cons, compileNamed]
    cases device.compileTable (timelineOf timelines name) with
    | error error => rfl
    | ok table =>
      rw [List.mapM_cons, ih]
      rfl

theorem compile_eq (device : Device) (timelines : OrderedMap Timeline) :
    device.compile timelines = do
      device.validate
      device.checkTimelines timelines
      let tables ← device.tableNames.mapM (device.compileNamed timelines)
      return ⟨device.name, OrderedMap.ofEntries tables⟩ := by
  rw [compile, mapM_settled_attempts]

/-- A device is compiled for if its description, the names of the timelines and all tables pass. -/
theorem compile_eq_ok_iff {dataset : Dataset} :
    device.compile timelines = .ok dataset ↔ device.validate = .ok () ∧ device.checkTimelines timelines = .ok () ∧
      ∃ tables, device.tableNames.mapM (device.compileNamed timelines) = .ok tables ∧
        ⟨device.name, OrderedMap.ofEntries tables⟩ = dataset := by
  rw [compile_eq, check_bind_eq_ok_iff, check_bind_eq_ok_iff, bind_eq_ok_iff]
  simp only [pure, Except.pure, Except.ok.injEq]

/-- There is no dataset if one of the three does not pass. The first one that does not gives the error. -/
theorem compile_eq_error_iff {error : Error} :
    device.compile timelines = .error error ↔ device.validate = .error error ∨
      device.validate = .ok () ∧ (device.checkTimelines timelines = .error error ∨
        device.checkTimelines timelines = .ok () ∧
          device.tableNames.mapM (device.compileNamed timelines) = .error error) := by
  rw [compile_eq, check_bind_eq_error_iff, check_bind_eq_error_iff, bind_eq_error_iff]
  simp only [pure, Except.pure, reduceCtorEq, and_false, exists_false, or_false]

theorem compileNamed_eq_ok_iff {name : String} {entry : String × Table} :
    device.compileNamed timelines name = .ok entry ↔
      entry.1 = name ∧ device.compileTable (timelineOf timelines name) = .ok entry.2 := by
  rw [compileNamed, map_eq_ok_iff]
  constructor
  · rintro ⟨table, htable, rfl⟩
    exact ⟨rfl, htable⟩
  · rintro ⟨rfl, htable⟩
    exact ⟨entry.2, htable, rfl⟩

/-- The tables have the names that were asked for, and each was compiled from its own timeline. -/
theorem mapM_compileNamed_eq_ok {names : List String} {tables : List (String × Table)}
    (htables : names.mapM (device.compileNamed timelines) = .ok tables) :
    tables.map (·.1) = names ∧
      ∀ entry ∈ tables, device.compileTable (timelineOf timelines entry.1) = .ok entry.2 := by
  induction mapM_eq_ok_iff.mp htables with
  | nil => simp
  | @cons name entry names tables hentry hrest ih =>
    obtain ⟨rfl, hcompile⟩ := compileNamed_eq_ok_iff.mp hentry
    obtain ⟨hnames, hcompiles⟩ := ih (mapM_eq_ok_iff.mpr hrest)
    exact ⟨by rw [List.map_cons, hnames], List.forall_mem_cons.mpr ⟨hcompile, hcompiles⟩⟩

/-- A compiled dataset has a table under each of the device's names and no others. -/
theorem compile_eq_ok {dataset : Dataset} (hcompile : device.compile timelines = .ok dataset) :
    device.validate = .ok () ∧ dataset.tables.names = device.tableNames ∧
      ∀ name ∈ device.tableNames, ∃ table, device.compileTable (timelineOf timelines name) = .ok table ∧
        dataset.table name = .ok table := by
  obtain ⟨hvalid, _, tables, htables, rfl⟩ := compile_eq_ok_iff.mp hcompile
  obtain ⟨hnames, htables⟩ := mapM_compileNamed_eq_ok htables
  have hentries := OrderedMap.entries_ofEntries tables (hnames ▸ nodup_tableNames hvalid)
  refine ⟨hvalid, by rw [OrderedMap.names, hentries, hnames], fun name hname => ?_⟩
  rw [← hnames] at hname
  obtain ⟨entry, hentry, rfl⟩ := List.mem_map.mp hname
  refine ⟨entry.2, htables entry hentry, ?_⟩
  rw [Dataset.table, OrderedMap.get?_eq_some_iff.mpr (hentries.symm ▸ hentry)]

end Pseudoclock.Device
