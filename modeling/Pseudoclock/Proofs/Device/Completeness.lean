import Mathlib
import Pseudoclock.Proofs.Device.Compile
import Pseudoclock.Proofs.OutputBank.Holding

/-!
Compilation for a whole device: what a dataset needs, what it holds, and which of several things that are wrong
is reported when there is none. Neither the order of the timelines nor an empty one has an influence on it.
-/

namespace Pseudoclock

namespace Timeline

variable {timeline : Timeline} {capabilities : Capabilities}

theorem length_le_of_compileToggle {program : Program Toggle}
    (hcompile : timeline.compileToggle capabilities = .ok program) :
    program.length ≤ capabilities.maxInstructions.toNat := by
  rw [compileToggle_eq, check_bind_eq_ok_iff, check_bind_eq_ok_iff, bind_eq_ok_iff] at hcompile
  obtain ⟨_, _, reversed, _, hcompile⟩ := hcompile
  obtain ⟨hroom, hprogram⟩ := check_bind_eq_ok_iff.mp hcompile
  obtain rfl := Except.ok.inj hprogram
  rw [Program.length_ofBody, List.length_reverse]
  exact Capabilities.checkCapacity_eq_ok_iff.mp hroom

theorem length_le_of_compileSnapshot {layout : Layout} {program : Program Snapshot}
    (hcompile : timeline.compileSnapshot layout capabilities = .ok program) :
    program.length ≤ capabilities.maxInstructions.toNat := by
  obtain ⟨_, _, _, words, _, hroom, rfl⟩ := compileSnapshot_eq_ok_iff.mp hcompile
  rw [Program.length_ofBody]
  exact Capabilities.checkCapacity_eq_ok_iff.mp hroom

end Timeline

namespace Device

/-- What a device's tables are called: by its clock lines, or by the one table of its output bank. -/
inductive HasTables (device : Device) : List String → Prop where
  | toggle {pseudoclocks : List String} (hvariant : device.variant = .toggle pseudoclocks) :
      HasTables device pseudoclocks
  | snapshot {tableName : String} {layout : Layout} {channelNames : List String}
      (hvariant : device.variant = .snapshot tableName layout channelNames) : HasTables device [tableName]

/-- The timelines of all tables with these names can be encoded. A table without a timeline has the empty one. -/
def Compiles (device : Device) (timelines : OrderedMap Timeline) (names : List String) : Prop :=
  ∀ name ∈ names, ∃ table, device.Encodes ((timelines.get? name).getD []) table

/-- All of these names are names of the device's tables. -/
def Knows (device : Device) (names : List String) : Prop :=
  ∀ name ∈ names, name ∈ device.tableNames

/-- Why there is no dataset: the description of the device, a timeline without a table, or a timeline that cannot be
encoded. What comes later is only looked at when there is nothing wrong before it. -/
inductive Refuses (device : Device) (timelines : OrderedMap Timeline) : Error → Prop where
  | description {error : Error} (hinvalid : device.validate = .error error) : Refuses device timelines error
  | timeline {before after : List String} {name : String} (hvalid : device.validate = .ok ())
      (hnames : timelines.names = before ++ name :: after) (hbefore : device.Knows before)
      (hunknown : name ∉ device.tableNames) :
      Refuses device timelines (.invalidTimeline (.unknownTable device.name name))
  | table {before after : List String} {name : String} {error : Error} (hvalid : device.validate = .ok ())
      (hknown : device.Knows timelines.names) (hnames : device.tableNames = before ++ name :: after)
      (hbefore : device.Compiles timelines before)
      (herror : device.FailsToEncode ((timelines.get? name).getD []) error) :
      Refuses device timelines error

variable {device : Device} {timelines other : OrderedMap Timeline}

theorem checkTimelines_eq_ok_iff : device.checkTimelines timelines = .ok () ↔ device.Knows timelines.names := by
  rw [checkTimelines]
  cases hfind : timelines.names.find? fun name => !device.tableNames.contains name with
  | none => simpa [Knows] using hfind
  | some name =>
    have hunknown := List.find?_some hfind
    have hmem := List.mem_of_find?_eq_some hfind
    simp only [reduceCtorEq, false_iff]
    exact fun hknown => by simp [hknown name hmem] at hunknown

theorem checkTimelines_eq_error_iff {error : Error} :
    device.checkTimelines timelines = .error error ↔ ∃ before name after,
      timelines.names = before ++ name :: after ∧ device.Knows before ∧ name ∉ device.tableNames ∧
      error = .invalidTimeline (.unknownTable device.name name) := by
  rw [checkTimelines]
  constructor
  · intro herror
    split at herror
    · next name hfind =>
      obtain ⟨hunknown, before, after, hnames, hbefore⟩ := List.find?_eq_some_iff_append.mp hfind
      exact ⟨before, name, after, hnames, by simpa [Knows] using hbefore, by simpa using hunknown,
        (Except.error.inj herror).symm⟩
    · cases herror
  · rintro ⟨before, name, after, hnames, hbefore, hunknown, rfl⟩
    have hfind : timelines.names.find? (fun name => !device.tableNames.contains name) = some name :=
      List.find?_eq_some_iff_append.mpr ⟨by simpa using hunknown, before, after, hnames, by simpa [Knows] using hbefore⟩
    rw [hfind]

theorem hasTables_tableNames (device : Device) : device.HasTables device.tableNames := by
  rw [tableNames]
  cases hvariant : device.variant with
  | toggle pseudoclocks => exact .toggle hvariant
  | snapshot tableName layout channelNames => exact .snapshot hvariant

theorem compileNamed_eq_error_iff {name : String} {error : Error} :
    device.compileNamed timelines name = .error error ↔
      device.FailsToEncode ((timelines.get? name).getD []) error :=
  map_eq_error_iff.trans compileTable_eq_error_iff

theorem exists_compileNamed_eq_ok_iff {name : String} :
    (∃ entry, device.compileNamed timelines name = .ok entry) ↔
      ∃ table, device.Encodes ((timelines.get? name).getD []) table := by
  simp only [compileNamed_eq_ok_iff, Prod.exists, exists_and_left, exists_eq_left, compileTable_eq_ok_iff, timelineOf]

/-- There is a dataset if nothing is wrong with the description, the timelines' names and the tables. -/
theorem exists_compile_iff : (∃ dataset, device.compile timelines = .ok dataset) ↔
    device.validate = .ok () ∧ device.Knows timelines.names ∧ device.Compiles timelines device.tableNames := by
  have htables : (∃ tables, device.tableNames.mapM (device.compileNamed timelines) = .ok tables) ↔
      device.Compiles timelines device.tableNames := by
    simp only [exists_mapM_eq_ok_iff, exists_compileNamed_eq_ok_iff, Compiles]
  simp only [compile_eq_ok_iff, checkTimelines_eq_ok_iff, ← htables]
  constructor
  · rintro ⟨dataset, hvalid, hknown, tables, htables, _⟩
    exact ⟨hvalid, hknown, tables, htables⟩
  · rintro ⟨hvalid, hknown, tables, htables⟩
    exact ⟨_, hvalid, hknown, tables, htables, rfl⟩

/-- The error is that of the first thing that is wrong. -/
theorem compile_eq_error_iff_refuses {error : Error} :
    device.compile timelines = .error error ↔ Refuses device timelines error := by
  rw [compile_eq_error_iff, checkTimelines_eq_error_iff, checkTimelines_eq_ok_iff, mapM_eq_error_iff]
  simp only [exists_compileNamed_eq_ok_iff, compileNamed_eq_error_iff]
  constructor
  · rintro (hinvalid | ⟨hvalid, ⟨before, name, after, hnames, hbefore, hunknown, rfl⟩ |
      ⟨hknown, before, name, after, hnames, hbefore, herror⟩⟩)
    · exact .description hinvalid
    · exact .timeline hvalid hnames hbefore hunknown
    · exact .table hvalid hknown hnames hbefore herror
  · rintro (hinvalid | ⟨hvalid, hnames, hbefore, hunknown⟩ | ⟨hvalid, hknown, hnames, hbefore, herror⟩)
    · exact .inl hinvalid
    · exact .inr ⟨hvalid, .inl ⟨_, _, _, hnames, hbefore, hunknown, rfl⟩⟩
    · exact .inr ⟨hvalid, .inr ⟨hknown, _, _, _, hnames, hbefore, herror⟩⟩

/-- Of the timelines only their names are checked, and only what is under the tables' names is compiled. -/
theorem compile_congr (hchecks : device.checkTimelines other = device.checkTimelines timelines)
    (htimelines : ∀ name, timelineOf other name = timelineOf timelines name) :
    device.compile other = device.compile timelines := by
  have htables : device.compileNamed other = device.compileNamed timelines :=
    funext fun name => by rw [compileNamed, htimelines, compileNamed]
  rw [compile_eq, compile_eq, hchecks, htables]

/-- The order of the timelines can only decide which of several names without a table is reported. -/
theorem compile_of_perm (hperm : other.entries.Perm timelines.entries) :
    device.compile other = device.compile timelines ∨ ∃ name name',
      device.compile timelines = .error (.invalidTimeline (.unknownTable device.name name)) ∧
      device.compile other = .error (.invalidTimeline (.unknownTable device.name name')) := by
  have hnames : ∀ name, name ∈ other.names ↔ name ∈ timelines.names := fun name => (hperm.map (·.1)).mem_iff
  have hknown : device.Knows other.names ↔ device.Knows timelines.names := by simp only [Knows, hnames]
  have htimelines : ∀ name, timelineOf other name = timelineOf timelines name := fun name => by
    rw [timelineOf, OrderedMap.get?_eq_of_perm hperm, timelineOf]
  cases hcheck : device.checkTimelines timelines with
  | ok _ =>
    have hother := checkTimelines_eq_ok_iff.mpr (hknown.mpr (checkTimelines_eq_ok_iff.mp hcheck))
    exact .inl (compile_congr (hother.trans hcheck.symm) htimelines)
  | error error =>
    cases hvalid : device.validate with
    | error error => exact .inl (by rw [compile, compile, hvalid]; rfl)
    | ok _ =>
      cases hother : device.checkTimelines other with
      | ok _ =>
        have hthis := checkTimelines_eq_ok_iff.mpr (hknown.mp (checkTimelines_eq_ok_iff.mp hother))
        rw [hcheck] at hthis
        cases hthis
      | error error' =>
        obtain ⟨_, name, _, _, _, _, rfl⟩ := checkTimelines_eq_error_iff.mp hcheck
        obtain ⟨_, name', _, _, _, _, rfl⟩ := checkTimelines_eq_error_iff.mp hother
        refine .inr ⟨name, name', ?_, ?_⟩ <;> rw [compile_eq_error_iff]
        · exact .inr ⟨hvalid, .inl hcheck⟩
        · exact .inr ⟨hvalid, .inl hother⟩

/-- A table without a timeline has the empty one. -/
theorem compile_insert_nil {name : String} (hname : name ∈ device.tableNames) (hnew : name ∉ timelines.names) :
    device.compile (timelines.insert name []) = device.compile timelines := by
  have hnone := OrderedMap.get?_eq_none_iff.mpr hnew
  refine compile_congr ?_ fun other => ?_
  · rw [checkTimelines, checkTimelines, OrderedMap.names_insert, if_neg hnew, List.find?_append]
    simp [hname]
  · rw [timelineOf, OrderedMap.get?_insert, timelineOf]
    split
    · next heq => rw [heq, hnone]; rfl
    · rfl

theorem Encodes.length_le {timeline : Timeline} {table : Table} (hencodes : device.Encodes timeline table) :
    table.length ≤ device.capabilities.maxInstructions.toNat := by
  cases hencodes with
  | toggle hvariant hprogram =>
    simpa [Table.length, Program.length] using Timeline.length_le_of_compileToggle hprogram
  | snapshot hvariant hprogram =>
    simpa [Table.length, Program.length] using Timeline.length_le_of_compileSnapshot hprogram

/-- There is a dataset exactly if the description, the names of the timelines and every table pass, and otherwise
the error is that of the first one that does not. A dataset has the device's tables in their order, each of them the
encoding of its own timeline, with no more rows than there is room for. Neither the order of the timelines nor an
empty one for a table without any changes that. -/
theorem compile_allOrNothing (device : Device) (timelines : OrderedMap Timeline) :
    device.HasTables device.tableNames ∧
    ((∃ dataset, device.compile timelines = .ok dataset) ↔ device.validate = .ok () ∧
      device.Knows timelines.names ∧ device.Compiles timelines device.tableNames) ∧
    (∀ dataset, device.compile timelines = .ok dataset → dataset.device = device.name ∧
      dataset.tables.names = device.tableNames ∧
      ∀ name ∈ device.tableNames, ∃ table, dataset.table name = .ok table ∧
        device.Encodes ((timelines.get? name).getD []) table ∧
        table.length ≤ device.capabilities.maxInstructions.toNat) ∧
    (∀ error, device.compile timelines = .error error ↔ Refuses device timelines error) ∧
    (∀ other, other.entries.Perm timelines.entries → device.compile other = device.compile timelines ∨
      ∃ name name', device.compile timelines = .error (.invalidTimeline (.unknownTable device.name name)) ∧
        device.compile other = .error (.invalidTimeline (.unknownTable device.name name'))) ∧
    ∀ name ∈ device.tableNames, name ∉ timelines.names →
      device.compile (timelines.insert name []) = device.compile timelines := by
  refine ⟨hasTables_tableNames device, exists_compile_iff, fun dataset hcompile => ?_,
    fun error => compile_eq_error_iff_refuses, fun other => compile_of_perm, fun name => compile_insert_nil⟩
  obtain ⟨_, hnames, htables⟩ := compile_eq_ok hcompile
  have hdevice : dataset.device = device.name := by
    obtain ⟨_, _, _, _, rfl⟩ := compile_eq_ok_iff.mp hcompile
    rfl
  refine ⟨hdevice, hnames, fun name hname => ?_⟩
  obtain ⟨table, htable, hstored⟩ := htables name hname
  have hencodes := compileTable_eq_ok_iff.mp htable
  exact ⟨table, hstored, hencodes, hencodes.length_le⟩

/-- Two clock lines with room for four instructions each. A timeline for the second one only is enough, unknown
names are reported in the order of the timelines, and too long a program is reported for the line it is for. An
output bank has one table, with the rows of its words and of the wait behind them. -/
theorem compile_allOrNothing_clocks :
    let device : Device := ⟨"clocks", ⟨1, 4, 1⟩, ⟨none, none⟩, .toggle ["a", "b"]⟩
    let pulse : Timeline := [⟨0, .level 1⟩, ⟨1, .level 0⟩, ⟨2, .wait⟩]
    let tooLong : Timeline := pulse ++ [⟨3, .wait⟩]
    let dataset : Dataset := ⟨"clocks", OrderedMap.ofEntries
      [("a", .toggle [0, 0] [0, 0]), ("b", .toggle [2, 0, 0, 0] [1, 0, 0, 0])]⟩
    let bank : Device := ⟨"bank", ⟨1, 8, 1⟩, ⟨none, none⟩, .snapshot "words" ⟨2, 8, .big⟩ ["x", "y"]⟩
    let words : Timeline := [⟨0, .level 1⟩, ⟨3, .level 2⟩, ⟨4, .wait⟩]
    (device.compile (OrderedMap.ofEntries [("b", pulse)]) = .ok dataset ∧
      device.Encodes [] (.toggle [0, 0] [0, 0]) ∧ device.Encodes pulse (.toggle [2, 0, 0, 0] [1, 0, 0, 0]) ∧
      device.compile (OrderedMap.ofEntries [("b", pulse), ("a", [])]) = .ok dataset) ∧
    (∃ stored, bank.compile (OrderedMap.ofEntries [("words", words)]) = .ok stored ∧
      stored.tables.names = ["words"] ∧ stored.table "words" = .ok (.snapshot [3, 1, 0, 0, 0] [1, 2, 2, 0, 0]) ∧
      bank.Encodes words (.snapshot [3, 1, 0, 0, 0] [1, 2, 2, 0, 0])) ∧
    device.compile (OrderedMap.ofEntries [("d", pulse), ("b", tooLong), ("c", pulse)]) =
      .error (.invalidTimeline (.unknownTable "clocks" "d")) ∧
    device.compile (OrderedMap.ofEntries [("b", tooLong), ("a", pulse)]) = .error (.capacityExceeded 5 4) := by
  intro device pulse tooLong dataset bank words
  have hvalid : device.validate = .ok () := by decide +kernel
  obtain ⟨_, _, hholds, _, _, hempty⟩ := compile_allOrNothing device (OrderedMap.ofEntries [("b", pulse)])
  have hdataset : device.compile (OrderedMap.ofEntries [("b", pulse)]) = .ok dataset := by decide +kernel
  obtain ⟨_, _, htables⟩ := hholds dataset hdataset
  refine ⟨⟨hdataset, ?_, ?_, (hempty "a" (by decide) (by decide)).trans hdataset⟩, ?_, ?_, ?_⟩
  · obtain ⟨table, htable, hencodes, _⟩ := htables "a" (by decide)
    obtain rfl := Except.ok.inj htable
    exact hencodes
  · obtain ⟨table, htable, hencodes, _⟩ := htables "b" (by decide)
    obtain rfl := Except.ok.inj htable
    exact hencodes
  · have hwords : bank.Encodes words (.snapshot [3, 1, 0, 0, 0] [1, 2, 2, 0, 0]) :=
      compileTable_eq_ok_iff.mp (by decide +kernel)
    obtain ⟨_, hexists, hholds, _⟩ := compile_allOrNothing bank (OrderedMap.ofEntries [("words", words)])
    obtain ⟨stored, hstored⟩ := hexists.mpr ⟨by decide +kernel, by unfold Knows; decide,
      List.forall_mem_singleton.mpr ⟨_, hwords⟩⟩
    obtain ⟨_, hnames, htables⟩ := hholds stored hstored
    obtain ⟨table, htable, hencodes, _⟩ := htables "words" (by decide)
    have hsame := (compileTable_eq_ok_iff.mpr hencodes).symm.trans (compileTable_eq_ok_iff.mpr hwords)
    obtain rfl := Except.ok.inj hsame
    exact ⟨stored, hstored, hnames, htable, hwords⟩
  · obtain ⟨_, _, _, herrors, _⟩ :=
      compile_allOrNothing device (OrderedMap.ofEntries [("d", pulse), ("b", tooLong), ("c", pulse)])
    have hnames : (OrderedMap.ofEntries [("d", pulse), ("b", tooLong), ("c", pulse)]).names =
        [] ++ "d" :: ["b", "c"] := rfl
    exact (herrors _).mpr (.timeline hvalid hnames (by simp [Knows]) (by decide))
  · obtain ⟨_, _, _, herrors, _⟩ := compile_allOrNothing device (OrderedMap.ofEntries [("b", tooLong), ("a", pulse)])
    have hnames : device.tableNames = ["a"] ++ "b" :: [] := rfl
    have hpulse : device.Encodes pulse (.toggle [2, 0, 0, 0] [1, 0, 0, 0]) :=
      compileTable_eq_ok_iff.mp (by decide +kernel)
    refine (herrors _).mpr (.table hvalid ?_ hnames (List.forall_mem_singleton.mpr ⟨_, hpulse⟩) ?_)
    · unfold Knows
      decide
    · exact compileTable_eq_error_iff.mp (by decide +kernel)

end Device

end Pseudoclock
