import Mathlib
import Pseudoclock.Device.Replay
import Pseudoclock.Proofs.Device.Validity

/-!
What becomes of a table in a replay: it is looked up, read as a program and decoded with all edges of the
reference, and nothing that happens to another table has an influence on that.
-/

namespace Pseudoclock

variable {device : Device} {dataset other : Dataset} {calibration : Calibration} {triggers : Option (List Float)}
  {name : String} {table : Table}

namespace Device

/-- The traces of the channels of one table, from its rows. -/
def decodeTable (device : Device) (calibration : Calibration) (triggers : Option (List Float)) (name : String)
    (table : Table) : Except Error (List (String × Trace UInt8)) :=
  match device.variant with
  | .toggle _ => do
    let program ← table.toToggleProgram
    let replayed ← program.replayToggle calibration triggers
    return [(name, replayed.trace)]
  | .snapshot _ layout _ => do
    let program ← table.toSnapshotProgram
    let traces ← program.replayChannels calibration layout triggers
    return device.channelNames.zip traces

/-- The traces of the table under a name, if it is there and can be decoded. -/
def tableTraces (device : Device) (dataset : Dataset) (calibration : Calibration) (triggers : Option (List Float))
    (name : String) : Except Error (List (String × Trace UInt8)) := do
  let table ← dataset.table name
  device.decodeTable calibration triggers name table

/-- Apart from what it says of the edges that were used, a replay of a table gives the table's traces. -/
theorem map_channels_replayTable (device : Device) (dataset : Dataset) (calibration : Calibration)
    (triggers : Option (List Float)) (name : String) :
    (device.replayTable dataset calibration triggers name).map (·.channels) =
      device.tableTraces dataset calibration triggers name := by
  rw [replayTable, tableTraces]
  cases dataset.table name with
  | error error => rfl
  | ok table =>
    change Except.map _ _ = device.decodeTable calibration triggers name table
    rw [decodeTable]
    cases device.variant with
    | toggle pseudoclocks =>
      cases hprogram : table.toToggleProgram with
      | error error => simp [hprogram, Except.map, bind, Except.bind]
      | ok program =>
        cases hreplay : program.replayToggle calibration triggers <;>
          simp [hprogram, hreplay, Except.map, bind, Except.bind, pure, Except.pure]
    | snapshot tableName layout names =>
      cases hprogram : table.toSnapshotProgram with
      | error error => simp [hprogram, Except.map, bind, Except.bind]
      | ok program =>
        cases hreplay : program.replaySnapshot calibration layout triggers <;>
          simp [hprogram, hreplay, Program.replayChannels, Except.map, bind, Except.bind, pure, Except.pure]

/-- The outcome of a table depends on what is in the dataset under its name, and on nothing else there. -/
theorem replayTable_congr (htable : dataset.table name = other.table name) :
    device.replayTable dataset calibration triggers name = device.replayTable other calibration triggers name := by
  rw [replayTable, htable, replayTable]

end Device

namespace Report

/-- A report of these tables: each of them stands in one of two lists, by its own outcome and in the order of the
tables, and the traces are those of the tables in the first list. -/
structure IsOf (report : Report) (names : List String)
    (outcome : String → Except Error (List (String × Trace UInt8))) : Prop where
  perm : (report.decoded ++ report.failures.map (·.1)).Perm names
  decoded_sublist : report.decoded.Sublist names
  failures_sublist : (report.failures.map (·.1)).Sublist names
  mem_decoded_iff (name : String) : name ∈ report.decoded ↔ name ∈ names ∧ ∃ channels, outcome name = .ok channels
  mem_failures_iff (name : String) (error : Error) :
    (name, error) ∈ report.failures ↔ name ∈ names ∧ outcome name = .error error
  traces_eq : ∃ channels : String → List (String × Trace UInt8),
    (∀ name ∈ report.decoded, outcome name = .ok (channels name)) ∧ report.traces = report.decoded.flatMap channels

variable (device : Device) (datasetDevice : String) (names : List String)
  (replay : String → Except Error TableReplay)

private theorem decoded_eq_filter :
    decoded ⟨device, datasetDevice, names.map fun name => (name, replay name)⟩ =
      names.filter fun name => (replay name).isOk := by
  induction names with
  | nil => rfl
  | cons name names ih =>
    simp only [decoded, List.map_cons, List.filterMap_cons, List.filter_cons] at ih ⊢
    cases hreplay : replay name <;> simp [ih, Except.isOk, Except.toBool]

private theorem names_failures_eq_filter :
    (failures ⟨device, datasetDevice, names.map fun name => (name, replay name)⟩).map (·.1) =
      names.filter fun name => !(replay name).isOk := by
  induction names with
  | nil => rfl
  | cons name names ih =>
    simp only [failures, List.map_cons, List.filterMap_cons, List.filter_cons] at ih ⊢
    cases hreplay : replay name <;> simpa [Except.isOk, Except.toBool] using ih

/-- A table that fails adds nothing to the traces. -/
theorem traces_eq_flatMap :
    ∃ channels : String → List (String × Trace UInt8),
      (∀ name replayed, replay name = .ok replayed → channels name = replayed.channels) ∧
      traces ⟨device, datasetDevice, names.map fun name => (name, replay name)⟩ =
        (decoded ⟨device, datasetDevice, names.map fun name => (name, replay name)⟩).flatMap channels := by
  refine ⟨fun name => ((replay name).toOption.map (·.channels)).getD [],
    fun name replayed hreplay => by simp [hreplay, Except.toOption], ?_⟩
  induction names with
  | nil => rfl
  | cons name names ih =>
    simp only [traces, decoded, List.map_cons, List.filterMap_cons, List.flatMap_cons] at ih ⊢
    cases hreplay : replay name with
    | ok replayed => simp [hreplay, Except.toOption, ih]
    | error error => simp [ih]

/-- A report with one outcome for each of these tables is a report of them. -/
theorem isOf_map :
    IsOf ⟨device, datasetDevice, names.map fun name => (name, replay name)⟩ names
      fun name => (replay name).map (·.channels) := by
  obtain ⟨channels, hchannels, htraces⟩ := traces_eq_flatMap device datasetDevice names replay
  have hdecoded := decoded_eq_filter device datasetDevice names replay
  have hfailures := names_failures_eq_filter device datasetDevice names replay
  refine ⟨?_, hdecoded ▸ List.filter_sublist, hfailures ▸ List.filter_sublist, fun name => ?_,
    fun name error => ?_, channels, fun name hname => ?_, htraces⟩
  · rw [hdecoded, hfailures]
    simpa using List.filter_append_perm (fun name => (replay name).isOk) names
  · rw [hdecoded, List.mem_filter]
    cases replay name <;> simp [Except.isOk, Except.toBool, Except.map]
  · simp only [failures, List.mem_filterMap, List.mem_map, map_eq_error_iff]
    constructor
    · rintro ⟨_, ⟨other, hmem, rfl⟩, hother⟩
      cases hreplay : replay other with
      | ok replayed => simp [hreplay] at hother
      | error error' =>
        simp only [hreplay, Option.some.injEq, Prod.mk.injEq] at hother
        obtain ⟨rfl, rfl⟩ := hother
        exact ⟨hmem, hreplay⟩
    · rintro ⟨hmem, herror⟩
      exact ⟨_, ⟨name, hmem, rfl⟩, by simp [herror]⟩
  · rw [hdecoded, List.mem_filter] at hname
    cases hreplay : replay name with
    | ok replayed => rw [hchannels name replayed hreplay]; rfl
    | error error => simp [hreplay, Except.isOk, Except.toBool] at hname

end Report

namespace Device

/-- With its constants known, a device replays every dataset, and each table has its own outcome. -/
theorem exists_replay (hvalid : device.validate = .ok ()) (hcalibration : device.calibration = .ok calibration)
    (dataset : Dataset) (reference : Option ClockTrace) :
    ∃ report, device.replay dataset reference = .ok report ∧
      report.IsOf device.tableNames
        (device.tableTraces dataset calibration (reference.map ClockTrace.risingEdges)) ∧
      ∀ name outcome, (name, outcome) ∈ report.outcomes ↔ name ∈ device.tableNames ∧
        outcome = device.replayTable dataset calibration (reference.map ClockTrace.risingEdges) name := by
  let replay := device.replayTable dataset calibration (reference.map ClockTrace.risingEdges)
  refine ⟨⟨device, dataset.device, device.tableNames.map fun name => (name, replay name)⟩, ?_, ?_, ?_⟩
  · rw [Device.replay, hvalid, hcalibration]
    rfl
  · have htraces : (fun name => (replay name).map (·.channels)) =
        device.tableTraces dataset calibration (reference.map ClockTrace.risingEdges) :=
      funext (map_channels_replayTable device dataset calibration _)
    rw [← htraces]
    exact Report.isOf_map device dataset.device device.tableNames replay
  · intro name outcome
    simp only [List.mem_map, Prod.mk.injEq]
    constructor
    · rintro ⟨_, hmem, rfl, rfl⟩
      exact ⟨hmem, rfl⟩
    · rintro ⟨hmem, rfl⟩
      exact ⟨name, hmem, rfl, rfl⟩

/-- Every table of a device is replayed by itself. It is reported as decoded if it is in the dataset and its rows
can be decoded with all edges of the reference, and with its own error otherwise; the traces are those of the
decoded tables. Two datasets with the same table under a name have the same outcome for it, whatever else is in
them. -/
theorem replay_isIndependent (hvalid : device.validate = .ok ()) (htrigger : device.delays.triggerDelay.isSome)
    (hwait : device.delays.waitDelay.isSome) (reference : Option ClockTrace) :
    device.tableNames.Nodup ∧ ∃ calibration, device.calibration = .ok calibration ∧
      (∀ dataset, ∃ report, device.replay dataset reference = .ok report ∧
        report.IsOf device.tableNames
          (device.tableTraces dataset calibration (reference.map ClockTrace.risingEdges))) ∧
      ∀ dataset other report report' name table,
        device.replay dataset reference = .ok report → device.replay other reference = .ok report' →
        dataset.table name = .ok table → other.table name = .ok table →
        (∀ outcome, (name, outcome) ∈ report.outcomes ↔ (name, outcome) ∈ report'.outcomes) ∧
        (name ∈ report.decoded ↔ name ∈ report'.decoded) ∧
        (∀ error, (name, error) ∈ report.failures ↔ (name, error) ∈ report'.failures) ∧
        device.tableTraces dataset calibration (reference.map ClockTrace.risingEdges) name =
          device.tableTraces other calibration (reference.map ClockTrace.risingEdges) name := by
  obtain ⟨calibration, hcalibration, _⟩ := exists_calibration hvalid htrigger hwait
  refine ⟨nodup_tableNames hvalid, calibration, hcalibration, fun dataset => ?_, ?_⟩
  · obtain ⟨report, hreplay, hreport, _⟩ := exists_replay hvalid hcalibration dataset reference
    exact ⟨report, hreplay, hreport⟩
  · intro dataset other report report' name table hreplay hreplay' htable hother
    obtain ⟨_, hsame, hreport, houtcomes⟩ := exists_replay hvalid hcalibration dataset reference
    obtain rfl := Except.ok.inj (hreplay.symm.trans hsame)
    obtain ⟨_, hsame', hreport', houtcomes'⟩ := exists_replay hvalid hcalibration other reference
    obtain rfl := Except.ok.inj (hreplay'.symm.trans hsame')
    have hstored : dataset.table name = other.table name := htable.trans hother.symm
    have htraces : device.tableTraces dataset calibration (reference.map ClockTrace.risingEdges) name =
        device.tableTraces other calibration (reference.map ClockTrace.risingEdges) name := by
      rw [tableTraces, hstored, tableTraces]
    refine ⟨fun outcome => ?_, ?_, fun error => ?_, htraces⟩
    · rw [houtcomes, houtcomes', replayTable_congr hstored]
    · rw [hreport.mem_decoded_iff, hreport'.mem_decoded_iff, htraces]
    · rw [hreport.mem_failures_iff, hreport'.mem_failures_iff, htraces]

/-- Of three clock lines one can be decoded, one is missing and one waits for a second edge. In another dataset,
of another device and with other tables around it, the last line fails in the same way. -/
theorem replay_isIndependent_clocks :
    let device : Device := ⟨"clocks", ⟨1, 8, 1⟩, ⟨some 0.5, some 3⟩, .toggle ["a", "b", "c"]⟩
    let starved : Table := .toggle [0, 0, 0] [0, 0, 0]
    let dataset : Dataset := ⟨"clocks", OrderedMap.ofEntries [("a", .toggle [2, 0, 0] [1, 0, 0]), ("c", starved)]⟩
    let other : Dataset := ⟨"spare", OrderedMap.ofEntries [("c", starved), ("d", starved), ("b", starved)]⟩
    let reference : ClockTrace := ⟨[0], [1], rfl, rfl, rfl⟩
    ∃ report report', device.replay dataset (some reference) = .ok report ∧
      device.replay other (some reference) = .ok report' ∧ "a" ∈ report.decoded ∧
      report.traces = [("a", ⟨[0.5, 1.5], [1, 0]⟩)] ∧
      ("b", .malformedProgram (.missingTable "clocks" "b")) ∈ report.failures ∧
      ("c", .triggerExhausted 2 1) ∈ report.failures ∧ ("c", .triggerExhausted 2 1) ∈ report'.failures := by
  intro device starved dataset other reference
  have hvalid : device.validate = .ok () := by decide +kernel
  obtain ⟨_, calibration, hcalibration, hreports, hsame⟩ := replay_isIndependent hvalid rfl rfl (some reference)
  obtain rfl : ⟨1, 0.5, 3⟩ = calibration := Except.ok.inj ((by decide +kernel : _ = _).symm.trans hcalibration)
  obtain ⟨report, hreplay, hreport⟩ := hreports dataset
  obtain ⟨report', hreplay', hreport'⟩ := hreports other
  have hdecoded := (hreport.mem_decoded_iff "a").mpr ⟨by decide, _, rfl⟩
  have hmissing := (hreport.mem_failures_iff "b" _).mpr ⟨by decide, rfl⟩
  have hfails := (hreport.mem_failures_iff "c" (.triggerExhausted 2 1)).mpr ⟨by decide, rfl⟩
  obtain ⟨_, _, hfailures, _⟩ := hsame dataset other report report' "c" starved hreplay hreplay' rfl rfl
  have htraces : report.traces = [("a", ⟨[0.5, 1.5], [1, 0]⟩)] := by
    have hshown : (device.replay dataset (some reference)).map Report.traces = .ok [("a", ⟨[0.5, 1.5], [1, 0]⟩)] := by
      decide +kernel
    rw [hreplay] at hshown
    exact Except.ok.inj hshown
  exact ⟨report, report', hreplay, hreplay', hdecoded, htraces, hmissing, hfails, (hfailures _).mp hfails⟩

end Device

end Pseudoclock
