import Mathlib
import Pseudoclock.Device.Replay
import Pseudoclock.Proofs.ClockLine.RoundTrip
import Pseudoclock.Proofs.Device.Compile
import Pseudoclock.Proofs.Device.Independence
import Pseudoclock.Proofs.Format.Dataset
import Pseudoclock.Proofs.OutputBank.RoundTrip
import Pseudoclock.Proofs.Table

/-!
Whatever compiles can be stored and replayed. Only a reference with too few edges makes a table fail.
-/

namespace Pseudoclock

namespace Report

section Outcomes

variable {names : List String} {outcome : String → Except Error TableReplay} {starved : String → Bool}
  {error : Error}

/-- If the starved tables fail and the others are replayed, the report says so. -/
private theorem failures_eq_and_decoded_eq
    (hfails : ∀ name ∈ names, starved name = true → outcome name = .error error)
    (hreplays : ∀ name ∈ names, starved name = false → ∃ replay, outcome name = .ok replay) (device : Device)
    (datasetDevice : String) :
    failures ⟨device, datasetDevice, names.map fun name => (name, outcome name)⟩ =
      (names.filter starved).map (·, error) ∧
    decoded ⟨device, datasetDevice, names.map fun name => (name, outcome name)⟩ =
      names.filter (!starved ·) := by
  induction names with
  | nil => exact ⟨rfl, rfl⟩
  | cons name names ih =>
    have hrest := ih (fun other hother => hfails other (List.mem_cons_of_mem _ hother))
      (fun other hother => hreplays other (List.mem_cons_of_mem _ hother))
    simp only [failures, decoded, List.map_cons, List.filterMap_cons, List.filter_cons] at hrest ⊢
    cases hstarved : starved name with
    | true => simp [hfails name List.mem_cons_self hstarved, hrest]
    | false =>
      obtain ⟨replay, hreplay⟩ := hreplays name List.mem_cons_self hstarved
      simp [hreplay, hrest]

end Outcomes

end Report

namespace Device

/-- The traces of a table that is compiled and replayed at once, without a dataset. -/
def replayDirectly (device : Device) (timelines : OrderedMap Timeline) (calibration : Calibration)
    (triggers : Option (List Float)) (name : String) : Except Error (List (String × Trace UInt8)) :=
  let timeline := timelineOf timelines name
  match device.variant with
  | .toggle _ => do
    let program ← timeline.compileToggle device.capabilities
    let replayed ← program.replayToggle calibration triggers
    return [(name, replayed.trace)]
  | .snapshot _ layout _ => do
    let program ← timeline.compileSnapshot layout device.capabilities
    let traces ← program.replayChannels calibration layout triggers
    return device.channelNames.zip traces

/-- Whether a reference with so many rising edges is not enough for a table with this timeline. A clock line
needs one edge to begin and one for each run of waits, and an output bank needs one. -/
def isStarved (device : Device) (timeline : Timeline) (edges : Nat) : Bool :=
  match device.variant with
  | .toggle _ => decide (edges ≤ timeline.waitRuns)
  | .snapshot .. => decide (edges = 0)

variable {device : Device} {timelines : OrderedMap Timeline} {dataset : Dataset} {calibration : Calibration}

private theorem replayDirectly_toggle {pseudoclocks : List String} {program : Program Toggle}
    (hvariant : device.variant = .toggle pseudoclocks) {name : String}
    (hprogram : (timelineOf timelines name).compileToggle device.capabilities = .ok program)
    (triggers : Option (List Float)) :
    device.replayDirectly timelines calibration triggers name =
      (program.replayToggle calibration triggers).map fun replayed => [(name, replayed.trace)] := by
  rw [replayDirectly, hvariant]
  simp only [hprogram]
  change (program.replayToggle calibration triggers >>= _) = _
  cases program.replayToggle calibration triggers <;> rfl

private theorem replayDirectly_snapshot {tableName : String} {layout : Layout} {channelNames : List String}
    {program : Program Snapshot} (hvariant : device.variant = .snapshot tableName layout channelNames)
    {name : String}
    (hprogram : (timelineOf timelines name).compileSnapshot layout device.capabilities = .ok program)
    (triggers : Option (List Float)) :
    device.replayDirectly timelines calibration triggers name =
      (program.replayWords calibration triggers).map fun replayed =>
        device.channelNames.zip (layout.demultiplex replayed.trace) := by
  rw [replayDirectly, hvariant]
  simp only [hprogram]
  change (program.replayChannels calibration layout triggers >>= _) = _
  rw [Program.replayChannels, Timeline.replaySnapshot_compileSnapshot hprogram]
  cases program.replayWords calibration triggers <;> rfl

/-- A table that is in a dataset is replayed as it would be right after its compilation. -/
private theorem replayTable_eq {name : String} {table : Table}
    (hcompile : device.compileTable (timelineOf timelines name) = .ok table)
    (htable : dataset.table name = .ok table) (triggers : Option (List Float)) :
    (device.replayTable dataset calibration triggers name).map (·.channels) =
      device.replayDirectly timelines calibration triggers name := by
  have hdecode : device.tableTraces dataset calibration triggers name =
      device.decodeTable calibration triggers name table := by
    rw [tableTraces, htable]
    rfl
  rw [map_channels_replayTable, hdecode, decodeTable]
  cases compileTable_eq_ok_iff.mp hcompile with
  | @toggle pseudoclocks program hvariant hprogram =>
    rw [← Table.ofToggleProgram]
    simp only [hvariant, Table.toToggleProgram_ofToggleProgram]
    rw [replayDirectly_toggle hvariant hprogram]
    change (program.replayToggle calibration triggers >>= _) = _
    cases program.replayToggle calibration triggers <;> rfl
  | @snapshot tableName layout names program hvariant hprogram =>
    rw [← Table.ofSnapshotProgram]
    simp only [hvariant, Table.toSnapshotProgram_ofSnapshotProgram]
    rw [replayDirectly_snapshot hvariant hprogram]
    change (program.replayChannels calibration layout triggers >>= _) = _
    rw [Program.replayChannels, Timeline.replaySnapshot_compileSnapshot hprogram]
    cases program.replayWords calibration triggers <;> rfl

/-- Without triggers, every table that compiles can be replayed. -/
private theorem replayDirectly_none {name : String} {table : Table}
    (hcompile : device.compileTable (timelineOf timelines name) = .ok table)
    (hvalid : calibration.validate = .ok ()) :
    ∃ traces, device.replayDirectly timelines calibration none name = .ok traces := by
  cases compileTable_eq_ok_iff.mp hcompile with
  | toggle hvariant hprogram =>
    obtain ⟨replayed, hreplay, _⟩ := map_eq_ok_iff.mp (Timeline.replayToggle_none hprogram hvalid)
    exact ⟨_, by rw [replayDirectly_toggle hvariant hprogram, hreplay]; rfl⟩
  | snapshot hvariant hprogram =>
    have hedge : (none : Option (List Float)) ≠ some [] := by simp
    obtain ⟨replayed, hreplay, _⟩ := Timeline.replayWords_compileSnapshot hprogram hvalid hedge
    exact ⟨_, by rw [replayDirectly_snapshot hvariant hprogram, hreplay]; rfl⟩

/-- With triggers, a table that compiles can be replayed unless it is starved. -/
private theorem replayDirectly_some {name : String} {table : Table}
    (hcompile : device.compileTable (timelineOf timelines name) = .ok table)
    (hvalid : calibration.validate = .ok ()) (edges : List Float) :
    (device.isStarved (timelineOf timelines name) edges.length = false ∧
      ∃ traces, device.replayDirectly timelines calibration (some edges) name = .ok traces) ∨
    (device.isStarved (timelineOf timelines name) edges.length = true ∧
      device.replayDirectly timelines calibration (some edges) name =
        .error (.triggerExhausted (edges.length + 1) edges.length)) := by
  cases compileTable_eq_ok_iff.mp hcompile with
  | @toggle pseudoclocks program hvariant hprogram =>
    rw [replayDirectly_toggle hvariant hprogram, isStarved, hvariant]
    have hreplay := Timeline.replayToggle_some hprogram hvalid edges
    cases hresult : program.replayToggle calibration (some edges) with
    | ok replayed =>
      rw [hresult] at hreplay
      split at hreplay
      · next henough => exact .inl ⟨by simpa using henough, _, rfl⟩
      · cases hreplay
    | error error =>
      rw [hresult] at hreplay
      split at hreplay
      · cases hreplay
      · next hfew =>
        cases hreplay
        exact .inr ⟨by simpa using hfew, rfl⟩
  | @snapshot tableName layout names program hvariant hprogram =>
    rw [replayDirectly_snapshot hvariant hprogram, isStarved, hvariant]
    cases edges with
    | nil => exact .inr ⟨rfl, by rw [Timeline.replayWords_nil program hvalid]; rfl⟩
    | cons edge edges =>
      have hedge : some (edge :: edges) ≠ some [] := by simp
      obtain ⟨replayed, hreplay, _⟩ := Timeline.replayWords_compileSnapshot hprogram hvalid hedge
      exact .inl ⟨rfl, _, by rw [hreplay]; rfl⟩

/-- A dataset is replayed table by table, as if each table had only just been compiled. -/
private theorem replay_of_compile (hcompile : device.compile timelines = .ok dataset)
    (hcalibration : device.calibration = .ok calibration) (reference : Option ClockTrace)
    (starved : String → Bool) (error : Error)
    (hfails : ∀ name ∈ device.tableNames, starved name = true →
      device.replayDirectly timelines calibration (reference.map ClockTrace.risingEdges) name = .error error)
    (hreplays : ∀ name ∈ device.tableNames, starved name = false → ∃ traces,
      device.replayDirectly timelines calibration (reference.map ClockTrace.risingEdges) name = .ok traces) :
    ∃ report traces, device.replay dataset reference = .ok report ∧
      report.failures = (device.tableNames.filter starved).map (·, error) ∧
      report.decoded = device.tableNames.filter (!starved ·) ∧
      (∀ name ∈ report.decoded,
        device.replayDirectly timelines calibration (reference.map ClockTrace.risingEdges) name =
          .ok (traces name)) ∧
      report.traces = report.decoded.flatMap traces := by
  obtain ⟨hvalid, _, htables⟩ := compile_eq_ok hcompile
  let outcome := device.replayTable dataset calibration (reference.map ClockTrace.risingEdges)
  -- An outcome also says what the replay used, so that only its channels can be compared.
  have hdirect : ∀ name ∈ device.tableNames, (outcome name).map (·.channels) =
      device.replayDirectly timelines calibration (reference.map ClockTrace.risingEdges) name := by
    intro name hname
    obtain ⟨table, htable, hstored⟩ := htables name hname
    exact replayTable_eq htable hstored _
  have hfails : ∀ name ∈ device.tableNames, starved name = true → outcome name = .error error := by
    intro name hname hstarved
    have hmap := (hdirect name hname).trans (hfails name hname hstarved)
    cases houtcome : outcome name with
    | error other =>
      rw [houtcome] at hmap
      cases hmap
      rfl
    | ok replay =>
      rw [houtcome] at hmap
      cases hmap
  have hreplays : ∀ name ∈ device.tableNames, starved name = false → ∃ replay, outcome name = .ok replay := by
    intro name hname hstarved
    obtain ⟨traces, htraces⟩ := hreplays name hname hstarved
    obtain ⟨replay, hreplay, _⟩ := map_eq_ok_iff.mp ((hdirect name hname).trans htraces)
    exact ⟨replay, hreplay⟩
  obtain ⟨hfailures, hdecoded⟩ := Report.failures_eq_and_decoded_eq hfails hreplays device dataset.device
  obtain ⟨channels, hchannels, htraces⟩ :=
    Report.traces_eq_flatMap device dataset.device device.tableNames outcome
  refine ⟨_, channels, ?_, hfailures, hdecoded, ?_, htraces⟩
  · rw [replay, hvalid, hcalibration]
    rfl
  · intro name hname
    rw [hdecoded, List.mem_filter] at hname
    obtain ⟨replay, hreplay⟩ := hreplays name hname.1 (by simpa using hname.2)
    rw [← hdirect name hname.1, hreplay, hchannels name replay hreplay]
    rfl

/-- Without a reference, no table of a compiled dataset fails. -/
theorem replay_none_of_compile (hcompile : device.compile timelines = .ok dataset)
    (hcalibration : device.calibration = .ok calibration) (husable : calibration.validate = .ok ()) :
    ∃ report traces, device.replay dataset none = .ok report ∧ report.failures = [] ∧
      report.decoded = device.tableNames ∧
      (∀ name ∈ device.tableNames, device.replayDirectly timelines calibration none name = .ok (traces name)) ∧
      report.traces = device.tableNames.flatMap traces := by
  obtain ⟨_, _, htables⟩ := compile_eq_ok hcompile
  have hreplays : ∀ name ∈ device.tableNames, false = false → ∃ traces,
      device.replayDirectly timelines calibration none name = .ok traces := by
    intro name hname _
    obtain ⟨table, htable, _⟩ := htables name hname
    exact replayDirectly_none htable husable
  -- No table is starved without a reference, so that the error does not matter.
  obtain ⟨report, traces, hreplay, hfailures, hdecoded, htraces, hall⟩ :=
    replay_of_compile hcompile hcalibration none (fun _ => false) (.triggerExhausted 0 0) (by simp) hreplays
  have hnames : report.decoded = device.tableNames := by simpa using hdecoded
  rw [hnames] at htraces hall
  exact ⟨report, traces, hreplay, by simpa using hfailures, hnames, htraces, hall⟩

/-- Everything that compiles can be stored, read back and replayed. Without a reference no table fails, and
the traces are those of the tables' programs. With one, the tables that fail are those that its rising edges
are not enough for, all for want of one edge more. The delays are only needed by the replay. -/
theorem replay_ofText_toText (hcompile : device.compile timelines = .ok dataset)
    (htrigger : device.delays.triggerDelay.isSome) (hwait : device.delays.waitDelay.isSome) :
    ∃ stored calibration, Dataset.ofText dataset.toText = .ok stored ∧ device.calibration = .ok calibration ∧
      (∃ report traces, device.replay stored none = .ok report ∧ report.failures = [] ∧
        report.decoded = device.tableNames ∧
        (∀ name ∈ device.tableNames, device.replayDirectly timelines calibration none name = .ok (traces name)) ∧
        report.traces = device.tableNames.flatMap traces) ∧
      ∀ reference : ClockTrace, ∃ report traces, device.replay stored (some reference) = .ok report ∧
        report.failures =
          (device.tableNames.filter fun name =>
            device.isStarved (timelineOf timelines name) reference.risingEdges.length).map
              (·, .triggerExhausted (reference.risingEdges.length + 1) reference.risingEdges.length) ∧
        report.decoded =
          (device.tableNames.filter fun name =>
            !device.isStarved (timelineOf timelines name) reference.risingEdges.length) ∧
        (∀ name ∈ report.decoded,
          device.replayDirectly timelines calibration (some reference.risingEdges) name = .ok (traces name)) ∧
        report.traces = report.decoded.flatMap traces := by
  obtain ⟨hvalid, _, htables⟩ := compile_eq_ok hcompile
  obtain ⟨calibration, hcalibration, husable⟩ := exists_calibration hvalid htrigger hwait
  refine ⟨dataset, calibration, Dataset.ofText_toText dataset, hcalibration, ?_, fun reference => ?_⟩
  · exact replay_none_of_compile hcompile hcalibration husable
  · refine replay_of_compile hcompile hcalibration (some reference) _ _ (fun name hname hstarved => ?_)
      (fun name hname hstarved => ?_)
    · obtain ⟨table, htable, _⟩ := htables name hname
      rcases replayDirectly_some htable husable reference.risingEdges with ⟨hfed, _⟩ | ⟨_, herror⟩
      · rw [hfed] at hstarved
        cases hstarved
      · exact herror
    · obtain ⟨table, htable, _⟩ := htables name hname
      rcases replayDirectly_some htable husable reference.risingEdges with ⟨_, htraces⟩ | ⟨hshort, _⟩
      · exact htraces
      · rw [hshort] at hstarved
        cases hstarved

/-- Two clock lines, of which only the first one waits. A reference with one edge is enough for the other. -/
theorem replay_ofText_toText_waiting :
    let device : Device := ⟨"clocks", ⟨1, 8, 1⟩, ⟨some 0.5, some 3⟩, .toggle ["a", "b"]⟩
    let timelines : OrderedMap Timeline := OrderedMap.ofEntries
      [("a", [⟨0, .level 1⟩, ⟨1, .level 0⟩, ⟨2, .wait⟩])]
    let dataset : Dataset := ⟨"clocks", OrderedMap.ofEntries
      [("a", .toggle [2, 0, 0, 0] [1, 0, 0, 0]), ("b", .toggle [0, 0] [0, 0])]⟩
    let reference : ClockTrace := ⟨[0], [1], rfl, rfl, rfl⟩
    device.compile timelines = .ok dataset ∧ device.delays.triggerDelay.isSome ∧
    device.delays.waitDelay.isSome ∧ ∃ stored, Dataset.ofText dataset.toText = .ok stored ∧
      (∃ report, device.replay stored none = .ok report ∧ report.decoded = ["a", "b"] ∧
        report.traces = [("a", ⟨[0, 1], [1, 0]⟩), ("b", ⟨[], []⟩)]) ∧
      ∃ report, device.replay stored (some reference) = .ok report ∧ report.decoded = ["b"] ∧
        report.failures = [("a", .triggerExhausted 2 1)] := by
  intro device timelines dataset reference
  have hcompile : device.compile timelines = .ok dataset := by
    subst device timelines dataset
    rfl
  obtain ⟨stored, calibration, hstored, _, ⟨report, traces, hreplay, _, hdecoded, _⟩, hall⟩ :=
    replay_ofText_toText hcompile rfl rfl
  obtain ⟨report', traces', hreplay', hfailures', hdecoded', _⟩ := hall reference
  have htraces : report.traces = [("a", ⟨[0, 1], [1, 0]⟩), ("b", ⟨[], []⟩)] := by
    obtain rfl := Except.ok.inj ((Dataset.ofText_toText dataset).symm.trans hstored)
    have hshown : (device.replay dataset none).map Report.traces = .ok [("a", ⟨[0, 1], [1, 0]⟩), ("b", ⟨[], []⟩)] := by
      decide +kernel
    rw [hreplay] at hshown
    exact Except.ok.inj hshown
  exact ⟨hcompile, rfl, rfl, stored, hstored, ⟨report, hreplay, hdecoded, htraces⟩, report', hreplay', hdecoded',
    hfailures'⟩

end Device

end Pseudoclock
