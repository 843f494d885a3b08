import Mathlib
import Pseudoclock.Proofs.Device.Delivery
import Pseudoclock.Proofs.Replay.Leftovers
import Pseudoclock.Session

/-!
What is logged of a replay: a warning for each table that fails and, while diagnostics are on, a record for each
table that leaves edges of the reference over. Diagnostics have no influence on anything else.
-/

namespace Pseudoclock

/-- How many edges the table under a name needs. -/
def Dataset.edgesNeeded (dataset : Dataset) (name : String) : Nat :=
  match dataset.table name with
  | .ok table => table.edgesNeeded
  | .error _ => 0

/-- The record of the edges of a reference that the table under a name leaves over, if there are any. -/
def Dataset.leftover (dataset : Dataset) (reference : Option ClockTrace) (name : String) : List Log.Record :=
  leftoverRecords (dataset.edgesNeeded name) (reference.map fun clock => clock.risingEdges.length)

/-- The warning of a table that could not be replayed. -/
def failureRecord (name : String) (error : Error) : Log.Record :=
  ⟨.warn, .device, s!"replay of table '{name}' failed: {error.message}"⟩

/-- The warning of a dataset that was compiled for another device. -/
def Dataset.mismatchWarning (dataset : Dataset) (device : Device) : List Log.Record :=
  if dataset.device = device.name then []
  else [⟨.warn, .device, s!"replaying a dataset of device '{dataset.device}' with the configuration of device "
    ++ s!"'{device.name}'"⟩]

theorem level_of_mem_leftoverRecords {needed : Nat} {available : Option Nat} {entry : Log.Record}
    (hmem : entry ∈ leftoverRecords needed available) : entry.level = .info := by
  cases available with
  | none => cases hmem
  | some available =>
    rw [leftoverRecords] at hmem
    split at hmem
    · rw [List.mem_singleton.mp hmem]
    · cases hmem

theorem Dataset.level_of_mem_mismatchWarning (dataset : Dataset) (device : Device) (entry : Log.Record)
    (hmem : entry ∈ dataset.mismatchWarning device) : entry.level = .warn := by
  rw [mismatchWarning] at hmem
  split at hmem
  · cases hmem
  · rw [List.mem_singleton.mp hmem]

/-- Records of one level are kept or left out together. -/
theorem filter_level {records : List Log.Record} {level : Log.Level}
    (hlevel : ∀ entry ∈ records, entry.level = level) (isKept : Log.Level → Bool) :
    records.filter (fun entry => isKept entry.level) = if isKept level then records else [] := by
  split
  · next hkept =>
    rw [List.filter_eq_self]
    exact fun entry hmem => hlevel entry hmem ▸ hkept
  · next hleft =>
    rw [List.filter_eq_nil_iff]
    exact fun entry hmem => hlevel entry hmem ▸ hleft

namespace Report

variable {report : Report} {needed : String → Nat} {triggers : Option (List Float)}

/-- Every table of a report that was replayed has used so many edges. -/
def HasUsed (report : Report) (needed : String → Nat) (triggers : Option (List Float)) : Prop :=
  ∀ name replayed, (name, .ok replayed) ∈ report.outcomes → replayed.usage.HasUsed (needed name) triggers

/-- The lines that the tables of a device log in a replay: one for what was decoded, or the warning of a failure. Only
diagnostics add something, the edges that a decoded table leaves over, right behind the line of the table. -/
structure HasLines (report : Report) (device : Device) (dataset : Dataset) (reference : Option ClockTrace)
    (lines : String → Log.Record) : Prop where
  level_of_decoded : ∀ name ∈ report.decoded, (lines name).level = .debug
  eq_of_failure : ∀ name error, (name, error) ∈ report.failures → lines name = failureRecord name error
  records_eq (diagnostics : Bool) : report.records diagnostics = dataset.mismatchWarning device ++
    device.tableNames.flatMap fun name => lines name ::
      if diagnostics = true ∧ name ∈ report.decoded then dataset.leftover reference name else []

/-- A table that was replayed has a line of its own, and behind it stand the edges that it leaves over. -/
theorem outcomeRecords_ok {replayed : TableReplay} {used : Nat} (hused : replayed.usage.HasUsed used triggers)
    (report : Report) (name : String) : ∃ line : Log.Record, line.level = .debug ∧
      ∀ diagnostics, report.outcomeRecords diagnostics (name, .ok replayed) =
        [line] ++ if diagnostics then leftoverRecords used (triggers.map List.length) else [] := by
  simp only [outcomeRecords]
  cases report.device.variant with
  | toggle pseudoclocks => exact ⟨_, rfl, fun diagnostics => by rw [← hused.unusedEdges_eq]; rfl⟩
  | snapshot table layout names => exact ⟨_, rfl, fun diagnostics => by rw [← hused.unusedEdges_eq]; rfl⟩

/-- What a table that was replayed logs at some levels. -/
theorem filter_outcomeRecords_ok {replayed : TableReplay} {used : Nat} (hused : replayed.usage.HasUsed used triggers)
    (report : Report) (name : String) (diagnostics : Bool) (isKept : Log.Level → Bool) :
    (report.outcomeRecords diagnostics (name, .ok replayed)).filter (fun entry => isKept entry.level) =
      (if isKept .debug then report.outcomeRecords false (name, .ok replayed) else []) ++
        if isKept .info && diagnostics then leftoverRecords used (triggers.map List.length) else [] := by
  obtain ⟨line, hline, hrecords⟩ := outcomeRecords_ok hused report name
  -- What the line says depends on the kind of device, but not on diagnostics.
  have hlevel : ∀ entry ∈ [line], entry.level = .debug := by simpa using hline
  rw [hrecords, hrecords, List.filter_append, filter_level hlevel]
  cases diagnostics with
  | false => simp
  | true =>
    rw [if_pos rfl, filter_level fun _ => level_of_mem_leftoverRecords]
    simp

theorem flatMap_decoded {α : Type} (report : Report) (f : String → List α) :
    report.decoded.flatMap f = report.outcomes.flatMap fun outcome =>
      match outcome.2 with
      | .ok _ => f outcome.1
      | .error _ => [] := by
  rw [decoded]
  induction report.outcomes with
  | nil => rfl
  | cons outcome outcomes ih =>
    obtain ⟨name, result⟩ := outcome
    cases result <;> simp [ih]

theorem map_failures {α : Type} (report : Report) (f : String × Error → α) :
    report.failures.map f = report.outcomes.flatMap fun outcome =>
      match outcome.2 with
      | .ok _ => []
      | .error error => [f (outcome.1, error)] := by
  rw [failures]
  induction report.outcomes with
  | nil => rfl
  | cons outcome outcomes ih =>
    obtain ⟨name, result⟩ := outcome
    cases result <;> simp [ih]

/-- What the tables log at some levels: lines of those that were replayed with the edges they leave over, and
warnings of those that fail. -/
theorem filter_outcomes (hused : report.HasUsed needed triggers) (diagnostics : Bool) (isKept : Log.Level → Bool) :
    (report.outcomes.flatMap (report.outcomeRecords diagnostics)).filter (fun entry => isKept entry.level) =
      report.outcomes.flatMap fun outcome =>
        match outcome.2 with
        | .ok _ => (if isKept .debug then report.outcomeRecords false outcome else []) ++
            if isKept .info && diagnostics then
              leftoverRecords (needed outcome.1) (triggers.map List.length)
            else []
        | .error error => if isKept .warn then [failureRecord outcome.1 error] else [] := by
  rw [List.filter_flatMap]
  refine List.flatMap_congr fun outcome hmem => ?_
  obtain ⟨name, error | replayed⟩ := outcome
  · exact filter_level (by simp [outcomeRecords]) isKept
  · exact filter_outcomeRecords_ok (hused name replayed hmem) report name diagnostics isKept

/-- The warnings that come from tables. -/
theorem filter_warn_outcomes (hused : report.HasUsed needed triggers) (diagnostics : Bool) :
    (report.outcomes.flatMap (report.outcomeRecords diagnostics)).filter (·.level = .warn) =
      report.failures.map fun failure => failureRecord failure.1 failure.2 := by
  rw [map_failures]
  exact filter_outcomes hused diagnostics (· = .warn)

/-- The edges that tables leave over. -/
theorem filter_info_outcomes (hused : report.HasUsed needed triggers) :
    (report.outcomes.flatMap (report.outcomeRecords true)).filter (·.level = .info) =
      report.decoded.flatMap fun name => leftoverRecords (needed name) (triggers.map List.length) := by
  rw [flatMap_decoded]
  exact filter_outcomes hused true (· = .info)

/-- Everything else is logged without diagnostics too. -/
theorem filter_ne_info_outcomes (hused : report.HasUsed needed triggers) :
    (report.outcomes.flatMap (report.outcomeRecords true)).filter (·.level ≠ .info) =
      report.outcomes.flatMap (report.outcomeRecords false) := by
  refine (filter_outcomes hused true (· ≠ .info)).trans (List.flatMap_congr fun outcome _ => ?_)
  obtain ⟨name, error | replayed⟩ := outcome
  · rfl
  · exact List.append_nil _

end Report

namespace Device

variable {device : Device} {dataset : Dataset} {reference : Option ClockTrace} {calibration : Calibration}
  {triggers : Option (List Float)}

/-- How many edges were used is told by the table that was replayed. -/
theorem hasUsed_of_replayTable {name : String} {replayed : TableReplay}
    (hreplay : device.replayTable dataset calibration triggers name = .ok replayed) :
    replayed.usage.HasUsed (dataset.edgesNeeded name) triggers := by
  rw [replayTable, bind_eq_ok_iff] at hreplay
  obtain ⟨table, htable, hreplay⟩ := hreplay
  simp only [Dataset.edgesNeeded, htable]
  cases hvariant : device.variant with
  | toggle pseudoclocks =>
    simp only [hvariant, bind_eq_ok_iff] at hreplay
    obtain ⟨program, hprogram, shown, hshown, hreplay⟩ := hreplay
    obtain rfl := Except.ok.inj hreplay
    obtain rfl := Table.toToggleProgram_eq_ok_iff.mp hprogram
    rw [Table.edgesNeeded_ofToggleProgram]
    exact Program.hasUsed_of_replayToggle hshown
  | snapshot tableName layout names =>
    simp only [hvariant, bind_eq_ok_iff] at hreplay
    obtain ⟨program, hprogram, shown, hshown, hreplay⟩ := hreplay
    obtain rfl := Except.ok.inj hreplay
    obtain rfl := Table.toSnapshotProgram_eq_ok_iff.mp hprogram
    rw [Program.replaySnapshot, check_bind_eq_ok_iff, check_bind_eq_ok_iff] at hshown
    exact Program.hasUsed_of_replayWords hshown.2.2

/-- A report has the outcome of each table, in the order of the tables. -/
theorem report_eq_of_replay {report : Report} (hreplay : device.replay dataset reference = .ok report) :
    ∃ calibration, report = ⟨device, dataset.device, device.tableNames.map fun name =>
      (name, device.replayTable dataset calibration (reference.map ClockTrace.risingEdges) name)⟩ := by
  rw [replay, check_bind_eq_ok_iff, bind_eq_ok_iff] at hreplay
  obtain ⟨_, calibration, _, hreport⟩ := hreplay
  exact ⟨calibration, (Except.ok.inj hreport).symm⟩

theorem hasUsed_of_replay {report : Report} (hreplay : device.replay dataset reference = .ok report) :
    report.HasUsed dataset.edgesNeeded (reference.map ClockTrace.risingEdges) := by
  obtain ⟨calibration, rfl⟩ := report_eq_of_replay hreplay
  intro name replayed hmem
  obtain ⟨_, _, houtcome⟩ := List.mem_map.mp hmem
  obtain ⟨rfl, hreplayed⟩ := Prod.mk.inj houtcome
  exact hasUsed_of_replayTable hreplayed

/-- Every table of a device logs one line in a replay. -/
theorem exists_hasLines {report : Report} (hreplay : device.replay dataset reference = .ok report) :
    ∃ lines, report.HasLines device dataset reference lines := by
  obtain ⟨calibration, rfl⟩ := report_eq_of_replay hreplay
  let triggers := reference.map ClockTrace.risingEdges
  let outcome := device.replayTable dataset calibration triggers
  let report : Report := ⟨device, dataset.device, device.tableNames.map fun name => (name, outcome name)⟩
  have hreport : report.IsOf device.tableNames fun name => (outcome name).map (·.channels) :=
    Report.isOf_map device dataset.device device.tableNames outcome
  -- Names of no table get a line as well, so that lines can be chosen for all names at once.
  have hline : ∀ name, ∃ line : Log.Record, (name ∈ report.decoded → line.level = .debug) ∧
      (∀ error, outcome name = .error error → line = failureRecord name error) ∧
      (name ∈ device.tableNames → ∀ diagnostics, report.outcomeRecords diagnostics (name, outcome name) =
        line :: if diagnostics = true ∧ name ∈ report.decoded then dataset.leftover reference name else []) := by
    intro name
    have hdecoded := hreport.mem_decoded_iff name
    cases houtcome : outcome name with
    | error error =>
      have hfailed : name ∉ report.decoded := by simp [hdecoded, houtcome, Except.map]
      refine ⟨failureRecord name error, fun hmem => absurd hmem hfailed, by simp, fun _ diagnostics => ?_⟩
      rw [if_neg fun hboth => hfailed hboth.2]
      rfl
    | ok replayed =>
      obtain ⟨line, hlevel, hrecords⟩ := Report.outcomeRecords_ok (hasUsed_of_replayTable houtcome) report name
      refine ⟨line, fun _ => hlevel, by simp, fun hname diagnostics => ?_⟩
      have hmem : name ∈ report.decoded :=
        hdecoded.mpr ⟨hname, _, map_eq_ok_iff.mpr ⟨replayed, houtcome, rfl⟩⟩
      rw [hrecords, List.singleton_append, Option.map_map]
      simp only [hmem, and_true]
      rfl
  choose lines hlevel hfailure hrecords using hline
  refine ⟨lines, hlevel, fun name error hmem => ?_, fun diagnostics => ?_⟩
  · have herror := ((hreport.mem_failures_iff name error).mp hmem).2
    exact hfailure name error (map_eq_error_iff.mp herror)
  · rw [Report.records, List.flatMap_map]
    exact congrArg _ (List.flatMap_congr fun name hname => hrecords name hname diagnostics)

/-- What is logged of a replay is true. There is a warning for a dataset of another device and one for each table
that fails, in the order of the tables, and there are no other warnings. With diagnostics on, each table that was
decoded with more edges than it needs says how many of them are left over. Without diagnostics these records are
missing, and nothing else is changed: not the report, not the traces that are kept and not the other records. -/
theorem replay_logs {report : Report} (hreplay : device.replay dataset reference = .ok report) :
    (∃ lines, report.HasLines device dataset reference lines) ∧
    ((report.decoded ++ report.failures.map (·.1)).Perm device.tableNames ∧
      report.decoded.Sublist device.tableNames ∧ (report.failures.map (·.1)).Sublist device.tableNames) ∧
    (∀ diagnostics, (report.records diagnostics).filter (·.level = .warn) =
      dataset.mismatchWarning device ++ report.failures.map fun failure => failureRecord failure.1 failure.2) ∧
    (report.records true).filter (·.level = .info) = report.decoded.flatMap (dataset.leftover reference) ∧
    report.records false = (report.records true).filter (·.level ≠ .info) ∧
    ∀ session : Session, session.device = some device → session.dataset = some dataset →
      session.reference = reference →
      ∃ after, session.replay = .ok (after, report) ∧ after.traces = session.traces.insertAll report.traces ∧
        session.replayRecords = report.records session.diagnostics ∧
        ∀ isOn, (session.setDiagnostics isOn).replay = .ok (after.setDiagnostics isOn, report) ∧
          (session.setDiagnostics isOn).replayRecords = report.records isOn := by
  have hused := hasUsed_of_replay hreplay
  obtain ⟨_, _, _, hreport⟩ := of_replay_eq_ok hreplay
  have hmismatch : report.mismatchRecords = dataset.mismatchWarning device := by
    obtain ⟨calibration, rfl⟩ := report_eq_of_replay hreplay
    rfl
  have hfilter (isKept : Log.Level → Bool) := filter_level (dataset.level_of_mem_mismatchWarning device) isKept
  refine ⟨exists_hasLines hreplay, ⟨hreport.perm, hreport.decoded_sublist, hreport.failures_sublist⟩,
    fun diagnostics => ?_, ?_, ?_, fun session hdevice hdataset hreference => ?_⟩
  · rw [Report.records, hmismatch, List.filter_append, Report.filter_warn_outcomes hused]
    exact congrArg (· ++ _) (hfilter (· = .warn))
  · rw [Report.records, hmismatch, List.filter_append, Report.filter_info_outcomes hused, Option.map_map]
    exact congrArg (· ++ _) (hfilter (· = .info))
  · rw [Report.records, Report.records, hmismatch, List.filter_append, Report.filter_ne_info_outcomes hused]
    exact congrArg (· ++ _) (hfilter (· ≠ .info)).symm
  · have hsession (isOn : Bool) : (session.setDiagnostics isOn).replay =
        .ok ({ session with traces := session.traces.insertAll report.traces, diagnostics := isOn }, report) := by
      rw [Session.replay, Session.requireDevice, Session.requireDataset]
      simp only [Session.setDiagnostics, hdevice, hdataset, hreference, bind_ok, hreplay]
      rfl
    have hrecords (isOn : Bool) : (session.setDiagnostics isOn).replayRecords = report.records isOn := by
      rw [Session.replayRecords, hsession isOn]
      rfl
    exact ⟨{ session with traces := session.traces.insertAll report.traces }, hsession session.diagnostics, rfl,
      hrecords session.diagnostics, fun isOn => ⟨hsession isOn, hrecords isOn⟩⟩

/-- Of three clock lines the first one is decoded and needs one of three edges, the second one is missing and the
third one waits for a fourth edge. The dataset is that of another device. -/
theorem replay_logs_clocks :
    let device : Device := ⟨"clocks", ⟨1, 8, 1⟩, ⟨some 0.5, some 3⟩, .toggle ["a", "b", "c"]⟩
    let dataset : Dataset := ⟨"spare", OrderedMap.ofEntries
      [("c", .toggle [0, 2, 0, 2, 0, 0, 0] [0, 1, 0, 1, 0, 0, 0]), ("a", .toggle [2, 0, 0] [1, 0, 0])]⟩
    let reference : ClockTrace := ⟨[0, 1, 2, 3, 4], [1, 0, 1, 0, 1], rfl, rfl, rfl⟩
    ∃ report, device.replay dataset (some reference) = .ok report ∧
      (report.records true).filter (·.level = .warn) =
        [⟨.warn, .device, "replaying a dataset of device 'spare' with the configuration of device 'clocks'"⟩,
          failureRecord "b" (.malformedProgram (.missingTable "spare" "b")),
          failureRecord "c" (.triggerExhausted 4 3)] ∧
      (report.records true).filter (·.level = .info) =
        [⟨.info, .decoder, "2 of 3 trigger edges were not needed by the program"⟩] ∧
      report.records false = (report.records true).filter (·.level ≠ .info) ∧
      ∃ after, ({ device, dataset, reference } : Session).replay = .ok (after, report) ∧
        ({ device, dataset, reference } : Session).replayRecords = report.records false ∧
        (Session.setDiagnostics { device, dataset, reference } true).replay =
          .ok (after.setDiagnostics true, report) ∧
        (Session.setDiagnostics { device, dataset, reference } true).replayRecords = report.records true := by
  intro device dataset reference
  have hresult : (device.replay dataset (some reference)).map (fun report => (report.decoded, report.failures)) =
      .ok (["a"], [("b", .malformedProgram (.missingTable "spare" "b")), ("c", .triggerExhausted 4 3)]) := by
    decide +kernel
  obtain ⟨report, hreplay, hfound⟩ := map_eq_ok_iff.mp hresult
  obtain ⟨hdecoded, hfailures⟩ := Prod.mk.inj hfound
  obtain ⟨_, _, hwarnings, hleftover, hoff, hsession⟩ := replay_logs hreplay
  obtain ⟨after, hafter, _, hrecords, hswitch⟩ := hsession { device, dataset, reference } rfl rfl rfl
  refine ⟨report, hreplay, ?_, ?_, hoff, after, hafter, hrecords, hswitch true⟩
  · rw [hwarnings, hfailures]
    rfl
  · rw [hleftover, hdecoded]
    decide +kernel

end Device

end Pseudoclock
