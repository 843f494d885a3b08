import Mathlib
import Pseudoclock.Proofs.Device.Independence
import Pseudoclock.Proofs.OrderedMap

/-!
Where the traces of a replay go. Each channel has a name of its own, so that none of the traces that are put into
a map is lost or takes the place of another one.
-/

namespace Pseudoclock.Device

variable {device : Device} {dataset : Dataset} {reference : Option ClockTrace} {calibration : Calibration}
  {triggers : Option (List Float)}

/-- A replay is only refused for its description: it contradicts itself, or a delay is not given. -/
theorem exists_replay_eq_error_iff : (∃ error, device.replay dataset reference = .error error) ↔
    device.validate ≠ .ok () ∨ device.delays.triggerDelay = none ∨ device.delays.waitDelay = none := by
  cases hvalid : device.validate with
  | error error =>
    refine iff_of_true ⟨error, ?_⟩ (.inl (by simp))
    rw [replay, hvalid]
    rfl
  | ok _ =>
    cases htrigger : device.delays.triggerDelay with
    | none =>
      refine iff_of_true ?_ (.inr (.inl rfl))
      rw [replay, hvalid, calibration, htrigger]
      exact ⟨_, rfl⟩
    | some triggerDelay =>
      cases hwait : device.delays.waitDelay with
      | none =>
        refine iff_of_true ?_ (.inr (.inr rfl))
        rw [replay, hvalid, calibration, htrigger, hwait]
        exact ⟨_, rfl⟩
      | some waitDelay =>
        obtain ⟨calibration, hcalibration, _⟩ := exists_calibration hvalid (by simp [htrigger]) (by simp [hwait])
        obtain ⟨report, hreplay, _⟩ := exists_replay hvalid hcalibration dataset reference
        refine iff_of_false ?_ (by simp)
        rintro ⟨error, herror⟩
        rw [hreplay] at herror
        cases herror

/-- A report is that of a description without contradictions, with its constants. -/
theorem of_replay_eq_ok {report : Report} (hreplay : device.replay dataset reference = .ok report) :
    device.validate = .ok () ∧ ∃ calibration, device.calibration = .ok calibration ∧
      report.IsOf device.tableNames
        (device.tableTraces dataset calibration (reference.map ClockTrace.risingEdges)) := by
  have hstages := hreplay
  rw [replay, check_bind_eq_ok_iff, bind_eq_ok_iff] at hstages
  obtain ⟨hvalid, calibration, hcalibration, _⟩ := hstages
  obtain ⟨_, hsame, hreport, _⟩ := exists_replay hvalid hcalibration dataset reference
  obtain rfl := Except.ok.inj (hreplay.symm.trans hsame)
  exact ⟨hvalid, calibration, hcalibration, hreport⟩

/-- The channels of the table under a name. -/
def channelsOf (device : Device) (table : String) : List String :=
  match device.variant with
  | .toggle _ => [table]
  | .snapshot .. => device.channelNames

/-- What is decoded for a channel: the trace of its own table, or its share of the traces of an output bank, which
has as many of them as it has names. -/
def IsTraceOf (device : Device) (dataset : Dataset) (calibration : Calibration) (triggers : Option (List Float))
    (channel : String) (trace : Trace UInt8) : Prop :=
  match device.variant with
  | .toggle _ => ∃ table program replayed, dataset.table channel = .ok table ∧
      table.toToggleProgram = .ok program ∧ program.replayToggle calibration triggers = .ok replayed ∧
      trace = replayed.trace
  | .snapshot tableName layout _ => ∃ table program, ∃ traces : List (Trace UInt8), ∃ index : Nat,
      dataset.table tableName = .ok table ∧ table.toSnapshotProgram = .ok program ∧
      program.replayChannels calibration layout triggers = .ok traces ∧
      traces.length = device.channelNames.length ∧ device.channelNames[index]? = some channel ∧
      traces[index]? = some trace

theorem length_of_replayChannels {program : Program Snapshot} {layout : Layout} {traces : List (Trace UInt8)}
    (hreplay : program.replayChannels calibration layout triggers = .ok traces) : traces.length = layout.channels := by
  rw [Program.replayChannels, bind_eq_ok_iff] at hreplay
  obtain ⟨replayed, _, htraces⟩ := hreplay
  obtain rfl := Except.ok.inj htraces
  rw [Layout.demultiplex, List.length_map, List.length_range]

/-- A table that is decoded has a trace for each of its channels, in their order. -/
theorem tableTraces_eq_ok (hvalid : device.validate = .ok ()) {name : String}
    {channels : List (String × Trace UInt8)} (hname : name ∈ device.tableNames)
    (htraces : device.tableTraces dataset calibration triggers name = .ok channels) :
    channels.map (·.1) = device.channelsOf name ∧
      ∀ channel ∈ channels, device.IsTraceOf dataset calibration triggers channel.1 channel.2 := by
  rw [tableTraces, bind_eq_ok_iff] at htraces
  obtain ⟨table, htable, hdecode⟩ := htraces
  simp only [channelsOf, IsTraceOf]
  cases hvariant : device.variant with
  | toggle pseudoclocks =>
    simp only [decodeTable, hvariant, bind_eq_ok_iff] at hdecode
    obtain ⟨program, hprogram, replayed, hreplay, hchannels⟩ := hdecode
    obtain rfl := Except.ok.inj hchannels
    refine ⟨rfl, fun channel hchannel => ?_⟩
    obtain rfl := List.mem_singleton.mp hchannel
    exact ⟨table, program, replayed, htable, hprogram, hreplay, rfl⟩
  | snapshot tableName layout names =>
    simp only [decodeTable, hvariant, bind_eq_ok_iff] at hdecode
    obtain ⟨program, hprogram, traces, hreplay, hchannels⟩ := hdecode
    obtain rfl := Except.ok.inj hchannels
    rw [tableNames, hvariant, List.mem_singleton] at hname
    have hlength : traces.length = device.channelNames.length := by
      rw [length_of_replayChannels hreplay, (channelNames_of_validate hvalid).2.2, channelCount, hvariant]
    refine ⟨List.map_fst_zip hlength.ge, fun channel hchannel => ?_⟩
    obtain ⟨index, hindex⟩ := List.getElem?_of_mem hchannel
    obtain ⟨hchannel, htrace⟩ := List.getElem?_zip_eq_some.mp hindex
    exact ⟨table, program, traces, index, hname ▸ htable, hprogram, hreplay, hlength, hchannel, htrace⟩

/-- The channels of tables stand in the order of the device's channels if the tables stand in its order. -/
theorem channels_sublist {tables : List String} (hsublist : tables.Sublist device.tableNames) :
    (tables.flatMap device.channelsOf).Sublist device.channelNames := by
  have hchannelsOf : device.channelsOf = fun table => match device.variant with
    | .toggle _ => [table]
    | .snapshot .. => device.channelNames := rfl
  rw [tableNames] at hsublist
  rw [hchannelsOf]
  cases hvariant : device.variant with
  | toggle pseudoclocks =>
    have hnames : device.channelNames = pseudoclocks := by rw [channelNames, hvariant]
    simpa [hvariant, hnames] using hsublist
  | snapshot table layout names =>
    simp only [hvariant] at hsublist
    rcases List.sublist_singleton.mp hsublist with rfl | rfl <;> simp

/-- The traces of a report stand under the names of the channels of the decoded tables. -/
theorem names_traces {report : Report} (hvalid : device.validate = .ok ())
    (hreport : report.IsOf device.tableNames (device.tableTraces dataset calibration triggers)) :
    report.traces.map (·.1) = report.decoded.flatMap device.channelsOf ∧
      ∀ channel ∈ report.traces, device.IsTraceOf dataset calibration triggers channel.1 channel.2 := by
  obtain ⟨channels, hchannels, htraces⟩ := hreport.traces_eq
  have hdecoded : ∀ name ∈ report.decoded, (channels name).map (·.1) = device.channelsOf name ∧
      ∀ channel ∈ channels name, device.IsTraceOf dataset calibration triggers channel.1 channel.2 := fun name hname =>
    tableTraces_eq_ok hvalid (hreport.decoded_sublist.subset hname) (hchannels name hname)
  rw [htraces, List.map_flatMap]
  refine ⟨List.flatMap_congr fun name hname => (hdecoded name hname).1, fun channel hchannel => ?_⟩
  obtain ⟨name, hname, hchannel⟩ := List.mem_flatMap.mp hchannel
  exact (hdecoded name hname).2 channel hchannel

/-- No trace of a report is lost in a map, where they stand in the order of the device's channels. -/
theorem delivered_traces {report : Report} (hvalid : device.validate = .ok ())
    (hreport : report.IsOf device.tableNames (device.tableTraces dataset calibration triggers)) :
    (OrderedMap.ofEntries report.traces).entries = report.traces ∧
      (OrderedMap.ofEntries report.traces).names = report.decoded.flatMap device.channelsOf ∧
      (OrderedMap.ofEntries report.traces).names.Sublist device.channelNames := by
  obtain ⟨hnames, _⟩ := names_traces hvalid hreport
  have hsublist := channels_sublist hreport.decoded_sublist
  have hnodup := (channelNames_of_validate hvalid).1.sublist hsublist
  have hentries := OrderedMap.entries_ofEntries report.traces (hnames.symm ▸ hnodup)
  have hdelivered : (OrderedMap.ofEntries report.traces).names = report.decoded.flatMap device.channelsOf := by
    rw [OrderedMap.names, hentries, hnames]
  exact ⟨hentries, hdelivered, hdelivered ▸ hsublist⟩

/-- A description without contradictions has a name of its own for each channel, and it can be replayed if both
delays are given. The traces of a replay then make a map with one entry for each channel of the decoded tables, in
the order of the device's channels, each with what was decoded for that channel. Put into a map that has entries
already, they change nothing under other names. Without a report there are no traces at all. -/
theorem replay_deliversChannels (device : Device) (dataset : Dataset) (reference : Option ClockTrace) :
    (device.validate = .ok () → device.channelNames.Nodup ∧ "" ∉ device.channelNames ∧
      device.channelNames.length = device.channelCount) ∧
    ((∃ error, device.replay dataset reference = .error error) ↔
      device.validate ≠ .ok () ∨ device.delays.triggerDelay = none ∨ device.delays.waitDelay = none) ∧
    ∀ report, device.replay dataset reference = .ok report →
      (OrderedMap.ofEntries report.traces).names = report.decoded.flatMap device.channelsOf ∧
      (OrderedMap.ofEntries report.traces).names.Sublist device.channelNames ∧
      (∃ calibration, device.calibration = .ok calibration ∧
        ∀ channel trace, (OrderedMap.ofEntries report.traces).get? channel = some trace →
          device.IsTraceOf dataset calibration (reference.map ClockTrace.risingEdges) channel trace) ∧
      ∀ sink : OrderedMap (Trace UInt8),
        (sink.insertAll report.traces).IsUpdate sink (OrderedMap.ofEntries report.traces) := by
  refine ⟨channelNames_of_validate, exists_replay_eq_error_iff, fun report hreplay => ?_⟩
  obtain ⟨hvalid, calibration, hcalibration, hreport⟩ := of_replay_eq_ok hreplay
  obtain ⟨_, htraces⟩ := names_traces hvalid hreport
  obtain ⟨hentries, hdelivered, hsublist⟩ := delivered_traces hvalid hreport
  have hnodup := (OrderedMap.ofEntries report.traces).nodup
  rw [hentries] at hnodup
  refine ⟨hdelivered, hsublist, ⟨calibration, hcalibration, fun channel trace hget => ?_⟩,
    fun sink => sink.isUpdate_insertAll hnodup⟩
  rw [OrderedMap.get?_eq_some_iff, hentries] at hget
  exact htraces (channel, trace) hget

/-- Two named channels, one of which has a trace from before, are put behind another trace. -/
theorem replay_deliversChannels_bank :
    let device : Device := ⟨"bank", ⟨1, 8, 1⟩, ⟨some 0.5, some 3⟩, .snapshot "words" ⟨2, 8, .big⟩ ["b", "a"]⟩
    let dataset : Dataset := ⟨"bank", OrderedMap.ofEntries [("words", .snapshot [4, 0, 0] [2, 0, 0])]⟩
    let sink : OrderedMap (Trace UInt8) := OrderedMap.ofEntries [("x", ⟨[1], [1]⟩), ("a", ⟨[], []⟩)]
    device.validate = .ok () ∧ device.channelNames.length = 2 ∧
    ∃ report, device.replay dataset none = .ok report ∧ report.decoded = ["words"] ∧
      (OrderedMap.ofEntries report.traces).names = ["b", "a"] ∧
      (sink.insertAll report.traces).names = ["x", "a", "b"] ∧
      (sink.insertAll report.traces).get? "a" = some ⟨[0.5], [1]⟩ ∧
      (sink.insertAll report.traces).entries[0]? = some ("x", ⟨[1], [1]⟩) := by
  intro device dataset sink
  have hvalid : device.validate = .ok () := by decide +kernel
  have hresult : (device.replay dataset none).map (fun report =>
      (report.decoded, (OrderedMap.ofEntries report.traces).get? "a")) = .ok (["words"], some ⟨[0.5], [1]⟩) := by
    decide +kernel
  obtain ⟨report, hreplay, hfound⟩ := map_eq_ok_iff.mp hresult
  obtain ⟨hdecoded, htrace⟩ := Prod.mk.inj hfound
  obtain ⟨hnames, _, hdelivers⟩ := replay_deliversChannels device dataset none
  obtain ⟨hdelivered, _, _, hupdate⟩ := hdelivers report hreplay
  rw [hdecoded] at hdelivered
  refine ⟨hvalid, (hnames hvalid).2.2, report, hreplay, hdecoded, hdelivered, ?_, ?_, ?_⟩
  · rw [(hupdate sink).names_eq, hdelivered]
    rfl
  · rw [(hupdate sink).get?_eq, htrace]
    rfl
  · exact (hupdate sink).getElem?_eq rfl (by rw [hdelivered]; decide)

end Pseudoclock.Device
