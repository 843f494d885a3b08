import Mathlib
import Pseudoclock.Proofs.CommandLine.Script
import Pseudoclock.Proofs.Device.Delivery
import Pseudoclock.Proofs.Device.RoundTrip
import Pseudoclock.Proofs.Format.Trace

/-!
What commands leave behind. A compilation writes its dataset or changes nothing. A decoding writes the traces of all
tables that are replayed, and changes nothing else; that some of them are not replayed is only said by its end.
-/

namespace Pseudoclock.CommandLine

variable {files : FileSystem} {device events program output : String} {reference : Option String}

theorem runOn_record (records : List Log.Record) (world : World) :
    Action.runOn world (liftM (Script.record records)) = (.ok (), world.report (records.map .record)) :=
  rfl

section Compiling

/-- The inputs of a compilation load, and they give a dataset. -/
def CompilesTo (files : FileSystem) (device events : String) (dataset : Dataset) : Prop :=
  ∃ description timelines, files.Holds device Device.ofText description ∧
    files.Holds events (Json.decode Timeline.mapOfJson) timelines ∧ description.compile timelines = .ok dataset

/-- What a compilation comes to: where its dataset went, or what kept it from being written. -/
def compiled (files : FileSystem) (device events output : String) : Except Failure FileSystem.Written := do
  let description ← files.load (.loadDevice device) (.loadDevice device) Device.ofText device
  let timelines ← files.load (.read events) (.parseEvents events)
    (fun text => (Json.decode Timeline.mapOfJson text).mapError .unreadable) events
  let dataset ← (description.compile timelines).mapError fun error => ⟨.compile description.name, .error error⟩
  (files.write output dataset.toText).mapError fun fault => ⟨.write output, .file fault⟩

theorem compiled_eq_ok_iff {written : FileSystem.Written} :
    compiled files device events output = .ok written ↔
      ∃ dataset, CompilesTo files device events dataset ∧ files.write output dataset.toText = .ok written := by
  simp only [compiled, CompilesTo, bind_eq_ok_iff, FileSystem.load_eq_ok_iff, mapError_eq_ok_iff, FileSystem.Holds]
  constructor
  · rintro ⟨description, hdevice, timelines, hevents, dataset, hcompile, hwrite⟩
    exact ⟨dataset, ⟨description, timelines, hdevice, hevents, hcompile⟩, hwrite⟩
  · rintro ⟨dataset, ⟨description, timelines, hdevice, hevents, hcompile⟩, hwrite⟩
    exact ⟨description, hdevice, timelines, hevents, dataset, hcompile, hwrite⟩

theorem runOn_runCompile (diagnostics : Bool) (device events output : String) (world : World) :
    ∃ after, Action.runOn world (runCompile diagnostics device events output) =
        ((compiled world.files device events output).map fun _ => (), after) ∧
      after.files = (compiled world.files device events output).toOption.elim world.files world.files.behind := by
  rw [runCompile, (Action.isLook_loadDevice device).runOn_bind]
  simp only [compiled]
  cases world.files.load (.loadDevice device) (.loadDevice device) Device.ofText device with
  | error failure => exact ⟨world, rfl, rfl⟩
  | ok description =>
    simp only [(Action.isLook_loadTimelines events).runOn_bind, bind_ok]
    cases world.files.load (.read events) (.parseEvents events)
      (fun text => (Json.decode Timeline.mapOfJson text).mapError .unreadable) events with
    | error failure => exact ⟨world, rfl, rfl⟩
    | ok timelines =>
      simp only [Action.runOn_bind, runOn_record, Action.isLook_attempt _ _ _, bind_ok]
      cases description.compile timelines with
      | error error => exact ⟨_, rfl, rfl⟩
      | ok dataset =>
        simp only [Except.mapError, bind_ok, Action.runOn_writeFile, World.report]
        cases world.files.write output dataset.toText with
        | error fault => exact ⟨_, rfl, rfl⟩
        | ok written => exact ⟨_, rfl, World.files_accept _ _ written⟩

end Compiling

section Decoding

/-- The inputs of a decoding load, and their replay gives a report. -/
def DecodesTo (files : FileSystem) (device program : String) (reference : Option String) (description : Device)
    (report : Report) : Prop :=
  files.Holds device Device.ofText description ∧
    ∃ dataset clock, files.Holds program Dataset.ofText dataset ∧
      Option.Rel (fun path clock => files.Holds path (Json.decode ClockTrace.ofJson) clock) reference clock ∧
      description.replay dataset clock = .ok report

/-- The document of the traces of all tables that were replayed. -/
def tracesText (report : Report) : String :=
  (tracesToJson (OrderedMap.ofEntries report.traces)).text .indented

/-- What a decoding has to deliver, or what kept it from a replay. -/
def decoded (files : FileSystem) (device program : String) (reference : Option String) :
    Except Failure (Device × Report) := do
  let description ← files.load (.loadDevice device) (.loadDevice device) Device.ofText device
  let dataset ← files.load (.readProgram program) (.readProgram program) Dataset.ofText program
  let clock ← reference.mapM fun path => files.load (.read path) (.parseReference path)
    (fun text => (Json.decode ClockTrace.ofJson text).mapError .unreadable) path
  let report ← (description.replay dataset clock).mapError fun error => ⟨.replay description.name, .error error⟩
  return (description, report)

private theorem mapM_load_eq_ok_iff {clock : Option ClockTrace} :
    (reference.mapM fun path => files.load (.read path) (.parseReference path)
      (fun text => (Json.decode ClockTrace.ofJson text).mapError .unreadable) path) = .ok clock ↔
      Option.Rel (fun path clock => files.Holds path (Json.decode ClockTrace.ofJson) clock) reference clock := by
  cases reference with
  | none =>
    constructor
    · rintro ⟨⟩
      exact .none
    · rintro ⟨⟩
      rfl
  | some path =>
    change (files.load _ _ _ path >>= fun clock => Except.ok (some clock)) = _ ↔ _
    simp only [bind_eq_ok_iff, FileSystem.load_eq_ok_iff, FileSystem.Holds, mapError_eq_ok_iff]
    constructor
    · rintro ⟨found, hfound, ⟨⟩⟩
      exact .some hfound
    · rintro ⟨hfound⟩
      exact ⟨_, hfound, rfl⟩

theorem decoded_eq_ok_iff {description : Device} {report : Report} :
    decoded files device program reference = .ok (description, report) ↔
      DecodesTo files device program reference description report := by
  simp only [decoded, DecodesTo, bind_eq_ok_iff, FileSystem.load_eq_ok_iff, mapError_eq_ok_iff, mapM_load_eq_ok_iff,
    pure, Except.pure]
  constructor
  · rintro ⟨_, hdevice, dataset, hprogram, clock, hreference, _, hreplay, ⟨⟩⟩
    exact ⟨hdevice, dataset, clock, hprogram, hreference, hreplay⟩
  · rintro ⟨hdevice, dataset, clock, hprogram, hreference, hreplay⟩
    exact ⟨description, hdevice, dataset, hprogram, clock, hreference, report, hreplay, rfl⟩

/-- How a decoding ends that delivered its traces: the first table that was not replayed is the cause of a
failure. -/
def ending (report : Report) : Except Failure Unit :=
  match report.failures with
  | [] => .ok ()
  | (_, error) :: _ => .error ⟨.replayTables report.failures.length, .error error⟩

/-- The last step of a decoding. -/
def settle (replayed : Report) : Action Unit :=
  match replayed.failures with
  | [] => return ()
  | (_, error) :: _ => do
    let names := ", ".intercalate (replayed.failures.map (·.1))
    report .warn s!"tables without traces: {names}"
    throw ⟨.replayTables replayed.failures.length, .error error⟩

theorem runOn_settle (replayed : Report) (world : World) :
    ∃ notices, Action.runOn world (settle replayed) = (ending replayed, world.report notices) := by
  rw [settle, ending]
  split
  · exact ⟨[], by rw [World.report, List.append_nil]; rfl⟩
  · exact ⟨_, rfl⟩

theorem runOn_runDecode (diagnostics : Bool) (output : Option String) (world : World) :
    Action.runOn world (runDecode diagnostics device program reference output) =
      match decoded world.files device program reference with
      | .error failure => (.error failure, world)
      | .ok (_, replayed) =>
        Action.runOn (world.report ((replayed.records diagnostics).map .record))
          (deliver output (tracesText replayed) >>= fun _ => settle replayed) := by
  rw [runDecode, (Action.isLook_loadDevice device).runOn_bind]
  simp only [decoded]
  cases world.files.load (.loadDevice device) (.loadDevice device) Device.ofText device with
  | error failure => rfl
  | ok description =>
    simp only [(Action.isLook_loadDataset program).runOn_bind, bind_ok]
    cases world.files.load (.readProgram program) (.readProgram program) Dataset.ofText program with
    | error failure => rfl
    | ok dataset =>
      simp only [(Action.isLook_mapM Action.isLook_loadReference reference).runOn_bind, bind_ok]
      cases reference.mapM fun path => world.files.load (.read path) (.parseReference path)
        (fun text => (Json.decode ClockTrace.ofJson text).mapError .unreadable) path with
      | error failure => rfl
      | ok clock =>
        simp only [(Action.isLook_attempt _ _).runOn_bind, bind_ok]
        cases description.replay dataset clock with
        | error error => rfl
        | ok replayed => rfl

/-- Where the traces went, and how a decoding with a report ends. -/
theorem runOn_runDecode_of_decodes (diagnostics : Bool) (output : Option String) (world : World) {description : Device}
    {replayed : Report} (hdecodes : DecodesTo world.files device program reference description replayed) :
    ∃ result after, Action.runOn world (runDecode diagnostics device program reference output) = (result, after) ∧
      match output with
      | none => result = ending replayed ∧ after.files = world.files ∧
          after.printed = world.printed ++ (tracesText replayed ++ "\n")
      | some path =>
        match world.files.write path (tracesText replayed) with
        | .ok written => result = ending replayed ∧ after.files = world.files.behind written
        | .error fault => result = .error ⟨.write path, .file fault⟩ ∧ after.files = world.files := by
  rw [runOn_runDecode, decoded_eq_ok_iff.mpr hdecodes]
  simp only [Action.runOn_bind]
  cases output with
  | none =>
    obtain ⟨notices, hsettle⟩ := runOn_settle replayed
      ((world.report ((replayed.records diagnostics).map .record)).print (tracesText replayed ++ "\n"))
    exact ⟨_, _, hsettle, rfl, rfl, rfl⟩
  | some path =>
    simp only [deliver, Action.runOn_writeFile, World.report]
    cases world.files.write path (tracesText replayed) with
    | error fault => exact ⟨_, _, rfl, rfl, rfl⟩
    | ok written =>
      obtain ⟨notices, hsettle⟩ := runOn_settle replayed
        ((world.report ((replayed.records diagnostics).map .record)).accept (tracesText replayed) written)
      exact ⟨_, _, hsettle, rfl, World.files_accept _ _ written⟩

end Decoding

section Invocations

/-- The arguments ask for a command, whatever else they say of the log. -/
def Asks (arguments : List String) (environment : Environment) (command : Command) : Prop :=
  ∃ threshold diagnostics,
    Invocation.ofArguments arguments environment.device = .ok ⟨threshold, diagnostics, command⟩

variable {environment : Environment} {arguments : List String} {command : Command}

/-- The outcome of an invocation is that of its command. -/
theorem runOn_of_asks (hasks : Asks arguments environment command) (files : FileSystem) (describe : Error → String) :
    ∃ diagnostics result after, Action.runOn { files } (command.run diagnostics) = (result, after) ∧
      (runOn files environment describe arguments).files = after.files ∧
      (runOn files environment describe arguments).printed = after.printed ∧
      ((runOn files environment describe arguments).exitCode = 0 ↔ result = .ok ()) ∧
      ∀ failure, result = .error failure → ∃ earlier,
        (runOn files environment describe arguments).reported = earlier ++ failure.report describe := by
  obtain ⟨threshold, diagnostics, harguments⟩ := hasks
  rw [runOn, harguments]
  refine ⟨diagnostics, _, _, rfl, ?_⟩
  simp only
  cases ((command.run diagnostics).run.runOn { files }).1 with
  | ok _ => exact ⟨rfl, rfl, by simp, by simp⟩
  | error failure => exact ⟨rfl, rfl, by simp, fun _ hsame => ⟨_, by rw [Except.error.inj hsame]⟩⟩

/-- What a compilation leaves behind: everything as it was, or the text of its dataset in the output file, and
nothing else changed. -/
structure CompileEffect (files : FileSystem) (device events output : String) (outcome : Outcome) : Prop where
  unchanged : outcome.exitCode ≠ 0 → outcome.files = files
  delivers : outcome.exitCode = 0 → ∃ dataset, CompilesTo files device events dataset ∧
    files.IsDelivery output dataset.toText outcome.files
  succeeds (dataset : Dataset) (hcompiles : CompilesTo files device events dataset)
    (written : FileSystem.Written) (hwrite : files.write output dataset.toText = .ok written) : outcome.exitCode = 0

theorem compileEffect_runOn (hasks : Asks arguments environment (.compile device events output))
    (describe : Error → String) :
    CompileEffect files device events output (runOn files environment describe arguments) := by
  obtain ⟨diagnostics, result, after, hrun, hfiles, _, hexit, _⟩ := runOn_of_asks hasks files describe
  obtain ⟨_, hsame, hafter⟩ := runOn_runCompile diagnostics device events output { files }
  obtain ⟨rfl, rfl⟩ := Prod.mk.inj (hrun.symm.trans hsame)
  rw [← hfiles] at hafter
  cases hcompiled : compiled files device events output with
  | error failure =>
    simp only [hcompiled, Except.map, reduceCtorEq, iff_false] at hexit
    rw [hcompiled] at hafter
    refine ⟨fun _ => hafter, fun hzero => absurd hzero hexit, fun dataset hcompiles written hwrite => ?_⟩
    rw [compiled_eq_ok_iff.mpr ⟨dataset, hcompiles, hwrite⟩] at hcompiled
    cases hcompiled
  | ok written =>
    simp only [hcompiled, Except.map, iff_true] at hexit
    rw [hcompiled] at hafter
    obtain ⟨dataset, hcompiles, hwrite⟩ := compiled_eq_ok_iff.mp hcompiled
    refine ⟨fun hnonzero => absurd hexit hnonzero, fun _ => ⟨dataset, hcompiles, ?_⟩, fun _ _ _ _ => hexit⟩
    rw [hafter]
    exact FileSystem.isDelivery_of_write hwrite

/-- What a decoding leaves behind. Without a report that is nothing. With one, the traces of all tables that were
replayed are put out in the order of the channels, also if there are tables that were not replayed; these make the
decoding end with a failure, of which the first one of them is the cause. The text of the traces has each of them
under the name of its channel, as it was decoded for that channel, and can be read back if its times are stable. -/
structure DecodeEffect (files : FileSystem) (device program : String) (reference output : Option String)
    (describe : Error → String) (outcome : Outcome) : Prop where
  refuses (hrefused : ∀ description replayed, ¬DecodesTo files device program reference description replayed) :
    outcome.exitCode ≠ 0 ∧ outcome.files = files ∧ outcome.printed = ""
  orders (description : Device) (replayed : Report)
    (hdecodes : DecodesTo files device program reference description replayed) :
    (replayed.decoded ++ replayed.failures.map (·.1)).Perm description.tableNames ∧
      (replayed.failures.map (·.1)).Sublist description.tableNames ∧
      (OrderedMap.ofEntries replayed.traces).names = replayed.decoded.flatMap description.channelsOf ∧
      (OrderedMap.ofEntries replayed.traces).names.Sublist description.channelNames
  shows (description : Device) (replayed : Report)
    (hdecodes : DecodesTo files device program reference description replayed) :
    HoldsTraces (tracesText replayed) replayed.traces ∧
      ((∀ entry ∈ replayed.traces, ∀ time ∈ entry.2.times, Json.IsStable time) →
        Json.decode (Json.Decode.map Trace.levelsOfJson) (tracesText replayed) = .ok (.ofEntries replayed.traces)) ∧
      (OrderedMap.ofEntries replayed.traces).entries = replayed.traces ∧
      ∃ dataset clock calibration, files.Holds program Dataset.ofText dataset ∧
        Option.Rel (fun path clock => files.Holds path (Json.decode ClockTrace.ofJson) clock) reference clock ∧
        description.calibration = .ok calibration ∧ ∀ entry ∈ replayed.traces,
          description.IsTraceOf dataset calibration (clock.map ClockTrace.risingEdges) entry.1 entry.2
  prints (description : Device) (replayed : Report)
    (hdecodes : DecodesTo files device program reference description replayed) (hprints : output = none) :
    outcome.files = files ∧ outcome.printed = tracesText replayed ++ "\n"
  delivers (description : Device) (replayed : Report)
    (hdecodes : DecodesTo files device program reference description replayed) (path : String)
    (hpath : output = some path) :
    (∀ written, files.write path (tracesText replayed) = .ok written →
      files.IsDelivery path (tracesText replayed) outcome.files) ∧
    ∀ fault, files.write path (tracesText replayed) = .error fault → outcome.exitCode ≠ 0 ∧ outcome.files = files
  ends (description : Device) (replayed : Report)
    (hdecodes : DecodesTo files device program reference description replayed)
    (hwrites : ∀ path, output = some path → ∃ written, files.write path (tracesText replayed) = .ok written) :
    (outcome.exitCode = 0 ↔ replayed.failures = []) ∧
      ∀ name error others, replayed.failures = (name, error) :: others → ∃ earlier, outcome.reported =
        earlier ++ ("error: " ++ (toString replayed.failures.length ++ " tables could not be replayed") ++
          "\n  caused by: " ++ describe error ++ "\n")

theorem ending_eq_ok_iff {replayed : Report} : ending replayed = .ok () ↔ replayed.failures = [] := by
  rw [ending]
  split <;> simp_all

/-- The tables of a report are those of its device, and its traces stand in the order of the channels. -/
theorem DecodesTo.orders {description : Device} {replayed : Report}
    (hdecodes : DecodesTo files device program reference description replayed) :
    (replayed.decoded ++ replayed.failures.map (·.1)).Perm description.tableNames ∧
      (replayed.failures.map (·.1)).Sublist description.tableNames ∧
      (OrderedMap.ofEntries replayed.traces).names = replayed.decoded.flatMap description.channelsOf ∧
      (OrderedMap.ofEntries replayed.traces).names.Sublist description.channelNames := by
  obtain ⟨_, dataset, clock, _, _, hreplay⟩ := hdecodes
  obtain ⟨hvalid, calibration, _, hreport⟩ := Device.of_replay_eq_ok hreplay
  obtain ⟨_, hnames, hsublist⟩ := Device.delivered_traces hvalid hreport
  exact ⟨hreport.perm, hreport.failures_sublist, hnames, hsublist⟩

/-- The text of a report's traces names each of them and says what was decoded for it. -/
theorem DecodesTo.shows {description : Device} {replayed : Report}
    (hdecodes : DecodesTo files device program reference description replayed) :
    HoldsTraces (tracesText replayed) replayed.traces ∧
      ((∀ entry ∈ replayed.traces, ∀ time ∈ entry.2.times, Json.IsStable time) →
        Json.decode (Json.Decode.map Trace.levelsOfJson) (tracesText replayed) = .ok (.ofEntries replayed.traces)) ∧
      (OrderedMap.ofEntries replayed.traces).entries = replayed.traces ∧
      ∃ dataset clock calibration, files.Holds program Dataset.ofText dataset ∧
        Option.Rel (fun path clock => files.Holds path (Json.decode ClockTrace.ofJson) clock) reference clock ∧
        description.calibration = .ok calibration ∧ ∀ entry ∈ replayed.traces,
          description.IsTraceOf dataset calibration (clock.map ClockTrace.risingEdges) entry.1 entry.2 := by
  obtain ⟨_, dataset, clock, hprogram, hreference, hreplay⟩ := hdecodes
  obtain ⟨hvalid, calibration, hcalibration, hreport⟩ := Device.of_replay_eq_ok hreplay
  obtain ⟨hentries, _, _⟩ := Device.delivered_traces hvalid hreport
  have hholds := holdsTraces_text (OrderedMap.ofEntries replayed.traces) .indented
  have hreads := @decode_tracesToJson .indented (OrderedMap.ofEntries replayed.traces)
  rw [hentries] at hholds hreads
  exact ⟨hholds, hreads, hentries, dataset, clock, calibration, hprogram, hreference, hcalibration,
    (Device.names_traces hvalid hreport).2⟩

/-- The report of a failure says what was to be done, and then why it was not. -/
theorem report_replayTables (failed : Nat) (error : Error) (describe : Error → String) :
    Failure.report ⟨.replayTables failed, .error error⟩ describe =
      "error: " ++ (toString failed ++ " tables could not be replayed") ++ "\n  caused by: " ++ describe error ++
        "\n" :=
  rfl

theorem decodeEffect_runOn {output : Option String}
    (hasks : Asks arguments environment (.decode device program reference output)) (describe : Error → String) :
    DecodeEffect files device program reference output describe (runOn files environment describe arguments) := by
  obtain ⟨diagnostics, result, after, hrun, hfiles, hprinted, hexit, hreported⟩ :=
    runOn_of_asks hasks files describe
  change Action.runOn { files } (runDecode diagnostics device program reference output) = _ at hrun
  constructor
  case refuses =>
    intro hrefused
    rw [runOn_runDecode] at hrun
    cases hdecoded : decoded files device program reference with
    | ok found => exact absurd (decoded_eq_ok_iff.mp hdecoded) (hrefused found.1 found.2)
    | error failure =>
      simp only [hdecoded] at hrun
      obtain ⟨rfl, rfl⟩ := Prod.mk.inj hrun
      exact ⟨by simp [hexit], hfiles, hprinted⟩
  case orders => exact fun _ _ hdecodes => hdecodes.orders
  case shows => exact fun _ _ hdecodes => hdecodes.shows
  case prints =>
    rintro description replayed hto rfl
    obtain ⟨_, _, hsame, _, hkept, hput⟩ := runOn_runDecode_of_decodes diagnostics none { files } hto
    obtain ⟨rfl, rfl⟩ := Prod.mk.inj (hrun.symm.trans hsame)
    refine ⟨hfiles.trans hkept, hprinted.trans ?_⟩
    rw [hput]
    exact String.empty_append
  case delivers =>
    rintro description replayed hto path rfl
    obtain ⟨_, _, hsame, hput⟩ := runOn_runDecode_of_decodes diagnostics (some path) { files } hto
    obtain ⟨rfl, rfl⟩ := Prod.mk.inj (hrun.symm.trans hsame)
    refine ⟨fun written hwrite => ?_, fun fault hwrite => ?_⟩
    · simp only [hwrite] at hput
      rw [hfiles, hput.2]
      exact FileSystem.isDelivery_of_write hwrite
    · simp only [hwrite] at hput
      exact ⟨by simp [hexit, hput.1], hfiles.trans hput.2⟩
  case ends =>
    intro description replayed hto hwrites
    obtain ⟨_, _, hsame, hput⟩ := runOn_runDecode_of_decodes diagnostics output { files } hto
    obtain ⟨rfl, rfl⟩ := Prod.mk.inj (hrun.symm.trans hsame)
    have hending : result = ending replayed := by
      cases output with
      | none => exact hput.1
      | some path =>
        obtain ⟨written, hwrite⟩ := hwrites path rfl
        simp only [hwrite] at hput
        exact hput.1
    rw [hending] at hexit hreported
    refine ⟨hexit.trans ending_eq_ok_iff, fun name error others hfailures => ?_⟩
    rw [← report_replayTables]
    exact hreported _ (by rw [ending, hfailures])

/-- What was compiled into a file can be decoded from there, with the same device: its file is another one, and it is
read as before. -/
theorem exitCode_decode_of_compile {environment' : Environment} {arguments' : List String} {traces : Option String}
    (hcompile : Asks arguments environment (.compile device events output))
    (hdecode : Asks arguments' environment' (.decode device output none traces)) (describe describe' : Error → String)
    (hsuccess : (runOn files environment describe arguments).exitCode = 0) (hfile : ¬files.LeadsToStream output)
    (hother : files.locate output ≠ files.locate device)
    (hdelays : ∀ description, files.Holds device Device.ofText description →
      description.delays.triggerDelay.isSome ∧ description.delays.waitDelay.isSome)
    (hwrites : ∀ path, traces = some path → ∀ text, ∃ written,
      (runOn files environment describe arguments).files.write path text = .ok written) :
    (runOn (runOn files environment describe arguments).files environment' describe' arguments').exitCode = 0 := by
  obtain ⟨dataset, ⟨description, timelines, hdevice, _, hdataset⟩, hdelivery⟩ :=
    (compileEffect_runOn hcompile describe).delivers hsuccess
  have hwritten := hdelivery.file hfile
  obtain ⟨htrigger, hwait⟩ := hdelays description hdevice
  obtain ⟨hvalid, _, _⟩ := Device.compile_eq_ok hdataset
  obtain ⟨calibration, hcalibration, husable⟩ := Device.exists_calibration hvalid htrigger hwait
  obtain ⟨replayed, _, hreplay, hfailures, _⟩ := Device.replay_none_of_compile hdataset hcalibration husable
  have hdecodes : DecodesTo (runOn files environment describe arguments).files device output none description
      replayed := by
    obtain ⟨text, hread, hparse⟩ := hdevice
    exact ⟨⟨text, (hwritten.read_iff hother.symm).mpr hread, hparse⟩, dataset, none,
      ⟨dataset.toText, hwritten.read_eq, Dataset.ofText_toText dataset⟩, .none, hreplay⟩
  obtain ⟨hends, _⟩ := (decodeEffect_runOn hdecode describe').ends description replayed hdecodes
    fun path hpath => hwrites path hpath _
  exact hends.mpr hfailures

/-- Commands change their output files and nothing else. A compilation that fails changes nothing at all. A decoding
puts out the traces of all tables that were replayed, as soon as there is a report, and succeeds if no table is
missing. What was compiled into a file that is not the device's can then be decoded, if both delays are given. -/
theorem runOn_changesOutput (files : FileSystem) (environment : Environment) (describe : Error → String)
    (arguments : List String) (device : String) :
    (∀ events output, Asks arguments environment (.compile device events output) →
      CompileEffect files device events output (runOn files environment describe arguments)) ∧
    (∀ program reference output, Asks arguments environment (.decode device program reference output) →
      DecodeEffect files device program reference output describe (runOn files environment describe arguments)) ∧
    ∀ events output, Asks arguments environment (.compile device events output) →
      (runOn files environment describe arguments).exitCode = 0 → ¬files.LeadsToStream output →
      files.locate output ≠ files.locate device →
      (∀ description, files.Holds device Device.ofText description →
        description.delays.triggerDelay.isSome ∧ description.delays.waitDelay.isSome) →
      ∀ environment' describe' arguments' traces, Asks arguments' environment' (.decode device output none traces) →
        (∀ path, traces = some path → ∀ text, ∃ written,
          (runOn files environment describe arguments).files.write path text = .ok written) →
        (runOn (runOn files environment describe arguments).files environment' describe' arguments').exitCode = 0 :=
  ⟨fun _ _ hasks => compileEffect_runOn hasks describe, fun _ _ _ hasks => decodeEffect_runOn hasks describe,
    fun _ _ hcompile hsuccess hfile hother hdelays _ describe' _ _ hdecode hwrites =>
      exitCode_decode_of_compile hcompile hdecode describe describe' hsuccess hfile hother hdelays hwrites⟩

/-- What a decoding into a new file leaves there, and what it says if a table is missing. -/
private theorem DecodeEffect.ends_of_failures {path name : String} {description : Device} {replayed : Report}
    {error : Error} {others : List (String × Error)} {describe : Error → String} {outcome : Outcome}
    (heffect : DecodeEffect files device program reference (some path) describe outcome)
    (hdecodes : DecodesTo files device program reference description replayed)
    (hfailures : replayed.failures = (name, error) :: others) (hnew : files.IsNew path) :
    outcome.exitCode ≠ 0 ∧ outcome.files.read path = .ok (tracesText replayed) ∧
      ∃ earlier, outcome.reported = earlier ++
        ("error: " ++ (toString (others.length + 1) ++ " tables could not be replayed") ++ "\n  caused by: " ++
          describe error ++ "\n") := by
  obtain ⟨written, hwrite⟩ := hnew.write (tracesText replayed)
  obtain ⟨hends, hcause⟩ := heffect.ends description replayed hdecodes fun _ hpath =>
    Option.some.inj hpath ▸ ⟨written, hwrite⟩
  have hfile := ((heffect.delivers description replayed hdecodes path rfl).1 written hwrite).file hnew.not_leadsToStream
  refine ⟨fun hzero => ?_, hfile.read_eq, ?_⟩
  · rw [hends.mp hzero] at hfailures
    cases hfailures
  · obtain ⟨earlier, hreported⟩ := hcause name error others hfailures
    exact ⟨earlier, by rw [hreported, hfailures, List.length_cons]⟩

/-- Two clock lines, and files that describe them, what one of them is to do and a clock that stands still. -/
def clocks : Device := ⟨"clocks", ⟨1, 8, 1⟩, ⟨some 0.5, some 3⟩, .toggle ["a", "b"]⟩

def clockTimelines : OrderedMap Timeline :=
  .ofEntries [("b", [⟨0, .level 1⟩, ⟨1, .level 0⟩])]

def standingClock : ClockTrace := ⟨[0], [0], rfl, rfl, rfl⟩

def clockFiles : FileSystem :=
  .ofFiles [("d.json", .text (clocks.toJson.text .compact)),
    ("e.json", .text ((Timeline.mapToJson clockTimelines).text .compact)),
    ("r.json", .text (standingClock.toJson.text .compact))]

/-- Their dataset. Nothing is to be done on the first clock line. -/
def clockDataset : Dataset :=
  ⟨"clocks", .ofEntries [("a", .toggle [0, 0] [0, 0]), ("b", .toggle [2, 0, 0] [1, 0, 0])]⟩

section Clocks

private theorem holds_clocks {device : Device} :
    clockFiles.Holds "d.json" Device.ofText device ↔ device = clocks := by
  have hfound : (clockFiles.read "d.json").map Device.ofText = .ok (.ok clocks) := by decide +kernel
  obtain ⟨text, hread, hparse⟩ := map_eq_ok_iff.mp hfound
  refine ⟨fun ⟨_, hsame, hdevice⟩ => ?_, fun hdevice => ⟨text, hread, hdevice ▸ hparse⟩⟩
  obtain rfl := Except.ok.inj (hread.symm.trans hsame)
  exact Except.ok.inj (hdevice.symm.trans hparse)

private theorem compilesTo_clocks {dataset : Dataset} :
    CompilesTo clockFiles "d.json" "e.json" dataset ↔ dataset = clockDataset := by
  have hfound : (clockFiles.read "e.json").map (Json.decode Timeline.mapOfJson) = .ok (.ok clockTimelines) := by
    decide +kernel
  have hcompile : clocks.compile clockTimelines = .ok clockDataset := by decide +kernel
  obtain ⟨text, hread, hparse⟩ := map_eq_ok_iff.mp hfound
  constructor
  · rintro ⟨device, timelines, hdevice, ⟨_, hsame, htimelines⟩, hdataset⟩
    obtain rfl := holds_clocks.mp hdevice
    obtain rfl := Except.ok.inj (hread.symm.trans hsame)
    obtain rfl := Except.ok.inj (hparse.symm.trans htimelines)
    exact Except.ok.inj (hdataset.symm.trans hcompile)
  · rintro rfl
    exact ⟨clocks, clockTimelines, holds_clocks.mpr rfl, ⟨text, hread, hparse⟩, hcompile⟩

private theorem isNew_clockFiles {path : String} (hpath : path = "p.json" ∨ path = "t.json") :
    clockFiles.IsNew path := by
  rcases hpath with rfl | rfl
  · exact ⟨by decide +kernel, ["p.json"], by decide +kernel⟩
  · exact ⟨by decide +kernel, ["t.json"], by decide +kernel⟩

variable {after : FileSystem} (hwritten : clockFiles.IsWrite "p.json" clockDataset.toText after)

include hwritten

private theorem decodesTo_clocks {clock : Option ClockTrace} {replayed : Report}
    (hreference : Option.Rel (fun path clock => after.Holds path (Json.decode ClockTrace.ofJson) clock) reference clock)
    (hreplay : clocks.replay clockDataset clock = .ok replayed) :
    DecodesTo after "d.json" "p.json" reference clocks replayed := by
  have hother : clockFiles.locate "d.json" ≠ clockFiles.locate "p.json" := by decide +kernel
  obtain ⟨text, hread, hparse⟩ := holds_clocks.mpr rfl
  exact ⟨⟨text, (hwritten.read_iff hother).mpr hread, hparse⟩, clockDataset, clock,
    ⟨clockDataset.toText, hwritten.read_eq, Dataset.ofText_toText clockDataset⟩, hreference, hreplay⟩

private theorem exists_decodesTo_clocks : ∃ replayed, DecodesTo after "d.json" "p.json" none clocks replayed ∧
    replayed.traces = [("a", ⟨[], []⟩), ("b", ⟨[0, 1], [1, 0]⟩)] := by
  have hfound : (clocks.replay clockDataset none).map Report.traces =
      .ok [("a", ⟨[], []⟩), ("b", ⟨[0, 1], [1, 0]⟩)] := by decide +kernel
  obtain ⟨replayed, hreplay, htraces⟩ := map_eq_ok_iff.mp hfound
  exact ⟨replayed, decodesTo_clocks hwritten .none hreplay, htraces⟩

private theorem exists_decodesTo_standingClock :
    ∃ replayed, DecodesTo after "d.json" "p.json" (some "r.json") clocks replayed ∧ replayed.traces = [] ∧
      replayed.failures = [("a", .triggerExhausted 1 0), ("b", .triggerExhausted 1 0)] := by
  have hother : clockFiles.locate "r.json" ≠ clockFiles.locate "p.json" := by decide +kernel
  have hfound : (clockFiles.read "r.json").map (Json.decode ClockTrace.ofJson) = .ok (.ok standingClock) := by
    decide +kernel
  have hreplays : (clocks.replay clockDataset (some standingClock)).map
      (fun replayed => (replayed.traces, replayed.failures)) =
      .ok ([], [("a", .triggerExhausted 1 0), ("b", .triggerExhausted 1 0)]) := by decide +kernel
  obtain ⟨text, hread, hparse⟩ := map_eq_ok_iff.mp hfound
  obtain ⟨replayed, hreplay, hparts⟩ := map_eq_ok_iff.mp hreplays
  obtain ⟨htraces, hfailures⟩ := Prod.mk.inj hparts
  exact ⟨replayed, decodesTo_clocks hwritten (.some ⟨text, (hwritten.read_iff hother).mpr hread, hparse⟩) hreplay,
    htraces, hfailures⟩

end Clocks

/-- What is left when the two clock lines have been compiled into a new file. -/
def compiledClocks : Outcome :=
  runOn clockFiles {} Error.message ["compile", "-d", "d.json", "-e", "e.json", "-o", "p.json"]

/-- From there they are decoded, with the traces of both clock lines. With the clock that stands still neither of
them can be decoded: a document without traces is written, and the first clock line is the cause of the failure. -/
theorem runOn_changesOutput_clocks :
    (compiledClocks.exitCode = 0 ∧ ∃ dataset, CompilesTo clockFiles "d.json" "e.json" dataset ∧
      dataset = clockDataset ∧ clockFiles.IsWrite "p.json" dataset.toText compiledClocks.files) ∧
    (∃ shown, shown = runOn compiledClocks.files {} Error.message ["decode", "-d", "d.json", "-p", "p.json"] ∧
      shown.exitCode = 0 ∧ shown.files = compiledClocks.files ∧
      shown.printed = "\x7b\n  \"a\": \x7b\n    \"times\": [],\n    \"values\": []\n  \x7d,\n"
        ++ "  \"b\": \x7b\n    \"times\": [\n      0.0,\n      1.0\n    ],\n"
        ++ "    \"values\": [\n      1,\n      0\n    ]\n  \x7d\n\x7d\n" ∧
      ∃ device replayed, DecodesTo compiledClocks.files "d.json" "p.json" none device replayed ∧
        replayed.traces = [("a", ⟨[], []⟩), ("b", ⟨[0, 1], [1, 0]⟩)] ∧
        shown.printed = tracesText replayed ++ "\n" ∧ HoldsTraces (tracesText replayed) replayed.traces) ∧
    ∃ failed, failed = runOn compiledClocks.files {} Error.message
        ["decode", "-d", "d.json", "-p", "p.json", "-r", "r.json", "-o", "t.json"] ∧
      failed.exitCode ≠ 0 ∧ failed.files.read "t.json" = .ok "\x7b\x7d" ∧
      ∃ earlier, failed.reported = earlier ++
        ("error: " ++ (toString 2 ++ " tables could not be replayed") ++ "\n  caused by: " ++
          "wait requires trigger edge #1, but only 0 trigger edges are available" ++ "\n") := by
  have hcompile : Asks ["compile", "-d", "d.json", "-e", "e.json", "-o", "p.json"] {}
      (.compile "d.json" "e.json" "p.json") := ⟨some .warn, false, by decide +kernel⟩
  have hdecode : Asks ["decode", "-d", "d.json", "-p", "p.json"] {} (.decode "d.json" "p.json" none none) :=
    ⟨some .warn, false, by decide +kernel⟩
  have hfail : Asks ["decode", "-d", "d.json", "-p", "p.json", "-r", "r.json", "-o", "t.json"] {}
      (.decode "d.json" "p.json" (some "r.json") (some "t.json")) := ⟨some .warn, false, by decide +kernel⟩
  obtain ⟨hcompiles, _, hboth⟩ := runOn_changesOutput clockFiles {} Error.message
    ["compile", "-d", "d.json", "-e", "e.json", "-o", "p.json"] "d.json"
  obtain ⟨_, hshows, _⟩ := runOn_changesOutput compiledClocks.files {} Error.message
    ["decode", "-d", "d.json", "-p", "p.json"] "d.json"
  obtain ⟨_, hfails, _⟩ := runOn_changesOutput compiledClocks.files {} Error.message
    ["decode", "-d", "d.json", "-p", "p.json", "-r", "r.json", "-o", "t.json"] "d.json"
  have hnew := isNew_clockFiles (.inl rfl)
  obtain ⟨written, hwrite⟩ := hnew.write clockDataset.toText
  have hsuccess : compiledClocks.exitCode = 0 :=
    (hcompiles _ _ hcompile).succeeds clockDataset (compilesTo_clocks.mpr rfl) written hwrite
  obtain ⟨dataset, hto, hdelivery⟩ := (hcompiles _ _ hcompile).delivers hsuccess
  obtain rfl := compilesTo_clocks.mp hto
  have hwritten : clockFiles.IsWrite "p.json" clockDataset.toText compiledClocks.files :=
    hdelivery.file hnew.not_leadsToStream
  refine ⟨⟨hsuccess, clockDataset, hto, rfl, hwritten⟩, ⟨_, rfl, ?_, ?_⟩, _, rfl, ?_⟩
  · have hother : clockFiles.locate "p.json" ≠ clockFiles.locate "d.json" := by decide +kernel
    exact hboth "e.json" "p.json" hcompile hsuccess hnew.not_leadsToStream hother
      (fun device hholds => holds_clocks.mp hholds ▸ ⟨rfl, rfl⟩) {} Error.message
      ["decode", "-d", "d.json", "-p", "p.json"] none hdecode nofun
  · obtain ⟨replayed, hdecodes, htraces⟩ := exists_decodesTo_clocks hwritten
    have heffect := hshows "p.json" none none hdecode
    obtain ⟨hkept, hprinted⟩ := heffect.prints clocks replayed hdecodes rfl
    refine ⟨hkept, ?_, clocks, replayed, hdecodes, htraces, hprinted, (heffect.shows clocks replayed hdecodes).1⟩
    rw [hprinted, tracesText, htraces]
    decide +kernel
  · obtain ⟨replayed, hdecodes, htraces, hfailures⟩ := exists_decodesTo_standingClock hwritten
    have hends := (hfails "p.json" (some "r.json") (some "t.json") hfail).ends_of_failures hdecodes hfailures
      ((isNew_clockFiles (.inr rfl)).of_isWrite hwritten (by decide +kernel))
    have htext : (tracesToJson (.ofEntries [])).text .indented = "\x7b\x7d" := by decide +kernel
    have hmessage : Error.message (.triggerExhausted 1 0) =
        "wait requires trigger edge #1, but only 0 trigger edges are available" := by decide +kernel
    rw [tracesText, htraces, htext, hmessage] at hends
    exact hends

end Invocations

end Pseudoclock.CommandLine
