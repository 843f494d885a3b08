import Mathlib
import Pseudoclock.Session
import Pseudoclock.Proofs.Device.Delivery
import Pseudoclock.Proofs.Device.RoundTrip
import Pseudoclock.Proofs.Replay.Alike
import Pseudoclock.Proofs.Replay.SelfTimed

/-!
Runs of a session. Whatever is asked of it, its traces are levels over time, diagnostics change nothing but records,
and what was compiled can be replayed until the device, the dataset or the reference is changed.
-/

namespace Pseudoclock

/-- Levels over time: a time for each of them, and each of them 0 or 1. -/
structure Trace.IsWaveform (trace : Trace UInt8) : Prop where
  length_eq : trace.times.length = trace.values.length
  isBinary : ∀ level ∈ trace.values, level = 0 ∨ level = 1

theorem Trace.isWaveform_ofSamples {samples : List (Float × UInt8)}
    (hlevels : ∀ sample ∈ samples, sample.2 = 0 ∨ sample.2 = 1) : (Trace.ofSamples samples).IsWaveform where
  length_eq := by simp
  isBinary := by
    simp only [Trace.values_ofSamples, List.mem_map]
    rintro _ ⟨sample, hsample, rfl⟩
    exact hlevels sample hsample

/-- Levels over time are refused as a clock only if their times descend. -/
theorem Trace.IsWaveform.ofColumns_eq_error_iff {trace : Trace UInt8} (hwaveform : trace.IsWaveform) {error : Error} :
    ClockTrace.ofColumns trace.times trace.values = .error error ↔
      descends trace.times = true ∧ error = .invalidTrace .unordered := by
  have hbinary : trace.values.all (· ≤ 1) = true := by
    rw [List.all_eq_true]
    intro level hlevel
    rcases hwaveform.isBinary level hlevel with rfl | rfl <;> decide
  rw [ClockTrace.ofColumns, ClockTrace.check, dif_pos hwaveform.length_eq, dif_pos hbinary]
  by_cases hordered : descends trace.times = false
  · rw [dif_pos hordered, hordered]
    simp [Except.mapError]
  · rw [dif_neg hordered, mapError_eq_error_iff]
    simp [hordered, eq_comm]

namespace Device.IsTraceOf

variable {device : Device} {dataset : Dataset} {calibration : Calibration} {triggers : Option (List Float)}
  {channel : String} {trace : Trace UInt8}

theorem isWaveform (htrace : device.IsTraceOf dataset calibration triggers channel trace) : trace.IsWaveform := by
  unfold IsTraceOf at htrace
  split at htrace
  · obtain ⟨_, program, replayed, _, _, hreplay, rfl⟩ := htrace
    obtain ⟨shown, _, hshown⟩ := Program.exists_samplesOf_replayToggle hreplay
    rw [hshown]
    exact Trace.isWaveform_ofSamples fun sample hsample => level_of_mem_samplesOf hsample
  · obtain ⟨_, program, traces, _, _, _, hreplay, _, _, hindex⟩ := htrace
    obtain ⟨replayed, _, htraces⟩ := bind_eq_ok_iff.mp hreplay
    obtain rfl := Except.ok.inj htraces
    obtain ⟨channel, _, rfl⟩ := List.mem_map.mp (List.mem_of_getElem? hindex)
    refine Trace.isWaveform_ofSamples fun sample hsample => ?_
    obtain ⟨word, _, rfl⟩ := List.mem_map.mp hsample
    exact Layout.levelOf_eq_zero_or_one _ _ _

/-- Without triggers, a trace can be the reference of another device. -/
theorem isReference (htrace : device.IsTraceOf dataset calibration none channel trace)
    (husable : calibration.validate = .ok ()) : trace.IsReference := by
  unfold IsTraceOf at htrace
  split at htrace
  · obtain ⟨_, program, replayed, _, _, hreplay, rfl⟩ := htrace
    obtain ⟨_, _, hsame, hreference, _⟩ := program.replayToggle_selfTimed husable
    exact Except.ok.inj (hreplay.symm.trans hsame) ▸ hreference
  · obtain ⟨_, program, traces, _, _, _, hreplay, _, _, hindex⟩ := htrace
    exact Program.isReference_of_mem_replayChannels husable hreplay trace (List.mem_of_getElem? hindex)

end Device.IsTraceOf

namespace Session

variable {session next : Session} {step : Step} {answer : Answer}

/-- What the steps do that are not refused. -/
inductive Takes (session : Session) : Step → Session → Answer → Prop where
  | loadDevice {text : String} {device : Device} (htext : Device.ofText text = .ok device) :
    Takes session (.loadDevice text) { session with device := some device } .done
  | setDelays {device : Device} (hdevice : session.device = some device) (delays : DelaySettings) :
    Takes session (.setDelays delays) { session with device := some { device with delays } } .done
  | setCapabilities {device : Device} (hdevice : session.device = some device) (capabilities : Capabilities) :
    Takes session (.setCapabilities capabilities) { session with device := some { device with capabilities } } .done
  | rename {device : Device} (hdevice : session.device = some device) (name : String) :
    Takes session (.rename name) { session with device := some { device with name } } .done
  | setTimeline (name : String) (timeline : Timeline) :
    Takes session (.setTimeline name timeline)
      { session with timelines := session.timelines.insert name timeline } .done
  | push (name : String) (event : Event) :
    Takes session (.push name event) { session with
      timelines := session.timelines.insert name ((session.timelines.get? name).getD [] ++ [event]) } .done
  | dropTimeline (name : String) :
    Takes session (.dropTimeline name) { session with timelines := session.timelines.erase name }
      (.dropped (session.timelines.names.contains name))
  | compile {device : Device} {dataset : Dataset} (hdevice : session.device = some device)
      (hcompile : device.compile session.timelines = .ok dataset) :
    Takes session .compile { session with dataset := some dataset } (.dataset dataset)
  | newDataset (device : String) :
    Takes session (.newDataset device) { session with dataset := some (.empty device) } .done
  | loadDataset {text : String} {dataset : Dataset} (htext : Dataset.ofText text = .ok dataset) :
    Takes session (.loadDataset text) { session with dataset := some dataset } .done
  | setTable {text : String} {table : Table} {dataset changed : Dataset} (name : String)
      (htext : Json.decode (Table.ofJson 0) text = .ok table) (hdataset : session.dataset = some dataset)
      (hchanged : changed = { dataset with tables := dataset.tables.insert name table }) :
    Takes session (.setTable name text) { session with dataset := some changed } (.dataset changed)
  | dropTable {dataset : Dataset} (name : String) (hdataset : session.dataset = some dataset) :
    Takes session (.dropTable name)
      { session with dataset := some { dataset with tables := dataset.tables.erase name } }
      (.dropped (dataset.tables.names.contains name))
  | setReference {times : List Float} {levels : List UInt8} {clock : ClockTrace}
      (hclock : ClockTrace.ofColumns times levels = .ok clock) :
    Takes session (.setReference times levels) { session with reference := some clock } (.reference clock)
  | setReferenceFrom {channel : String} {trace : Trace UInt8} {clock : ClockTrace}
      (htrace : session.traces.get? channel = some trace)
      (hclock : ClockTrace.ofColumns trace.times trace.values = .ok clock) :
    Takes session (.setReferenceFrom channel) { session with reference := some clock } (.reference clock)
  | clearReference : Takes session .clearReference { session with reference := none } .done
  | replay {device : Device} {dataset : Dataset} {report : Report} (hdevice : session.device = some device)
      (hdataset : session.dataset = some dataset) (hreplay : device.replay dataset session.reference = .ok report) :
    Takes session .replay { session with traces := session.traces.insertAll report.traces } (.report report)
  | clearTraces : Takes session .clearTraces { session with traces := .empty } .done
  | setDiagnostics (isOn : Bool) : Takes session (.setDiagnostics isOn) { session with diagnostics := isOn } .done

theorem requireDevice_eq_ok_iff {device : Device} :
    session.requireDevice = .ok device ↔ session.device = some device := by
  rw [requireDevice]
  cases session.device <;> simp

theorem requireDataset_eq_ok_iff {dataset : Dataset} :
    session.requireDataset = .ok dataset ↔ session.dataset = some dataset := by
  rw [requireDataset]
  cases session.dataset <;> simp

theorem takes_of_perform (hperform : session.perform step = .ok (next, answer)) : Takes session step next answer := by
  cases step with
  | loadDevice text =>
    obtain ⟨_, hload, ⟨⟩⟩ := bind_eq_ok_iff.mp hperform
    obtain ⟨device, htext, ⟨⟩⟩ := bind_eq_ok_iff.mp hload
    exact .loadDevice (mapError_eq_ok_iff.mp htext)
  | setDelays delays =>
    obtain ⟨_, hmodify, ⟨⟩⟩ := bind_eq_ok_iff.mp hperform
    obtain ⟨device, hdevice, ⟨⟩⟩ := bind_eq_ok_iff.mp hmodify
    exact .setDelays (requireDevice_eq_ok_iff.mp hdevice) delays
  | setCapabilities capabilities =>
    obtain ⟨_, hmodify, ⟨⟩⟩ := bind_eq_ok_iff.mp hperform
    obtain ⟨device, hdevice, ⟨⟩⟩ := bind_eq_ok_iff.mp hmodify
    exact .setCapabilities (requireDevice_eq_ok_iff.mp hdevice) capabilities
  | rename name =>
    obtain ⟨_, hmodify, ⟨⟩⟩ := bind_eq_ok_iff.mp hperform
    obtain ⟨device, hdevice, ⟨⟩⟩ := bind_eq_ok_iff.mp hmodify
    exact .rename (requireDevice_eq_ok_iff.mp hdevice) name
  | compile =>
    obtain ⟨_, hcompiled, ⟨⟩⟩ := bind_eq_ok_iff.mp hperform
    obtain ⟨device, hdevice, hcompiled⟩ := bind_eq_ok_iff.mp hcompiled
    obtain ⟨dataset, hcompile, ⟨⟩⟩ := bind_eq_ok_iff.mp hcompiled
    exact .compile (requireDevice_eq_ok_iff.mp hdevice) (mapError_eq_ok_iff.mp hcompile)
  | loadDataset text =>
    obtain ⟨_, hload, ⟨⟩⟩ := bind_eq_ok_iff.mp hperform
    obtain ⟨dataset, htext, ⟨⟩⟩ := bind_eq_ok_iff.mp hload
    exact .loadDataset (mapError_eq_ok_iff.mp htext)
  | setTable name text =>
    obtain ⟨_, hset, ⟨⟩⟩ := bind_eq_ok_iff.mp hperform
    obtain ⟨table, htext, hset⟩ := bind_eq_ok_iff.mp hset
    obtain ⟨dataset, hdataset, ⟨⟩⟩ := bind_eq_ok_iff.mp hset
    exact .setTable name (mapError_eq_ok_iff.mp htext) (requireDataset_eq_ok_iff.mp hdataset) rfl
  | dropTable name =>
    obtain ⟨_, hdrop, ⟨⟩⟩ := bind_eq_ok_iff.mp hperform
    obtain ⟨dataset, hdataset, ⟨⟩⟩ := bind_eq_ok_iff.mp hdrop
    exact .dropTable name (requireDataset_eq_ok_iff.mp hdataset)
  | setReference times levels =>
    obtain ⟨_, hset, ⟨⟩⟩ := bind_eq_ok_iff.mp hperform
    obtain ⟨clock, hclock, ⟨⟩⟩ := bind_eq_ok_iff.mp hset
    exact .setReference (mapError_eq_ok_iff.mp hclock)
  | setReferenceFrom channel =>
    obtain ⟨_, hset, ⟨⟩⟩ := bind_eq_ok_iff.mp hperform
    unfold Session.setReferenceFrom at hset
    split at hset
    · next trace htrace =>
      obtain ⟨clock, hclock, ⟨⟩⟩ := bind_eq_ok_iff.mp hset
      exact .setReferenceFrom htrace (mapError_eq_ok_iff.mp hclock)
    · cases hset
  | replay =>
    obtain ⟨_, hreplayed, ⟨⟩⟩ := bind_eq_ok_iff.mp hperform
    obtain ⟨device, hdevice, hreplayed⟩ := bind_eq_ok_iff.mp hreplayed
    obtain ⟨dataset, hdataset, hreplayed⟩ := bind_eq_ok_iff.mp hreplayed
    obtain ⟨report, hreplay, ⟨⟩⟩ := bind_eq_ok_iff.mp hreplayed
    exact .replay (requireDevice_eq_ok_iff.mp hdevice) (requireDataset_eq_ok_iff.mp hdataset)
      (mapError_eq_ok_iff.mp hreplay)
  | setTimeline name timeline =>
    cases hperform
    exact .setTimeline name timeline
  | push name event =>
    cases hperform
    exact .push name event
  | dropTimeline name =>
    cases hperform
    exact .dropTimeline name
  | newDataset device =>
    cases hperform
    exact .newDataset device
  | clearReference =>
    cases hperform
    exact .clearReference
  | clearTraces =>
    cases hperform
    exact .clearTraces
  | setDiagnostics isOn =>
    cases hperform
    exact .setDiagnostics isOn

theorem Takes.perform_eq (htakes : Takes session step next answer) : session.perform step = .ok (next, answer) := by
  cases htakes with
  | loadDevice htext =>
    simp only [perform, Session.loadDevice, htext]
    rfl
  | setDelays hdevice =>
    simp only [perform, modifyDevice, requireDevice, hdevice]
    rfl
  | setCapabilities hdevice =>
    simp only [perform, modifyDevice, requireDevice, hdevice]
    rfl
  | rename hdevice =>
    simp only [perform, modifyDevice, requireDevice, hdevice]
    rfl
  | compile hdevice hcompile =>
    simp only [perform, Session.compile, requireDevice, hdevice, bind_ok, hcompile]
    rfl
  | loadDataset htext =>
    simp only [perform, Session.loadDataset, htext]
    rfl
  | setTable name htext hdataset hchanged =>
    subst hchanged
    simp only [perform, Session.setTable, requireDataset, hdataset, htext]
    rfl
  | dropTable name hdataset =>
    simp only [perform, Session.dropTable, requireDataset, hdataset]
    rfl
  | setReference hclock =>
    simp only [perform, Session.setReference, hclock]
    rfl
  | setReferenceFrom htrace hclock =>
    simp only [perform, Session.setReferenceFrom, htrace, Session.setReference, hclock]
    rfl
  | replay hdevice hdataset hreplay =>
    simp only [perform, Session.replay, requireDevice, requireDataset, hdevice, hdataset, bind_ok, hreplay]
    rfl
  | _ => rfl

theorem perform_eq_ok_iff : session.perform step = .ok (next, answer) ↔ Takes session step next answer :=
  ⟨takes_of_perform, Takes.perform_eq⟩

section Runs

variable {steps : List Step}

/-- What holds of a session holds after steps if each of them keeps it that is not refused. -/
theorem run_of_takes {property : Session → Prop} (hbefore : property session)
    (htakes : ∀ session, property session → ∀ step ∈ steps, ∀ next answer, Takes session step next answer →
      property next) :
    property (session.run steps) := by
  refine List.foldlRecOn steps after hbefore fun session hsession step hstep => ?_
  rw [after]
  split
  · next next answer hperform =>
    exact htakes session hsession step hstep next answer (perform_eq_ok_iff.mp hperform)
  · exact hsession

end Runs

section Diagnostics

theorem perform_setDiagnostics (session : Session) (isOn : Bool) (hstep : ∀ flag, step ≠ .setDiagnostics flag) :
    (session.setDiagnostics isOn).perform step =
      (session.perform step).map fun given => (given.1.setDiagnostics isOn, given.2) := by
  -- What a step looks at is the same with either switch, and what it finds there decides what it does.
  cases step with
  | loadDevice text =>
    simp only [perform, Session.loadDevice]
    cases Device.ofText text <;> rfl
  | setDelays | setCapabilities | rename =>
    simp only [perform, modifyDevice, requireDevice, Session.setDiagnostics]
    cases session.device <;> rfl
  | compile =>
    simp only [perform, Session.compile, requireDevice, Session.setDiagnostics]
    cases session.device with
    | none => rfl
    | some device =>
      simp only [bind_ok]
      cases device.compile session.timelines <;> rfl
  | loadDataset text =>
    simp only [perform, Session.loadDataset]
    cases Dataset.ofText text <;> rfl
  | setTable name text =>
    simp only [perform, Session.setTable, requireDataset, Session.setDiagnostics]
    cases Json.decode (Table.ofJson 0) text with
    | error error => rfl
    | ok table => cases session.dataset <;> rfl
  | dropTable name =>
    simp only [perform, Session.dropTable, requireDataset, Session.setDiagnostics]
    cases session.dataset <;> rfl
  | setReference times levels =>
    simp only [perform, Session.setReference]
    cases ClockTrace.ofColumns times levels <;> rfl
  | setReferenceFrom channel =>
    simp only [perform, Session.setReferenceFrom, Session.setReference, Session.setDiagnostics]
    cases session.traces.get? channel with
    | none => rfl
    | some trace =>
      simp only
      cases ClockTrace.ofColumns trace.times trace.values <;> rfl
  | replay =>
    simp only [perform, Session.replay, requireDevice, requireDataset, Session.setDiagnostics]
    cases session.device with
    | none => rfl
    | some device =>
      cases session.dataset with
      | none => rfl
      | some dataset =>
        simp only [bind_ok]
        cases device.replay dataset session.reference <;> rfl
  | setDiagnostics flag => exact absurd rfl (hstep flag)
  | _ => rfl

/-- Whether diagnostics are on has no influence on any answer or refusal, and on nothing in the session but itself. -/
theorem run_setDiagnostics (session : Session) (isOn : Bool) (steps : List Step) :
    (session.setDiagnostics isOn).answers steps = session.answers steps ∧
      ∃ flag, (session.setDiagnostics isOn).run steps = (session.run steps).setDiagnostics flag := by
  induction steps generalizing session isOn with
  | nil => exact ⟨rfl, isOn, rfl⟩
  | cons step rest ih =>
    by_cases hswitch : ∃ flag, step = .setDiagnostics flag
    -- The two sessions are one again once the switch is set.
    · obtain ⟨flag, rfl⟩ := hswitch
      exact ⟨rfl, _, rfl⟩
    · have hperform := session.perform_setDiagnostics isOn (not_exists.mp hswitch)
      have hafter : (session.setDiagnostics isOn).after step = (session.after step).setDiagnostics isOn := by
        rw [after, after, hperform]
        cases session.perform step <;> rfl
      obtain ⟨hanswers, flag, hrun⟩ := ih (session.after step) isOn
      refine ⟨?_, flag, ?_⟩
      · rw [answers, answers, hafter, hanswers, hperform]
        cases session.perform step <;> rfl
      · change ((session.setDiagnostics isOn).after step).run rest = _
        rw [hafter, hrun]
        rfl

end Diagnostics

section Traces

variable {steps : List Step} {channel : String}

def HasWaveforms (session : Session) : Prop :=
  ∀ entry ∈ session.traces.entries, entry.2.IsWaveform

/-- Whatever is asked of a session, its traces are levels over time. -/
theorem HasWaveforms.run (hsession : session.HasWaveforms) : (session.run steps).HasWaveforms := by
  refine run_of_takes hsession fun session hsession step _ next answer htakes => ?_
  cases htakes with
  | replay hdevice hdataset hreplay =>
    obtain ⟨hvalid, calibration, _, hreport⟩ := Device.of_replay_eq_ok hreplay
    intro entry hentry
    rcases OrderedMap.mem_of_mem_insertAll hentry with hbefore | hnew
    · exact hsession entry hbefore
    · exact ((Device.names_traces hvalid hreport).2 entry hnew).isWaveform
  | clearTraces => nofun
  | _ => exact hsession

/-- A channel without a trace cannot become the reference. One with a trace can, except if its times descend. -/
theorem perform_setReferenceFrom_eq_error_iff {refusal : Refusal} (hsession : session.HasWaveforms) :
    session.perform (.setReferenceFrom channel) = .error refusal ↔
      session.traces.get? channel = none ∧ refusal = .noChannel ∨
      ∃ trace, session.traces.get? channel = some trace ∧ descends trace.times = true ∧
        refusal = .failed (.invalidTrace .unordered) := by
  have hrefused : session.perform (.setReferenceFrom channel) = .error refusal ↔
      session.setReferenceFrom channel = .error refusal := by
    refine bind_eq_error_iff.trans ⟨fun herror => ?_, .inl⟩
    rcases herror with herror | ⟨_, _, ⟨⟩⟩
    exact herror
  rw [hrefused, setReferenceFrom]
  cases hget : session.traces.get? channel with
  | none => exact ⟨fun herror => .inl ⟨rfl, (Except.error.inj herror).symm⟩, by rintro (⟨_, rfl⟩ | ⟨_, ⟨⟩, _⟩); rfl⟩
  | some trace =>
    have hwaveform := hsession (channel, trace) (OrderedMap.get?_eq_some_iff.mp hget)
    constructor
    · intro herror
      rcases bind_eq_error_iff.mp herror with herror | ⟨_, _, ⟨⟩⟩
      obtain ⟨cause, hcause, rfl⟩ := mapError_eq_error_iff.mp herror
      obtain ⟨hdescends, rfl⟩ := hwaveform.ofColumns_eq_error_iff.mp hcause
      exact .inr ⟨trace, rfl, hdescends, rfl⟩
    · rintro (⟨⟨⟩, _⟩ | ⟨_, ⟨⟩, hdescends, rfl⟩)
      simp only [setReference, hwaveform.ofColumns_eq_error_iff.mpr ⟨hdescends, rfl⟩]
      rfl

/-- Whatever was asked of a session, a trace of it can become the reference except if its times descend. -/
theorem refuses_setReferenceFrom_iff {refusal : Refusal} :
    (run {} steps).perform (.setReferenceFrom channel) = .error refusal ↔
      (run {} steps).traces.get? channel = none ∧ refusal = .noChannel ∨
      ∃ trace, (run {} steps).traces.get? channel = some trace ∧ descends trace.times = true ∧
        refusal = .failed (.invalidTrace .unordered) :=
  perform_setReferenceFrom_eq_error_iff (HasWaveforms.run nofun)

/-- The second edge comes while the first cycle is still shown, so that the trace goes back in time. -/
example :
    let device : Device := ⟨"board", ⟨1, 8, 1⟩, ⟨some 0, some 0⟩, .toggle ["clock"]⟩
    let dataset : Dataset := ⟨"board", .ofEntries [("clock", .toggle [4, 0, 4, 0, 0] [1, 0, 1, 0, 0])]⟩
    let session : Session := { device, dataset, reference := some ⟨[0, 0.5, 1], [1, 0, 1], rfl, rfl, rfl⟩ }
    ((session.after .replay).setReferenceFrom "clock").map (·.2) = .error (.failed (.invalidTrace .unordered)) := by
  decide +kernel

/-- Steps that make a clock the reference. -/
def Step.SetsReference : Step → Prop
  | .setReference _ _ | .setReferenceFrom _ => True
  | _ => False

/-- There was no reference, and all traces could be one. -/
structure IsSelfTimed (session : Session) : Prop where
  reference_eq : session.reference = none
  isReference : ∀ entry ∈ session.traces.entries, entry.2.IsReference

theorem IsSelfTimed.run (hsession : session.IsSelfTimed) (hsteps : ∀ step ∈ steps, ¬step.SetsReference) :
    (session.run steps).IsSelfTimed := by
  refine run_of_takes hsession fun session ⟨hreference, htraces⟩ step hstep next answer htakes => ?_
  cases htakes with
  | setReference | setReferenceFrom => exact absurd trivial (hsteps _ hstep)
  | clearReference => exact ⟨rfl, htraces⟩
  | replay hdevice hdataset hreplay =>
    -- Without a reference there are no triggers, and so no trace goes back in time.
    rw [hreference] at hreplay
    obtain ⟨hvalid, calibration, hcalibration, hreport⟩ := Device.of_replay_eq_ok hreplay
    refine ⟨hreference, fun entry hentry => ?_⟩
    rcases OrderedMap.mem_of_mem_insertAll hentry with hbefore | hnew
    · exact htraces entry hbefore
    · exact ((Device.names_traces hvalid hreport).2 entry hnew).isReference
        (Device.validate_of_calibration hcalibration)
  | clearTraces => exact ⟨hreference, nofun⟩
  | _ => exact ⟨hreference, htraces⟩

/-- As long as a session had no reference, each of its traces can become the first one. -/
theorem exists_takes_setReferenceFrom (hsteps : ∀ step ∈ steps, ¬step.SetsReference) {trace : Trace UInt8}
    (hget : (run {} steps).traces.get? channel = some trace) :
    ∃ clock, clock.toTrace = trace ∧
      Takes (run {} steps) (.setReferenceFrom channel) { run {} steps with reference := some clock }
        (.reference clock) := by
  have hselfTimed : (run {} steps).IsSelfTimed := IsSelfTimed.run ⟨rfl, nofun⟩ hsteps
  obtain ⟨clock, hclock⟩ :=
    (hselfTimed.isReference (channel, trace) (OrderedMap.get?_eq_some_iff.mp hget)).exists_clock
  obtain ⟨htimes, hlevels⟩ := ClockTrace.ofColumns_eq_ok hclock
  exact ⟨clock, by rw [ClockTrace.toTrace, htimes, hlevels], .setReferenceFrom hget hclock⟩

end Traces

section Programs

variable {steps : List Step} {device : Device} {dataset : Dataset}

/-- Steps after which the same is replayed as before. -/
def Step.KeepsProgram : Step → Prop
  | .setTimeline _ _ | .push _ _ | .dropTimeline _ | .clearReference => True
  | .replay | .clearTraces | .setDiagnostics _ => True
  | _ => False

/-- What a self-timed replay depends on. -/
structure HasProgram (device : Device) (dataset : Dataset) (session : Session) : Prop where
  device_eq : session.device = some device
  dataset_eq : session.dataset = some dataset
  reference_eq : session.reference = none

theorem HasProgram.run (hsession : HasProgram device dataset session) (hsteps : ∀ step ∈ steps, step.KeepsProgram) :
    HasProgram device dataset (session.run steps) := by
  refine run_of_takes hsession fun session ⟨hdevice, hdataset, hreference⟩ step hstep next answer htakes => ?_
  have hkeeps := hsteps step hstep
  cases htakes with
  | setTimeline | push | dropTimeline | replay | clearTraces | setDiagnostics => exact ⟨hdevice, hdataset, hreference⟩
  | clearReference => exact ⟨hdevice, hdataset, rfl⟩
  | _ => cases hkeeps

/-- What was compiled can be replayed as a whole, also when its timelines have changed since then. -/
theorem exists_takes_replay_of_compile (hcompile : Takes session .compile next (.dataset dataset))
    (hreference : session.reference = none) (hdevice : session.device = some device)
    (htrigger : device.delays.triggerDelay.isSome) (hwait : device.delays.waitDelay.isSome) :
    ∃ report : Report, report.failures = [] ∧ report.decoded = device.tableNames ∧
      ∀ steps : List Step, (∀ step ∈ steps, step.KeepsProgram) →
        Takes (next.run steps) .replay
          { next.run steps with traces := (next.run steps).traces.insertAll report.traces } (.report report) := by
  cases hcompile with
  | compile hfound hdataset =>
    obtain rfl := Option.some.inj (hdevice.symm.trans hfound)
    obtain ⟨hvalid, _, _⟩ := Device.compile_eq_ok hdataset
    obtain ⟨calibration, hcalibration, husable⟩ := Device.exists_calibration hvalid htrigger hwait
    obtain ⟨report, _, hreplay, hfailures, hdecoded, _⟩ :=
      Device.replay_none_of_compile hdataset hcalibration husable
    have hnext : HasProgram device dataset { session with dataset := some dataset } := ⟨hdevice, rfl, hreference⟩
    refine ⟨report, hfailures, hdecoded, fun steps hsteps => ?_⟩
    obtain ⟨hdevice, hdataset, hreference⟩ := hnext.run hsteps
    exact .replay hdevice hdataset (hreference ▸ hreplay)

end Programs

end Session

end Pseudoclock
