import Mathlib
import Pseudoclock.Proofs.ClockLine.Grammar
import Pseudoclock.Proofs.Replay.Resumption
import Pseudoclock.Proofs.Ticks

/-!
Compiled clock lines replay as their timelines: one sample for each level event, at a clock that has not
drifted from the event's position.
-/

namespace Pseudoclock

open Timeline (Spells stretchesAfter)

namespace Replay

variable {capabilities : Capabilities} {calibration : Calibration}

def shown (samples : List (Float × UInt64)) : List (Float × UInt8) :=
  samples.map fun sample => (sample.1, sample.2.toUInt8)

/-- What a replay records of stretches, the first of which starts at `start` and has this origin, and the
edges that it leaves. -/
def recording (capabilities : Capabilities) (calibration : Calibration) (edges : Option EdgeReader)
    (start origin : Float) (stretches : Stretch × List Stretch) :
    Except Error (List (Float × UInt8) × Option EdgeReader) :=
  let placed := Timeline.placed origin stretches
  (resumeAll calibration capabilities.position edges
    (stretches.1.finish (capabilities.position origin) calibration.halfTick start) placed.tail).map
      fun (starts, edges) =>
        (shown (samplesFrom capabilities.position calibration.halfTick (start :: starts) placed), edges)

theorem recording_none (start origin : Float) (stretches : Stretch × List Stretch) :
    recording capabilities calibration none start origin stretches =
      .ok (shown (samplesFrom capabilities.position calibration.halfTick
        (chainedStarts capabilities.position calibration.halfTick calibration.waitDelay start
          (Timeline.placed origin stretches)) (Timeline.placed origin stretches)), none) := by
  obtain ⟨starts, hstarts, hchained⟩ := resumeAll_none calibration capabilities.position start origin
    stretches.1 (Timeline.placed origin stretches).tail
  simp only [recording]
  rw [hstarts, Except.map, hchained]
  rfl

theorem recording_some (start origin : Float) (stretches : Stretch × List Stretch) (used : Nat)
    (pending : List Float) :
    recording capabilities calibration (some ⟨used, pending⟩) start origin stretches =
      if stretches.2.length ≤ pending.length then
        .ok (shown (samplesFrom capabilities.position calibration.halfTick
          (start :: pending.map (· + calibration.triggerDelay)) (Timeline.placed origin stretches)),
          some ⟨used + stretches.2.length, pending.drop stretches.2.length⟩)
      else .error (.triggerExhausted (used + pending.length + 1) (used + pending.length)) := by
  simp only [recording]
  rw [resumeAll_some]
  have hlength : (Timeline.placed origin stretches).tail.length = stretches.2.length := by
    simp [Timeline.placed]
  rw [hlength]
  split
  · simp only [Except.map]
    rw [Timeline.placed, samplesFrom_cons, samplesFrom_cons, List.map_take,
      ← samplesFrom_take (pending.map _), List.length_map]
  · rfl

private theorem recording_nil (edges : Option EdgeReader) (start origin : Float) :
    recording capabilities calibration edges start origin (⟨[], none⟩, []) = .ok ([], edges) := rfl

/-- Before the first level event there is nothing to record but where the wait leads. -/
private theorem recording_wait (edges : Option EdgeReader) (start origin time : Float)
    (stretches : Stretch × List Stretch) :
    recording capabilities calibration edges start origin (⟨[], some time⟩, stretches.1 :: stretches.2) =
      (resume calibration edges start).bind fun resumed =>
        recording capabilities calibration resumed.2 resumed.1 stretches.1.origin stretches := by
  have hfinish : Stretch.finish (capabilities.position origin) calibration.halfTick start ⟨[], some time⟩ =
      start := rfl
  simp only [recording, Timeline.placed, List.map_cons, List.tail_cons, hfinish, resumeAll]
  cases resume calibration edges start with
  | error error => rfl
  | ok resumed =>
    simp only [bind, Except.bind]
    cases resumeAll calibration capabilities.position resumed.2 _ _ <;> rfl

/-- A cycle in front is recorded, and what follows it is recorded as it would be from its end on. That the
low phase is as long as the high phase is what makes the two fit together. -/
private theorem recording_cycle {rest : Timeline} {rise fall origin half : Float}
    (hcycle : Timeline.IsCycle capabilities (capabilities.position origin) rise fall rest)
    (hhalf : half = Float.ofInt (capabilities.position origin fall - capabilities.position origin rise) *
      calibration.halfTick) (edges : Option EdgeReader) (start : Float) :
    recording capabilities calibration edges start origin
        (((stretchesAfter false rest).1.extend fall 0).extend rise 1, (stretchesAfter false rest).2) =
      (recording capabilities calibration edges (start + half + half) origin (stretchesAfter false rest)).map
        fun later => ((start, 1) :: (start + half, 0) :: later.1, later.2) := by
  have hfall : ((stretchesAfter false rest).1.extend fall 0).times.head? = some fall := rfl
  have hnext := Timeline.head?_times_stretchesAfter rest
  simp only [recording, Timeline.placed, List.tail_cons, samplesFrom_cons]
  rw [Stretch.samples_extend hfall, Stretch.finish_extend hfall, ← hhalf]
  cases rest with
  | nil =>
    rw [Stretch.samples_extend_nil rfl]
    rfl
  | cons next rest =>
    rw [Stretch.samples_extend hnext, Stretch.finish_extend hnext, hcycle.low next rfl, ← hhalf]
    cases resumeAll calibration capabilities.position edges _ _ <;> rfl

/-- The beats of a timeline record its stretches. -/
theorem progress_foldlM_stepBeat {segment : Segment} {timeline : Timeline} {beats : List Beat}
    (hspells : Spells capabilities segment timeline beats) {replay : Replay UInt8}
    (hwaiting : replay.isWaiting = true → segment = .pending) :
    (beats.foldlM (stepBeat calibration) replay).map progress =
      (recording capabilities calibration replay.edges replay.clock
        (segment.origin (stretchesAfter replay.isWaiting timeline).1.origin)
        (stretchesAfter replay.isWaiting timeline)).map fun later =>
          (replay.recorded.reverse ++ later.1, later.2) := by
  -- Within a run of waits the stretch has not begun, and `hwaiting` says that it has no origin yet either.
  induction hspells generalizing replay with
  | nil segment =>
    rw [Timeline.stretchesAfter_nil, recording_nil]
    simp [progress, Except.map, pure, Except.pure]
  | @wait segment rest beats time hrest ih =>
    rw [List.foldlM_cons]
    cases hreplay : replay.isWaiting with
    | true =>
      obtain rfl := hwaiting hreplay
      rw [stepBeat_wait_of_isWaiting hreplay, Timeline.stretchesAfter_wait_of_isWaiting]
      have hrest := @ih replay fun _ => rfl
      rw [hreplay] at hrest
      exact hrest
    | false =>
      rw [stepBeat_wait hreplay, Timeline.stretchesAfter_wait, recording_wait]
      cases resume calibration replay.edges replay.clock with
      | error error => rfl
      | ok resumed => exact ih fun _ => rfl
  | @cycle segment rise fall rest beats hstart hcycle hrest ih =>
    have horigin : (((stretchesAfter false rest).1.extend fall 0).extend rise 1).origin = rise := rfl
    rw [Timeline.stretchesAfter_level, Timeline.stretchesAfter_level, horigin, recording_cycle hcycle rfl,
      List.foldlM_cons]
    change (beats.foldlM (stepBeat calibration) (cycles _ 1 { replay with isWaiting := false })).map progress = _
    rw [ih (by simp [cycles])]
    simp only [cycles, Segment.origin]
    cases recording capabilities calibration replay.edges _ _ _ with
    | error error => rfl
    | ok later => simp [Except.map]

/-- Usable constants leave the start and the instructions to a replay. -/
theorem replayToggle_eq {program : Program Toggle} (hvalid : calibration.validate = .ok ())
    (hbeats : ∀ instruction ∈ program.body, instruction.beats ≠ []) (triggers : Option (List Float)) :
    program.replayToggle calibration triggers = (startToggle calibration triggers).bind fun start =>
      ((Toggle.expand program.body).foldlM (stepBeat calibration) start).map fun replay =>
        replay.finish program.body.length := by
  rw [Program.replayToggle, hvalid]
  change (startToggle calibration triggers >>= _) = _
  cases startToggle calibration triggers with
  | error error => rfl
  | ok start =>
    change (program.body.foldlM (stepToggle calibration) start >>= _) = _
    rw [foldlM_stepToggle_eq hbeats]
    cases hfold : (Toggle.expand program.body).foldlM (stepBeat calibration) start <;> simp [hfold, Except.bind] <;> rfl

/-- What a compiled clock line shows is what its stretches record. -/
private theorem replayToggle_recording {timeline : Timeline} {program : Program Toggle}
    (hcompile : timeline.compileToggle capabilities = .ok program) (hvalid : calibration.validate = .ok ())
    {triggers : Option (List Float)} {clock : Float} {edges : Option EdgeReader}
    (hstart : startToggle calibration triggers = .ok ⟨clock, edges, false, []⟩) :
    (program.replayToggle calibration triggers).map (fun replayed => (replayed.trace, replayed.usage.edges)) =
      (recording capabilities calibration edges clock 0 timeline.stretches).map
        fun recorded => (Trace.ofSamples recorded.1, recorded.2) := by
  obtain ⟨_, hspells, hbeats⟩ := Timeline.compileToggle_eq_ok hcompile
  have hprogress : ((Toggle.expand program.body).foldlM (stepBeat calibration) ⟨clock, edges, false, []⟩).map
      progress = recording capabilities calibration edges clock 0 timeline.stretches := by
    rw [progress_foldlM_stepBeat hspells (by simp)]
    change (recording capabilities calibration edges clock 0 timeline.stretches).map
      (fun later => ([] ++ later.1, later.2)) = _
    cases recording capabilities calibration edges clock 0 timeline.stretches <;> rfl
  rw [replayToggle_eq hvalid hbeats, hstart, ← hprogress]
  simp only [Except.bind]
  cases (Toggle.expand program.body).foldlM (stepBeat calibration) ⟨clock, edges, false, []⟩ <;> rfl

end Replay

namespace Timeline

/-- The stretches of a clock line with their origins: program start for the first one, and their first rise
for those behind a wait. -/
def clockStretches (timeline : Timeline) : List (Float × Stretch) :=
  placed 0 timeline.stretches

/-- What a clock line shows when its stretches start at these clocks. -/
def clockTrace (capabilities : Capabilities) (calibration : Calibration) (starts : List Float)
    (timeline : Timeline) : Trace UInt8 :=
  Trace.ofSamples (Replay.shown (samplesFrom capabilities.position calibration.halfTick starts
    timeline.clockStretches))

/-- The clocks at which the stretches of a self-timed clock line start. -/
def selfTimedStarts (capabilities : Capabilities) (calibration : Calibration) (timeline : Timeline) :
    List Float :=
  chainedStarts capabilities.position calibration.halfTick calibration.waitDelay 0 timeline.clockStretches

variable {capabilities : Capabilities} {calibration : Calibration} {timeline : Timeline}
  {program : Program Toggle}

theorem length_clockStretches (timeline : Timeline) :
    timeline.clockStretches.length = timeline.waitRuns + 1 := by
  simp [clockStretches, placed, stretches, length_stretchesAfter, waitRuns, runs]

/-- A self-timed replay of a compiled clock line always succeeds. -/
theorem replayToggle_none (hcompile : timeline.compileToggle capabilities = .ok program)
    (hvalid : calibration.validate = .ok ()) :
    (program.replayToggle calibration none).map (fun replayed => (replayed.trace, replayed.usage.edges)) =
      .ok (timeline.clockTrace capabilities calibration (timeline.selfTimedStarts capabilities calibration),
        none) := by
  rw [Replay.replayToggle_recording hcompile hvalid rfl, Replay.recording_none]
  rfl

/-- A triggered replay needs one edge to begin and one for each run of waits. -/
theorem replayToggle_some (hcompile : timeline.compileToggle capabilities = .ok program)
    (hvalid : calibration.validate = .ok ()) (triggers : List Float) :
    (program.replayToggle calibration (some triggers)).map
        (fun replayed => (replayed.trace, replayed.usage.edges)) =
      if timeline.waitRuns < triggers.length then
        .ok (timeline.clockTrace capabilities calibration (triggers.map (· + calibration.triggerDelay)),
          some ⟨timeline.waitRuns + 1, triggers.drop (timeline.waitRuns + 1)⟩)
      else .error (.triggerExhausted (triggers.length + 1) triggers.length) := by
  cases triggers with
  | nil =>
    rw [Program.replayToggle, hvalid]
    rfl
  | cons edge pending =>
    have hruns : timeline.stretches.2.length = timeline.waitRuns := length_stretchesAfter false timeline
    rw [Replay.replayToggle_recording hcompile hvalid rfl, Replay.recording_some, hruns]
    simp only [List.length_cons, Nat.lt_succ_iff, Nat.add_comm 1, List.drop_succ_cons, List.map_cons]
    split <;> rfl

private theorem times_head?_eq_origin {stretch : Stretch} (hne : stretch.edges ≠ []) :
    stretch.times.head? = some stretch.origin := by
  obtain ⟨edges, stop⟩ := stretch
  cases edges with
  | nil => exact absurd rfl hne
  | cons edge edges => rfl

private theorem getElem_times {stretch : Stretch} {index : Nat} (hindex : index < stretch.edges.length)
    (htimes : index < stretch.times.length) : stretch.times[index] = stretch.edges[index].1 := by
  simp only [Stretch.times]
  rw [List.getElem_append_left (by simpa using hindex), List.getElem_map]

/-- A stretch with level events begins at position zero. -/
private theorem position_origin (hcompile : timeline.compileToggle capabilities = .ok program)
    {placed : Float × Stretch} (hplaced : placed ∈ timeline.clockStretches) (hne : placed.2.edges ≠ []) :
    capabilities.position placed.1 placed.2.origin = 0 := by
  obtain ⟨hchronological, hspells, _⟩ := compileToggle_eq_ok hcompile
  rcases List.mem_cons.mp hplaced with rfl | hothers
  · generalize Toggle.expand program.body = beats at hspells
    cases hspells with
    | nil => exact absurd rfl hne
    | wait time hrest => exact absurd rfl hne
    | cycle hstart hcycle hrest => exact hstart rfl
  · obtain ⟨stretch, hstretch, rfl⟩ := List.mem_map.mp hothers
    cases hedges : stretch.edges with
    | nil => exact absurd hedges hne
    | cons edge edges =>
      have horigin : stretch.origin = edge.1 := by simp [Stretch.origin, hedges]
      have hedge := mem_of_mem_edges (List.mem_cons_of_mem _ hstretch) (hedges ▸ List.mem_cons_self)
      rw [horigin]
      exact Ticks.ofLength_sub_self (hchronological.isFinite _ hedge) _

/-- The steps up to an event add up to its position: the clock does not drift from the timeline. -/
private theorem sum_steps_eq_position (hcompile : timeline.compileToggle capabilities = .ok program)
    {placed : Float × Stretch} (hplaced : placed ∈ timeline.clockStretches) {index : Nat}
    (hindex : index < placed.2.edges.length) :
    ((placed.2.steps (capabilities.position placed.1)).take index).sum =
      capabilities.position placed.1 placed.2.edges[index].1 := by
  have hne : placed.2.edges ≠ [] := List.ne_nil_of_length_pos (by omega)
  have htimes : index < placed.2.times.length := by
    simp only [Stretch.times, List.length_append, List.length_map]
    omega
  rw [Stretch.sum_take_steps (times_head?_eq_origin hne) htimes, position_origin hcompile hplaced hne,
    getElem_times hindex htimes, sub_zero]

private theorem Alternates.levels_toUInt8 (halternates : timeline.Alternates) :
    timeline.levels.map (fun level => level.toUInt8.toUInt64) = timeline.levels := by
  induction halternates with
  | nil => rfl
  | wait time hrest ih => exact ih
  | cycle rise fall hrest ih =>
    simp only [levels_level, List.map_cons, ih]
    rfl

/-- A trace with the samples of a clock line whose stretches start at these clocks. -/
structure IsTracedBy (capabilities : Capabilities) (calibration : Calibration) (timeline : Timeline)
    (starts : List Float) (trace : Trace UInt8) : Prop where
  /-- There is one sample for each level event, in order and with the event's level. -/
  levels_eq : trace.values.map UInt8.toUInt64 = timeline.levels
  length_eq : trace.times.length = trace.values.length
  /-- From its start on, the clock of a stretch advances by the steps between its events. -/
  samples_eq : trace.samples = (starts.zip timeline.clockStretches).flatMap fun (start, origin, stretch) =>
    ((stretch.clocks (capabilities.position origin) calibration.halfTick start).zip stretch.edges).map
      fun (clock, edge) => (clock, edge.2.toUInt8)

private theorem isTracedBy_clockTrace (hcompile : timeline.compileToggle capabilities = .ok program)
    {starts : List Float} (hstarts : timeline.clockStretches.length ≤ starts.length) :
    IsTracedBy capabilities calibration timeline starts
      (timeline.clockTrace capabilities calibration starts) where
  levels_eq := by
    have hlevels : (timeline.clockStretches.flatMap (·.2.edges)).map (·.2) = timeline.levels := by
      rw [← levels_stretchesAfter false timeline]
      simp [clockStretches, placed, stretches, List.flatMap_map]
    have hvalues := values_samplesFrom capabilities.position calibration.halfTick hstarts
    rw [hlevels] at hvalues
    have halternates : timeline.Alternates := by
      obtain ⟨hchronological, hspells, _⟩ := compileToggle_eq_ok hcompile
      exact ((isClockLine_iff timeline).mpr ⟨hchronological, _, hspells⟩).alternates
    calc (timeline.clockTrace capabilities calibration starts).values.map UInt8.toUInt64
        = ((samplesFrom capabilities.position calibration.halfTick starts timeline.clockStretches).map
            (·.2)).map (fun level => level.toUInt8.toUInt64) := by
          simp [clockTrace, Replay.shown, Function.comp_def]
      _ = timeline.levels := by rw [hvalues, halternates.levels_toUInt8]
  length_eq := by simp [clockTrace]
  samples_eq := by
    simp only [clockTrace, Trace.samples_ofSamples, Replay.shown, samplesFrom, List.map_flatMap]
    refine List.flatMap_congr fun placed _ => ?_
    simp [Stretch.samples, List.zip_map_right, Function.comp_def]

/-- The trace of a compiled clock line has one sample for each level event, at a clock that has advanced by
exactly as many half ticks as there are between the origin of the event's stretch and the event. A self-timed
replay succeeds and starts the first stretch at zero and every other one a wait delay after the end of the one
before it. A triggered replay, if it succeeds, starts each of them a trigger delay after an edge. -/
theorem replayToggle_compileToggle (hcompile : timeline.compileToggle capabilities = .ok program)
    (hvalid : calibration.validate = .ok ()) :
    (∃ replayed, program.replayToggle calibration none = .ok replayed ∧
      IsTracedBy capabilities calibration timeline (timeline.selfTimedStarts capabilities calibration)
        replayed.trace) ∧
    (∀ triggers replayed, program.replayToggle calibration (some triggers) = .ok replayed →
      timeline.clockStretches.length ≤ triggers.length ∧
      IsTracedBy capabilities calibration timeline (triggers.map (· + calibration.triggerDelay))
        replayed.trace) ∧
    ∀ placed ∈ timeline.clockStretches, ∀ index, (hindex : index < placed.2.edges.length) →
      ((placed.2.steps (capabilities.position placed.1)).take index).sum =
        capabilities.position placed.1 placed.2.edges[index].1 := by
  refine ⟨?_, fun triggers replayed hreplay => ?_, fun placed hplaced index hindex =>
    sum_steps_eq_position hcompile hplaced hindex⟩
  · have hnone := replayToggle_none hcompile hvalid
    cases hreplay : program.replayToggle calibration none with
    | error error =>
      rw [hreplay] at hnone
      cases hnone
    | ok replayed =>
      rw [hreplay] at hnone
      simp only [Except.map, Except.ok.injEq, Prod.mk.injEq] at hnone
      refine ⟨replayed, rfl, ?_⟩
      rw [hnone.1]
      exact isTracedBy_clockTrace hcompile (ge_of_eq (length_chainedStarts _ _ _ _ _))
  · have hsome := replayToggle_some hcompile hvalid triggers
    rw [hreplay] at hsome
    split at hsome
    · next hlength =>
      simp only [Except.map, Except.ok.injEq, Prod.mk.injEq] at hsome
      have hstretches : timeline.clockStretches.length ≤ triggers.length := by
        rw [length_clockStretches]
        omega
      refine ⟨hstretches, ?_⟩
      rw [hsome.1]
      exact isTracedBy_clockTrace hcompile (by simpa using hstretches)
    · cases hsome

/-- Two pulses with a wait between them. The second one comes a wait delay after the end of the first. -/
theorem replayToggle_compileToggle_pulses :
    compileToggle [⟨0, .level 1⟩, ⟨1, .level 0⟩, ⟨2, .wait⟩, ⟨7, .level 1⟩, ⟨8, .level 0⟩] ⟨1, 8, 1⟩ =
      .ok (Program.ofBody [⟨2, 1⟩, Toggle.wait, ⟨2, 1⟩]) ∧
    (⟨1, 0.5, 3⟩ : Calibration).validate = .ok () ∧
    ∃ replayed, (Program.ofBody [⟨2, 1⟩, Toggle.wait, ⟨2, 1⟩]).replayToggle ⟨1, 0.5, 3⟩ none = .ok replayed ∧
      IsTracedBy ⟨1, 8, 1⟩ ⟨1, 0.5, 3⟩
        [⟨0, .level 1⟩, ⟨1, .level 0⟩, ⟨2, .wait⟩, ⟨7, .level 1⟩, ⟨8, .level 0⟩] [0, 5] replayed.trace := by
  have hcompile : compileToggle [⟨0, .level 1⟩, ⟨1, .level 0⟩, ⟨2, .wait⟩, ⟨7, .level 1⟩, ⟨8, .level 0⟩]
      ⟨1, 8, 1⟩ = .ok (Program.ofBody [⟨2, 1⟩, Toggle.wait, ⟨2, 1⟩]) := rfl
  have hvalid : (⟨1, 0.5, 3⟩ : Calibration).validate = .ok () := rfl
  have hstarts : selfTimedStarts ⟨1, 8, 1⟩ ⟨1, 0.5, 3⟩
      [⟨0, .level 1⟩, ⟨1, .level 0⟩, ⟨2, .wait⟩, ⟨7, .level 1⟩, ⟨8, .level 0⟩] = [0, 5] := by decide +kernel
  have hreplay := (replayToggle_compileToggle hcompile hvalid).1
  rw [hstarts] at hreplay
  exact ⟨hcompile, hvalid, hreplay⟩

end Timeline

end Pseudoclock
