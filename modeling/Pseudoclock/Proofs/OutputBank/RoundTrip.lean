import Mathlib
import Pseudoclock.Proofs.Binary64.Whole
import Pseudoclock.Proofs.OutputBank.Holding
import Pseudoclock.Proofs.Timeline.Stretch
import Pseudoclock.Replay.OutputBank

/-!
Compiled output banks replay as their timelines: one sample for each level event and one for each run of
waits, on every channel.
-/

namespace Pseudoclock

open Timeline

namespace Timeline

/-- The words that an output bank shows: those of its level events, and the word before each run of waits.
`held` is the word before the timeline, and `isWaiting` says whether a wait stands there. -/
def wordsBehind : Bool → UInt64 → Timeline → List UInt64
  | _, _, [] => []
  | isWaiting, held, ⟨_, .wait⟩ :: rest =>
    if isWaiting then wordsBehind true held rest else held :: wordsBehind true held rest
  | _, _, ⟨_, .level word⟩ :: rest => word :: wordsBehind false word rest

end Timeline

namespace Replay

variable {layout : Layout} {clockResolution : Float} {calibration : Calibration}

/-- The clocks at the events of stretches, each of which starts a delay after the one before it. -/
def bankClocks (position : Float → Float → Int) (unit delay : Float) : Float → List (Float × Stretch) → List Float
  | _, [] => []
  | start, (origin, stretch) :: rest =>
    stretch.eventClocks (position origin) unit start ++
      bankClocks position unit delay (stretch.finish (position origin) unit start + delay) rest

theorem bankClocks_eq_flatMap (position : Float → Float → Int) (unit delay start : Float)
    (stretches : List (Float × Stretch)) :
    bankClocks position unit delay start stretches =
      ((chainedStarts position unit delay start stretches).zip stretches).flatMap
        fun (start, origin, stretch) => stretch.eventClocks (position origin) unit start := by
  induction stretches generalizing start with
  | nil => rfl
  | cons placed stretches ih =>
    rw [bankClocks, ih]
    rfl

private theorem bankClocks_stop (position : Float → Float → Int) (unit delay start origin time : Float)
    (stretches : Stretch × List Stretch) :
    bankClocks position unit delay start (Timeline.placed origin (⟨[], some time⟩, stretches.1 :: stretches.2)) =
      start :: bankClocks position unit delay (start + delay) (Timeline.placed stretches.1.origin stretches) :=
  rfl

private theorem bankClocks_extend {position : Float → Float → Int} {origin next : Float}
    {stretches : Stretch × List Stretch} (hnext : stretches.1.times.head? = some next) (time : Float)
    (word : UInt64) (unit delay start : Float) :
    bankClocks position unit delay start (Timeline.placed origin (stretches.1.extend time word, stretches.2)) =
      start :: bankClocks position unit delay
        (start + Float.ofInt (position origin next - position origin time) * unit)
        (Timeline.placed origin stretches) := by
  simp only [Timeline.placed, bankClocks]
  rw [Stretch.eventClocks_extend hnext, Stretch.finish_extend hnext, List.cons_append]

/-- A wait that follows another one does nothing. -/
theorem stepSnapshot_of_isWaiting {replay : Replay UInt64} (hwaiting : replay.isWaiting = true)
    {instruction : Snapshot} (hwait : isWait instruction = true) :
    stepSnapshot calibration replay instruction = replay := by
  simp [stepSnapshot, hwaiting, hwait]

/-- The first wait of a run shows its word for as long as a wait takes. -/
theorem stepSnapshot_of_isWait {replay : Replay UInt64} (hwaiting : replay.isWaiting = false)
    {instruction : Snapshot} (hwait : isWait instruction = true) :
    stepSnapshot calibration replay instruction =
      { replay.hold (replay.waitDuration calibration) instruction.bits with isWaiting := true } := by
  simp [stepSnapshot, hwaiting, hwait]

private theorem stepSnapshot_level (replay : Replay UInt64) {reps : UInt32} {word : UInt64}
    (hlevel : isWait (⟨reps, word⟩ : Snapshot) = false) : stepSnapshot calibration replay ⟨reps, word⟩ =
      { replay.hold (Float.ofInt reps.toNat * calibration.clockResolution) word with isWaiting := false } := by
  simp only [stepSnapshot, hlevel, Ticks.toLength, Binary64.uint64_toFloat]
  rfl

/-- The words that instructions record are those of the events that they hold. -/
theorem words_foldl_stepSnapshot {held : UInt64} {origin : Option Float} {timeline : Timeline}
    {words : List Snapshot} (hholds : Holds layout clockResolution held origin timeline words)
    (calibration : Calibration) (replay : Replay UInt64) :
    (words.foldl (stepSnapshot calibration) replay).recorded.reverse.map (·.2) =
      replay.recorded.reverse.map (·.2) ++ timeline.wordsBehind replay.isWaiting held := by
  induction hholds generalizing replay with
  | nil held origin => simp [Timeline.wordsBehind]
  | @wait held origin rest words time hrest ih =>
    rw [List.foldl_cons]
    cases hreplay : replay.isWaiting with
    | true =>
      rw [stepSnapshot_of_isWaiting hreplay rfl, ih, hreplay]
      rfl
    | false =>
      rw [stepSnapshot_of_isWait hreplay rfl, ih]
      simp [hold, Snapshot.wait, Timeline.wordsBehind]
  | level hfits hreps hrest ih =>
    rw [List.foldl_cons, stepSnapshot_level replay (hreps.isWait_eq_false _), ih]
    simp [hold, Timeline.wordsBehind]

def bankPosition (clockResolution : Float) (origin time : Float) : Int :=
  Ticks.ofLength (time - origin) clockResolution

/-- The clocks that instructions record are those of the stretches of the events that they hold. -/
theorem clocks_foldl_stepSnapshot {held : UInt64} {origin : Option Float} {timeline : Timeline}
    {words : List Snapshot} (hholds : Holds layout clockResolution held origin timeline words)
    (calibration : Calibration) (replay : Replay UInt64) (hwaiting : replay.isWaiting = true → origin = none) :
    (words.foldl (stepSnapshot calibration) replay).recorded.reverse.map (·.1) =
      replay.recorded.reverse.map (·.1) ++
        bankClocks (bankPosition clockResolution) calibration.clockResolution (replay.waitDuration calibration)
          replay.clock (Timeline.placed (origin.getD (stretchesAfter replay.isWaiting timeline).1.origin)
            (stretchesAfter replay.isWaiting timeline)) := by
  induction hholds generalizing replay with
  | nil held origin =>
    rw [stretchesAfter_nil]
    simp [Timeline.placed, bankClocks, Stretch.eventClocks, Stretch.times]
  | @wait held origin rest words time hrest ih =>
    rw [List.foldl_cons]
    cases hreplay : replay.isWaiting with
    | true =>
      obtain rfl := hwaiting hreplay
      rw [stepSnapshot_of_isWaiting hreplay rfl, stretchesAfter_wait_of_isWaiting, ih replay fun _ => rfl, hreplay]
    | false =>
      rw [stepSnapshot_of_isWait hreplay rfl, ih _ fun _ => rfl, stretchesAfter_wait, bankClocks_stop]
      simp only [hold, List.reverse_cons, List.map_append, List.append_assoc]
      rfl
  | @level held word origin time rest reps words hfits hreps hrest ih =>
    have horigin : ((stretchesAfter false rest).1.extend time word).origin = time := rfl
    rw [List.foldl_cons, stepSnapshot_level replay (hreps.isWait_eq_false _), ih _ (by simp), stretchesAfter_level, horigin]
    simp only [hold, List.reverse_cons, List.map_append, List.append_assoc]
    cases rest with
    -- The last word is held for one more tick, but nothing is shown at its end.
    | nil => rfl
    | cons next rest =>
      have hnext := Timeline.head?_times_stretchesAfter (next :: rest)
      have hstep : (reps.toNat : Int) = bankPosition clockResolution (origin.getD time) next.time -
        bankPosition clockResolution (origin.getD time) time := hreps.eq_step next rfl
      rw [bankClocks_extend hnext, ← hstep]
      rfl

end Replay

/-- A demultiplexed trace has the times of its words on every channel. -/
theorem Layout.demultiplex_eq (layout : Layout) {words : Trace UInt64}
    (hlength : words.times.length = words.values.length) :
    layout.demultiplex words = (List.range layout.channels).map fun channel =>
      ⟨words.times, words.values.map (layout.levelOf · channel)⟩ := by
  refine List.map_congr_left fun channel _ => ?_
  have htimes : words.samples.map (·.1) = words.times := List.map_fst_zip hlength.le
  have hvalues : words.samples.map (·.2) = words.values := List.map_snd_zip hlength.ge
  simp only [Trace.ofSamples, List.map_map, Function.comp_def]
  rw [htimes, ← hvalues, List.map_map]
  rfl

namespace Timeline

/-- The stretches of an output bank, each with its first event for its origin. -/
def bankStretches (timeline : Timeline) : List (Float × Stretch) :=
  (timeline.stretches.1 :: timeline.stretches.2).map fun stretch => (stretch.origin, stretch)

/-- The clock at the first sample of an output bank. -/
def bankStart (calibration : Calibration) (triggers : Option (List Float)) : Float :=
  (triggers.bind (·.head?)).getD 0 + calibration.triggerDelay

/-- For how long a run of waits holds up an output bank. -/
def bankDelay (calibration : Calibration) (triggers : Option (List Float)) : Float :=
  if triggers.isSome then calibration.triggerDelay else calibration.waitDelay

/-- A trace with the samples of an output bank. -/
structure IsBankTrace (clockResolution : Float) (calibration : Calibration) (triggers : Option (List Float))
    (timeline : Timeline) (trace : Trace UInt64) : Prop where
  /-- There is one sample for each level event and for each run of waits, in order. -/
  words_eq : trace.values = timeline.wordsBehind false 0
  length_eq : trace.times.length = trace.values.length
  /-- From its start on, the clock of a stretch advances by the steps between its events, the wait behind it
  among them, and then by the delay. -/
  times_eq : trace.times =
    ((chainedStarts (Replay.bankPosition clockResolution) calibration.clockResolution
      (bankDelay calibration triggers) (bankStart calibration triggers) timeline.bankStretches).zip
        timeline.bankStretches).flatMap fun (start, origin, stretch) =>
      stretch.eventClocks (Replay.bankPosition clockResolution origin) calibration.clockResolution start

variable {layout : Layout} {capabilities : Capabilities} {calibration : Calibration} {timeline : Timeline}
  {program : Program Snapshot}

private theorem isBankTrace_finish {held : List Snapshot} {clockResolution : Float}
    (hholds : Holds layout clockResolution 0 none timeline held) {triggers : Option (List Float)}
    {start : Replay UInt64} (hclock : start.clock = bankStart calibration triggers)
    (hdelay : start.waitDuration calibration = bankDelay calibration triggers)
    (hwaiting : start.isWaiting = false) (hrecorded : start.recorded = []) (length : Nat) :
    IsBankTrace clockResolution calibration triggers timeline
      ((held.foldl (Replay.stepSnapshot calibration) start).finish length).trace where
  words_eq := by
    have hwords := Replay.words_foldl_stepSnapshot hholds calibration start
    rw [hwaiting, hrecorded] at hwords
    exact hwords
  length_eq := by simp [Replay.finish]
  times_eq := by
    have hclocks := Replay.clocks_foldl_stepSnapshot hholds calibration start (by simp)
    rw [hwaiting, hrecorded, hclock, hdelay, Replay.bankClocks_eq_flatMap] at hclocks
    exact hclocks

/-- A compiled output bank can be replayed unless it is triggered and there are no edges. -/
theorem replayWords_compileSnapshot (hcompile : timeline.compileSnapshot layout capabilities = .ok program)
    (hvalid : calibration.validate = .ok ()) {triggers : Option (List Float)} (hedge : triggers ≠ some []) :
    ∃ replayed, program.replayWords calibration triggers = .ok replayed ∧
      IsBankTrace capabilities.clockResolution calibration triggers timeline replayed.trace := by
  obtain ⟨_, hholds⟩ := compileSnapshot_eq_ok hcompile
  rw [Program.replayWords, hvalid]
  rcases triggers with _ | _ | ⟨edge, pending⟩
  · exact ⟨_, rfl, isBankTrace_finish hholds rfl rfl rfl rfl _⟩
  · exact absurd rfl hedge
  · exact ⟨_, rfl, isBankTrace_finish hholds rfl rfl rfl rfl _⟩

/-- A triggered output bank needs an edge to begin. -/
theorem replayWords_nil (program : Program Snapshot) (hvalid : calibration.validate = .ok ()) :
    program.replayWords calibration (some []) = .error (.triggerExhausted 1 0) := by
  rw [Program.replayWords, hvalid]
  rfl

/-- The layout that a program was compiled for accepts all of its words again. -/
theorem checkWords_compileSnapshot (hcompile : timeline.compileSnapshot layout capabilities = .ok program) :
    program.checkWords layout = .ok () := by
  obtain ⟨_, hholds⟩ := compileSnapshot_eq_ok hcompile
  have hnone : (program.body.zipIdx.find? fun entry => !layout.fits entry.1.bits) = none := by
    refine List.find?_eq_none.mpr fun entry hentry => ?_
    have hfits := hholds.fits layout.fits_zero entry.1 (List.fst_mem_of_mem_zipIdx hentry)
    simp [hfits]
  rw [Program.checkWords, hnone]

/-- With the layout that it was compiled for, a program is replayed as its words are. -/
theorem replaySnapshot_compileSnapshot (hcompile : timeline.compileSnapshot layout capabilities = .ok program)
    (triggers : Option (List Float)) :
    program.replaySnapshot calibration layout triggers = program.replayWords calibration triggers := by
  rw [Program.replaySnapshot, (compileSnapshot_eq_ok hcompile).1, checkWords_compileSnapshot hcompile]
  rfl

/-- The trace of a compiled output bank has one sample for each level event and one for each run of waits,
with the word before it. A stretch advances by the ticks between its events, counted from the first one, and
a run of waits adds a single delay. With the layout that it was compiled for, the bank's channels have
samples at the same clocks, with their levels under the same words. -/
theorem replayChannels_compileSnapshot (hcompile : timeline.compileSnapshot layout capabilities = .ok program)
    (hvalid : calibration.validate = .ok ()) {triggers : Option (List Float)} (hedge : triggers ≠ some []) :
    ∃ replayed, program.replayWords calibration triggers = .ok replayed ∧
      IsBankTrace capabilities.clockResolution calibration triggers timeline replayed.trace ∧
      program.replayChannels calibration layout triggers =
        .ok ((List.range layout.channels).map fun channel =>
          ⟨replayed.trace.times, replayed.trace.values.map (layout.levelOf · channel)⟩) := by
  obtain ⟨replayed, hreplay, htrace⟩ := replayWords_compileSnapshot hcompile hvalid hedge
  refine ⟨replayed, hreplay, htrace, ?_⟩
  rw [Program.replayChannels, replaySnapshot_compileSnapshot hcompile, hreplay,
    ← layout.demultiplex_eq htrace.length_eq]
  rfl

/-- Two words with a wait between them, on two channels. The wait shows the first word again. -/
theorem replayChannels_compileSnapshot_words :
    compileSnapshot [⟨0, .level 1⟩, ⟨2, .wait⟩, ⟨5, .level 3⟩] ⟨2, 8, .big⟩ ⟨1, 8, 1⟩ =
      .ok (Program.ofBody [⟨2, 1⟩, Snapshot.wait 1, ⟨1, 3⟩]) ∧
    (⟨1, 0.5, 3⟩ : Calibration).validate = .ok () ∧ (none : Option (List Float)) ≠ some [] ∧
    ∃ replayed, (Program.ofBody [⟨2, 1⟩, Snapshot.wait 1, ⟨1, 3⟩]).replayWords ⟨1, 0.5, 3⟩ none = .ok replayed ∧
      replayed.trace.values = [1, 1, 3] ∧
      (Program.ofBody [⟨2, 1⟩, Snapshot.wait 1, ⟨1, 3⟩]).replayChannels ⟨1, 0.5, 3⟩ ⟨2, 8, .big⟩ none =
        .ok [⟨replayed.trace.times, [1, 1, 1]⟩, ⟨replayed.trace.times, [0, 0, 1]⟩] := by
  have hcompile : compileSnapshot [⟨0, .level 1⟩, ⟨2, .wait⟩, ⟨5, .level 3⟩] ⟨2, 8, .big⟩ ⟨1, 8, 1⟩ =
      .ok (Program.ofBody [⟨2, 1⟩, Snapshot.wait 1, ⟨1, 3⟩]) := rfl
  have hvalid : (⟨1, 0.5, 3⟩ : Calibration).validate = .ok () := rfl
  have hedge : (none : Option (List Float)) ≠ some [] := by simp
  obtain ⟨replayed, hreplay, htrace, hchannels⟩ := replayChannels_compileSnapshot hcompile hvalid hedge
  refine ⟨hcompile, hvalid, hedge, replayed, hreplay, htrace.words_eq, ?_⟩
  rw [hchannels, htrace.words_eq]
  rfl

end Timeline

end Pseudoclock
