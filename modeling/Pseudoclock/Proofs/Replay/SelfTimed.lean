import Mathlib
import Pseudoclock.Proofs.Calibration
import Pseudoclock.Proofs.Replay.Stretches
import Pseudoclock.Proofs.Trace.Clock
import Pseudoclock.Replay.OutputBank

/-!
Traces of self-timed devices. Their clock never goes back, so that each of these traces can be the reference of
another device, and the line of a clock rises at the beginning of every cycle.
-/

namespace Pseudoclock

namespace Replay

variable {α : Type} {calibration : Calibration}

/-- The clock started at zero or later and has not gone back since, and none of the samples that were recorded, the
last one first, is ahead of it. -/
structure InOrder (clock : Float) (recorded : List (Float × α)) : Prop where
  zero_le_clock : 0 ≤ clock
  zero_le : ∀ sample ∈ recorded, 0 ≤ sample.1
  le_clock : ∀ sample ∈ recorded, sample.1 ≤ clock
  pairwise : recorded.Pairwise fun later earlier => earlier.1 ≤ later.1

namespace InOrder

variable {clock : Float} {recorded : List (Float × α)}

theorem start (hclock : 0 ≤ clock) : InOrder (α := α) clock [] :=
  ⟨hclock, by simp, by simp, .nil⟩

/-- A sample is taken at the clock, behind all others. -/
theorem record (horder : InOrder clock recorded) (value : α) : InOrder clock ((clock, value) :: recorded) where
  zero_le_clock := horder.zero_le_clock
  zero_le := List.forall_mem_cons.mpr ⟨horder.zero_le_clock, horder.zero_le⟩
  le_clock := List.forall_mem_cons.mpr ⟨Binary64.le_self_of_le horder.zero_le_clock, horder.le_clock⟩
  pairwise := .cons horder.le_clock horder.pairwise

/-- The clock may stand still or become infinite, but it does not go back. -/
theorem advance (horder : InOrder clock recorded) {duration : Float} (hduration : 0 ≤ duration) :
    InOrder (clock + duration) recorded := by
  have hclock : clock ≤ clock + duration :=
    Binary64.le_add_of_nonneg Binary64.zero_isFinite horder.zero_le_clock hduration
  exact ⟨Binary64.le_trans horder.zero_le_clock hclock, horder.zero_le,
    fun sample hsample => Binary64.le_trans (horder.le_clock sample hsample) hclock, horder.pairwise⟩

/-- Whatever levels are shown for the values that were recorded, they make a reference. -/
theorem isReference (horder : InOrder clock recorded) (level : α → UInt8)
    (hlevel : ∀ sample ∈ recorded, level sample.2 = 0 ∨ level sample.2 = 1) :
    (Trace.ofSamples (recorded.reverse.map fun sample => (sample.1, level sample.2))).IsReference where
  length_eq := by simp
  isBinary := by
    simp only [Trace.values_ofSamples, List.map_map, List.mem_map, List.mem_reverse]
    rintro _ ⟨sample, hsample, rfl⟩
    exact hlevel sample hsample
  isOrdered := by
    rw [Trace.times_ofSamples, List.map_map, List.pairwise_map, List.pairwise_reverse]
    exact horder.pairwise
  isNumber := by
    simp only [Trace.times_ofSamples, List.map_map, List.mem_map, List.mem_reverse]
    rintro _ ⟨sample, hsample, rfl⟩
    exact Binary64.le_self_iff.mp (Binary64.le_self_of_le (horder.zero_le sample hsample))

end InOrder

theorem inOrder_cycles {half : Float} (hhalf : 0 ≤ half) (reps : Nat) {replay : Replay UInt8}
    (horder : InOrder replay.clock replay.recorded) :
    InOrder (cycles half reps replay).clock (cycles half reps replay).recorded := by
  induction reps generalizing replay with
  | zero => exact horder
  | succ reps ih =>
    have hfall := (horder.record 1).advance hhalf
    exact ih ((hfall.record 0).advance hhalf)

/-- Without triggers, every instruction of a clock line is replayed, and it keeps the order. -/
theorem inOrder_stepToggle (hvalid : calibration.validate = .ok ()) {replay : Replay UInt8}
    (horder : InOrder replay.clock replay.recorded) (hself : replay.edges = none) (instruction : Toggle) :
    ∃ next, stepToggle calibration replay instruction = .ok next ∧ InOrder next.clock next.recorded ∧
      next.edges = none := by
  rw [stepToggle]
  cases isWait instruction with
  | false =>
    refine ⟨_, rfl, inOrder_cycles (Calibration.halfCycle_nonneg hvalid instruction.period) _ horder, ?_⟩
    rw [cycles_eq]
    exact hself
  | true =>
    cases replay.isWaiting with
    | true => exact ⟨replay, rfl, horder, hself⟩
    | false =>
      rw [hself]
      exact ⟨_, rfl, horder.advance (Calibration.waitDelay_nonneg hvalid), rfl⟩

/-- Without triggers, every clock line is replayed to its end, and in order. -/
theorem inOrder_foldlM_stepToggle (hvalid : calibration.validate = .ok ()) (body : List Toggle)
    (replay : Replay UInt8) (horder : InOrder replay.clock replay.recorded) (hself : replay.edges = none) :
    ∃ final, body.foldlM (stepToggle calibration) replay = .ok final ∧ InOrder final.clock final.recorded := by
  induction body generalizing replay with
  | nil => exact ⟨replay, rfl, horder⟩
  | cons instruction body ih =>
    obtain ⟨next, hstep, hnext, hnextSelf⟩ := inOrder_stepToggle hvalid horder hself instruction
    rw [List.foldlM_cons, hstep]
    exact ih next hnext hnextSelf

/-- An instruction of an output bank keeps the order. A wait takes one of the two delays. -/
theorem inOrder_stepSnapshot (hvalid : calibration.validate = .ok ()) {replay : Replay UInt64}
    (horder : InOrder replay.clock replay.recorded) (instruction : Snapshot) :
    InOrder (stepSnapshot calibration replay instruction).clock
      (stepSnapshot calibration replay instruction).recorded := by
  have hdelay : 0 ≤ replay.waitDuration calibration := by
    rw [waitDuration]
    split
    · exact Calibration.triggerDelay_nonneg hvalid
    · exact Calibration.waitDelay_nonneg hvalid
  rw [stepSnapshot]
  split
  · split
    · exact horder
    · exact (horder.record _).advance hdelay
  · exact (horder.record _).advance (Calibration.toLength_nonneg hvalid _)

theorem inOrder_foldl_stepSnapshot (hvalid : calibration.validate = .ok ()) (body : List Snapshot)
    (replay : Replay UInt64) (horder : InOrder replay.clock replay.recorded) :
    InOrder (body.foldl (stepSnapshot calibration) replay).clock
      (body.foldl (stepSnapshot calibration) replay).recorded := by
  induction body generalizing replay with
  | nil => exact horder
  | cons instruction body ih => exact ih _ (inOrder_stepSnapshot hvalid horder instruction)

/-- The cycles of one instruction are recorded one after the other. -/
theorem exists_samplesOf_cycles (half : Float) (reps : Nat) (replay : Replay UInt8) :
    ∃ shown : List (Float × Float), shown.length = reps ∧
      (cycles half reps replay).recorded.reverse = replay.recorded.reverse ++ samplesOf shown := by
  induction reps generalizing replay with
  | zero => exact ⟨[], rfl, by simp [cycles, samplesOf]⟩
  | succ reps ih =>
    rw [cycles]
    obtain ⟨shown, hlength, hrecorded⟩ := ih { replay with
      clock := replay.clock + half + half
      recorded := (replay.clock + half, 0) :: (replay.clock, 1) :: replay.recorded }
    refine ⟨(replay.clock, replay.clock + half) :: shown, by rw [List.length_cons, hlength], ?_⟩
    rw [hrecorded, samplesOf_cons]
    simp

/-- How many cycles some instructions show: those of waits are not shown. -/
def cycleCount (body : List Toggle) : Nat :=
  ((body.filter (!isWait ·)).map (·.reps.toNat)).sum

/-- Waits show nothing. -/
private theorem recorded_of_isWait {instruction : Toggle} (hwait : isWait instruction = true)
    {replay next : Replay UInt8} (hstep : stepToggle calibration replay instruction = .ok next) :
    next.recorded = replay.recorded := by
  rcases stepToggle_eq_ok hstep with ⟨_, _, rfl⟩ | ⟨_, _, _, _, rfl⟩ | ⟨hcycles, _⟩
  · rfl
  · rfl
  · rw [hwait] at hcycles
    cases hcycles

/-- However a clock line is replayed, it shows whole cycles, as many as its instructions count. -/
theorem exists_samplesOf_foldlM_stepToggle {body : List Toggle} {replay final : Replay UInt8}
    (hreplay : body.foldlM (stepToggle calibration) replay = .ok final) :
    ∃ shown : List (Float × Float), shown.length = cycleCount body ∧
      final.recorded.reverse = replay.recorded.reverse ++ samplesOf shown := by
  induction body generalizing replay with
  | nil =>
    obtain rfl : replay = final := Except.ok.inj hreplay
    exact ⟨[], rfl, by simp [samplesOf]⟩
  | cons instruction body ih =>
    rw [List.foldlM_cons, bind_eq_ok_iff] at hreplay
    obtain ⟨next, hstep, hreplay⟩ := hreplay
    obtain ⟨later, hlater, hfinal⟩ := ih hreplay
    cases hwait : isWait instruction with
    | true =>
      exact ⟨later, by simp [cycleCount, hwait, hlater], by rw [hfinal, recorded_of_isWait hwait hstep]⟩
    | false =>
      rw [stepToggle_of_cycles hwait] at hstep
      obtain rfl := Except.ok.inj hstep
      obtain ⟨first, hfirst, hrecorded⟩ := exists_samplesOf_cycles
        (instruction.period.toFloat * calibration.halfTick) instruction.reps.toNat { replay with isWaiting := false }
      refine ⟨first ++ later, by simp [cycleCount, hwait, hfirst, hlater], ?_⟩
      rw [hfinal, hrecorded, samplesOf_append, List.append_assoc]

end Replay

namespace Program

open Replay (cycleCount)

variable {calibration : Calibration}

/-- A self-timed clock line is always replayed, in order and in whole cycles. -/
theorem replayToggle_selfTimed (hvalid : calibration.validate = .ok ()) (program : Program Toggle) :
    ∃ (replayed : Replayed UInt8) (shown : List (Float × Float)),
      program.replayToggle calibration none = .ok replayed ∧ replayed.trace.IsReference ∧
      replayed.trace = Trace.ofSamples (samplesOf shown) ∧ shown.length = cycleCount program.body := by
  have hstart : Replay.InOrder (α := UInt8) 0 [] := .start (Binary64.le_self_of_isFinite Binary64.zero_isFinite)
  obtain ⟨final, hfinal, horder⟩ :=
    Replay.inOrder_foldlM_stepToggle hvalid program.body ⟨0, none, false, []⟩ hstart rfl
  obtain ⟨shown, hlength, hshown⟩ := Replay.exists_samplesOf_foldlM_stepToggle hfinal
  have hsamples : final.recorded.reverse = samplesOf shown := hshown
  have hlevels : ∀ sample ∈ final.recorded, sample.2 = 0 ∨ sample.2 = 1 := by
    intro sample hsample
    rw [← List.mem_reverse, hsamples] at hsample
    exact level_of_mem_samplesOf hsample
  refine ⟨final.finish program.body.length, shown, ?_, ?_, by rw [Replay.finish, hsamples], hlength⟩
  · rw [replayToggle, hvalid]
    change (program.body.foldlM (Replay.stepToggle calibration) ⟨0, none, false, []⟩ >>= _) = _
    rw [hfinal]
    rfl
  · simpa [Replay.finish] using horder.isReference id hlevels

/-- The channels of an output bank have the times of its words, which are in order. -/
theorem isReference_of_mem_replayChannels (hvalid : calibration.validate = .ok ()) {program : Program Snapshot}
    {layout : Layout} {traces : List (Trace UInt8)}
    (hreplay : program.replayChannels calibration layout none = .ok traces) :
    ∀ trace ∈ traces, trace.IsReference := by
  rw [replayChannels, bind_eq_ok_iff] at hreplay
  obtain ⟨replayed, hreplayed, htraces⟩ := hreplay
  obtain rfl := Except.ok.inj htraces
  rw [replaySnapshot, check_bind_eq_ok_iff, check_bind_eq_ok_iff, replayWords, check_bind_eq_ok_iff] at hreplayed
  obtain ⟨_, _, _, hreplayed⟩ := hreplayed
  obtain rfl := Except.ok.inj hreplayed
  have hclock : (0 : Float) ≤ 0 + calibration.triggerDelay :=
    Binary64.le_add_of_nonneg Binary64.zero_isFinite (Binary64.le_self_of_isFinite Binary64.zero_isFinite)
      (Calibration.triggerDelay_nonneg hvalid)
  have horder := Replay.inOrder_foldl_stepSnapshot hvalid program.body
    ⟨0 + calibration.triggerDelay, none, false, []⟩ (.start hclock)
  intro trace htrace
  obtain ⟨channel, _, rfl⟩ := List.mem_map.mp htrace
  rw [Replay.finish, Trace.samples_ofSamples]
  exact horder.isReference (layout.levelOf · channel) fun sample _ => layout.levelOf_eq_zero_or_one sample.2 channel

/-- The traces of self-timed devices can drive other devices: they have levels 0 and 1 at times that are numbers and
in order, and so they are accepted as clocks. The clock of a clock line rises at the beginning of each of its
cycles, and there are as many as its instructions count. -/
theorem selfTimed_isReference (hvalid : calibration.validate = .ok ()) :
    (∀ program : Program Toggle, ∃ (replayed : Replayed UInt8) (clock : ClockTrace) (shown : List (Float × Float)),
      program.replayToggle calibration none = .ok replayed ∧ replayed.trace.IsReference ∧
      ClockTrace.ofColumns replayed.trace.times replayed.trace.values = .ok clock ∧
      replayed.trace = Trace.ofSamples (samplesOf shown) ∧ shown.length = cycleCount program.body ∧
      clock.risingEdges = shown.map (·.1)) ∧
    ∀ (program : Program Snapshot) (layout : Layout) (traces : List (Trace UInt8)),
      program.replayChannels calibration layout none = .ok traces → ∀ trace ∈ traces, trace.IsReference ∧
        ∃ clock, ClockTrace.ofColumns trace.times trace.values = .ok clock := by
  constructor
  · intro program
    obtain ⟨replayed, shown, hreplay, hreference, htrace, hlength⟩ := replayToggle_selfTimed hvalid program
    obtain ⟨clock, hclock⟩ := hreference.exists_clock
    refine ⟨replayed, clock, shown, hreplay, hreference, hclock, htrace, hlength, ?_⟩
    obtain ⟨htimes, hlevels⟩ := ClockTrace.ofColumns_eq_ok hclock
    have hzip : replayed.trace.times.zip replayed.trace.values = samplesOf shown := by
      rw [htrace]
      exact Trace.samples_ofSamples (samplesOf shown)
    rw [ClockTrace.risingEdges, htimes, hlevels, hzip, ClockTrace.edgesAfter_samplesOf]
  · intro program layout traces hreplay trace htrace
    have hreference := isReference_of_mem_replayChannels hvalid hreplay trace htrace
    exact ⟨hreference, hreference.exists_clock⟩

/-- Three cycles with waits, an instruction without repetitions and a strange stop sequence around them, and a bank
of two outputs. -/
theorem selfTimed_isReference_cycles :
    let line : Program Toggle := ⟨[⟨4, 2⟩, ⟨0, 7⟩, ⟨0, 0⟩, ⟨6, 0⟩, ⟨2, 1⟩, ⟨9, 9⟩, ⟨1, 1⟩], by decide⟩
    let bank : Program Snapshot := Program.ofBody [⟨2, 1⟩, Snapshot.wait 1, ⟨1, 3⟩]
    let calibration : Calibration := ⟨1, 0.5, 3⟩
    calibration.validate = .ok () ∧
    (∃ replayed clock, line.replayToggle calibration none = .ok replayed ∧
      ClockTrace.ofColumns replayed.trace.times replayed.trace.values = .ok clock ∧ clock.risingEdges.length = 3) ∧
    bank.replayChannels calibration ⟨2, 8, .big⟩ none =
      .ok [⟨[0.5, 2.5, 5.5], [1, 1, 1]⟩, ⟨[0.5, 2.5, 5.5], [0, 0, 1]⟩] ∧
    ∃ clock, ClockTrace.ofColumns [0.5, 2.5, 5.5] [0, 0, 1] = .ok clock := by
  intro line bank calibration
  have hvalid : calibration.validate = .ok () := by decide +kernel
  obtain ⟨hlines, hbanks⟩ := selfTimed_isReference hvalid
  obtain ⟨replayed, clock, shown, hreplay, _, hclock, _, hlength, hedges⟩ := hlines line
  have hreplayed : bank.replayChannels calibration ⟨2, 8, .big⟩ none =
      .ok [⟨[0.5, 2.5, 5.5], [1, 1, 1]⟩, ⟨[0.5, 2.5, 5.5], [0, 0, 1]⟩] := by decide +kernel
  refine ⟨hvalid, ⟨replayed, clock, hreplay, hclock, ?_⟩, hreplayed, ?_⟩
  · rw [hedges, List.length_map, hlength]
    rfl
  · exact (hbanks bank _ _ hreplayed ⟨[0.5, 2.5, 5.5], [0, 0, 1]⟩ (by simp)).2

end Program

end Pseudoclock
