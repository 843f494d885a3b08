import Mathlib
import Pseudoclock.Proofs.Binary64.Whole
import Pseudoclock.Proofs.ClockLine.Beats
import Pseudoclock.Replay.ClockLine

/-!
Replay of toggle programs beat by beat. How cycles are counted into instructions has no influence on
what is recorded.
-/

namespace Pseudoclock.Replay

/-- The clock at which a device goes on after a wait that begins at `clock`, and the edges behind it. -/
def resume (calibration : Calibration) (edges : Option EdgeReader) (clock : Float) :
    Except Error (Float × Option EdgeReader) :=
  match edges with
  | none => .ok (clock + calibration.waitDelay, none)
  | some reader => do
    let (edge, reader) ← reader.next
    return (edge + calibration.triggerDelay, some reader)

/-- What has been recorded, in order, and the edges that are left. -/
def progress (replay : Replay UInt8) : List (Float × UInt8) × Option EdgeReader :=
  (replay.recorded.reverse, replay.edges)

def stepBeat (calibration : Calibration) (replay : Replay UInt8) : Beat → Except Error (Replay UInt8)
  | .wait => stepToggle calibration replay Toggle.wait
  | .cycle period =>
    .ok (cycles (Float.ofInt period * calibration.halfTick) 1 { replay with isWaiting := false })

variable {calibration : Calibration} {replay : Replay UInt8}

/-- A wait that follows another one does nothing. -/
theorem stepBeat_wait_of_isWaiting (hwaiting : replay.isWaiting = true) :
    stepBeat calibration replay .wait = .ok replay := by
  simp [stepBeat, stepToggle, hwaiting, Toggle.wait, Instruction.isWait]

/-- The first wait of a run takes the device to the clock at which it goes on. -/
theorem stepBeat_wait (hwaiting : replay.isWaiting = false) :
    stepBeat calibration replay .wait = (resume calibration replay.edges replay.clock).map
      fun resumed => { replay with clock := resumed.1, edges := resumed.2, isWaiting := true } := by
  obtain ⟨clock, edges, isWaiting, recorded⟩ := replay
  obtain rfl : isWaiting = false := hwaiting
  cases edges with
  | none => rfl
  | some reader =>
    obtain ⟨used, pending⟩ := reader
    cases pending <;> rfl

theorem stepToggle_of_isWait {instruction : Toggle} (hwait : Instruction.isWait instruction = true) :
    stepToggle calibration replay instruction = stepBeat calibration replay .wait := by
  have htoggle : Instruction.isWait Toggle.wait = true := rfl
  rw [stepBeat, stepToggle, stepToggle, if_pos hwait, if_pos htoggle]

theorem stepToggle_of_cycles {instruction : Toggle} (hcycles : Instruction.isWait instruction = false) :
    stepToggle calibration replay instruction =
      .ok (cycles (instruction.period.toFloat * calibration.halfTick) instruction.reps.toNat
        { replay with isWaiting := false }) := by
  rw [stepToggle, hcycles]
  rfl

/-- All that an instruction can do: a wait does nothing or takes the device to where it goes on, and any other
instruction goes through its cycles. -/
theorem stepToggle_eq_ok {instruction : Toggle} {next : Replay UInt8}
    (hstep : stepToggle calibration replay instruction = .ok next) :
    (Instruction.isWait instruction = true ∧ replay.isWaiting = true ∧ next = replay) ∨
    (Instruction.isWait instruction = true ∧ replay.isWaiting = false ∧
      ∃ resumed, resume calibration replay.edges replay.clock = .ok resumed ∧
        next = { replay with clock := resumed.1, edges := resumed.2, isWaiting := true }) ∨
    (Instruction.isWait instruction = false ∧
      next = cycles (instruction.period.toFloat * calibration.halfTick) instruction.reps.toNat
        { replay with isWaiting := false }) := by
  cases hwait : Instruction.isWait instruction with
  | false =>
    rw [stepToggle_of_cycles hwait] at hstep
    exact .inr (.inr ⟨rfl, (Except.ok.inj hstep).symm⟩)
  | true =>
    rw [stepToggle_of_isWait hwait] at hstep
    cases hwaiting : replay.isWaiting with
    | true =>
      rw [stepBeat_wait_of_isWaiting hwaiting] at hstep
      exact .inl ⟨rfl, rfl, (Except.ok.inj hstep).symm⟩
    | false =>
      rw [stepBeat_wait hwaiting, map_eq_ok_iff] at hstep
      obtain ⟨resumed, hresumed, hnext⟩ := hstep
      exact .inr (.inl ⟨rfl, rfl, resumed, hresumed, hnext.symm⟩)

private theorem foldlM_replicate_cycle (period : Int) (reps : Nat) :
    (List.replicate (reps + 1) (Beat.cycle period)).foldlM (stepBeat calibration) replay =
      .ok (cycles (Float.ofInt period * calibration.halfTick) (reps + 1) { replay with isWaiting := false }) := by
  induction reps generalizing replay with
  | zero => rfl
  | succ reps ih =>
    rw [List.replicate_succ, List.foldlM_cons]
    exact ih

/-- An instruction with any beats does as much as these do. -/
theorem foldlM_beats {instruction : Toggle} (hbeats : instruction.beats ≠ []) :
    instruction.beats.foldlM (stepBeat calibration) replay = stepToggle calibration replay instruction := by
  cases hwait : Instruction.isWait instruction with
  | true =>
    rw [stepToggle_of_isWait hwait, Toggle.beats, if_pos hwait, List.foldlM_cons]
    cases stepBeat calibration replay .wait <;> rfl
  | false =>
    have heq : instruction.beats = List.replicate instruction.reps.toNat (.cycle instruction.period.toNat) := by
      simp [Toggle.beats, hwait]
    obtain ⟨reps, hreps⟩ : ∃ reps, instruction.reps.toNat = reps + 1 := by
      refine Nat.exists_eq_succ_of_ne_zero fun hzero => hbeats ?_
      rw [heq, hzero, List.replicate_zero]
    rw [heq, hreps, foldlM_replicate_cycle, stepToggle_of_cycles hwait, hreps, Binary64.uint32_toFloat]

/-- Instructions that all have beats are replayed as their expansion is. -/
theorem foldlM_stepToggle_eq {body : List Toggle} (hbody : ∀ instruction ∈ body, instruction.beats ≠ []) :
    body.foldlM (stepToggle calibration) replay = (Toggle.expand body).foldlM (stepBeat calibration) replay := by
  induction body generalizing replay with
  | nil => rfl
  | cons instruction body ih =>
    rw [Toggle.expand_cons, List.foldlM_append, foldlM_beats (hbody instruction (by simp)), List.foldlM_cons]
    exact bind_congr fun _ => ih fun other hother => hbody other (by simp [hother])

end Pseudoclock.Replay
