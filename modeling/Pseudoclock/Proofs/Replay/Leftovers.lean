import Mathlib
import Pseudoclock.Proofs.Replay.Triggers
import Pseudoclock.Proofs.Table

/-!
The edges that a replay leaves over. How many it has used is told by the table of its program, without a look at
what was shown.
-/

namespace Pseudoclock

/-- A replay has used the first `needed` edges, and all of them were there. -/
structure Usage.HasUsed (usage : Usage) (needed : Nat) (triggers : Option (List Float)) : Prop where
  edges_eq : usage.edges = triggers.map fun edges => ⟨needed, edges.drop needed⟩
  needed_le : ∀ edges ∈ triggers, needed ≤ edges.length

/-- The record of edges that are left over, if there are more of them than needed. -/
def leftoverRecords (needed : Nat) : Option Nat → List Log.Record
  | none => []
  | some available =>
    if needed < available then
      [⟨.info, .decoder, s!"{available - needed} of {available} trigger edges were not needed by the program"⟩]
    else []

/-- While diagnostics are on, the edges that were not used are counted. -/
theorem Usage.HasUsed.unusedEdges_eq {usage : Usage} {needed : Nat} {triggers : Option (List Float)}
    (hused : usage.HasUsed needed triggers) (diagnostics : Bool) :
    usage.unusedEdges diagnostics =
      if diagnostics then leftoverRecords needed (triggers.map List.length) else [] := by
  rw [unusedEdges, hused.edges_eq]
  cases triggers with
  | none => simp [leftoverRecords]
  | some edges =>
    have hneeded := hused.needed_le edges rfl
    have htotal : (EdgeReader.mk needed (edges.drop needed)).total = edges.length := by
      rw [EdgeReader.total, List.length_drop]
      exact Nat.add_sub_of_le hneeded
    simp only [Option.map_some, leftoverRecords, htotal, List.length_drop, List.isEmpty_iff, List.drop_eq_nil_iff]
    by_cases hall : edges.length ≤ needed
    · simp [hall, not_lt_of_ge hall]
    · simp [hall, not_le.mp hall, Log.diagnostic]

namespace Replay

/-- Without edges a clock line goes on without edges. -/
theorem edges_foldlM_stepToggle {calibration : Calibration} {body : List Toggle} {replay next : Replay UInt8}
    (hedges : replay.edges = none) (hrun : body.foldlM (stepToggle calibration) replay = .ok next) :
    next.edges = none := by
  induction body generalizing replay with
  | nil =>
    obtain rfl := Except.ok.inj hrun
    exact hedges
  | cons instruction rest ih =>
    rw [List.foldlM_cons, bind_eq_ok_iff] at hrun
    obtain ⟨between, hstep, hrest⟩ := hrun
    refine ih ?_ hrest
    rcases stepToggle_eq_ok hstep with ⟨_, _, rfl⟩ | ⟨_, _, resumed, hresumed, rfl⟩ | ⟨_, rfl⟩
    · exact hedges
    · rw [hedges] at hresumed
      obtain rfl := Except.ok.inj hresumed
      rfl
    · rw [cycles_eq]
      exact hedges

/-- No word is shown at an edge but the first one. -/
theorem edges_foldl_stepSnapshot (calibration : Calibration) (body : List Snapshot) (replay : Replay UInt64) :
    (body.foldl (stepSnapshot calibration) replay).edges = replay.edges := by
  induction body generalizing replay with
  | nil => rfl
  | cons instruction rest ih =>
    rw [List.foldl_cons, ih, stepSnapshot]
    split
    · split <;> rfl
    · rfl

end Replay

namespace Program

variable {calibration : Calibration} {triggers : Option (List Float)}

theorem hasUsed_of_replayToggle {program : Program Toggle} {replayed : Replayed UInt8}
    (hreplay : program.replayToggle calibration triggers = .ok replayed) :
    replayed.usage.HasUsed program.edgesNeeded triggers := by
  have hstages := hreplay
  rw [replayToggle, check_bind_eq_ok_iff] at hstages
  obtain ⟨hvalid, hstages⟩ := hstages
  cases triggers with
  | none =>
    -- The closed form of a replay is one with edges, so that the steps are followed here.
    obtain ⟨start, hstart, hstages⟩ := bind_eq_ok_iff.mp hstages
    obtain ⟨finish, hrun, hfinish⟩ := bind_eq_ok_iff.mp hstages
    obtain rfl := Except.ok.inj hstart
    obtain rfl := Except.ok.inj hfinish
    exact ⟨Replay.edges_foldlM_stepToggle rfl hrun, by simp⟩
  | some edges =>
    obtain ⟨hneeded, rfl⟩ := (replayToggle_eq_ok_iff hvalid program edges).mp hreplay
    exact ⟨rfl, fun _ hedges => Option.some.inj hedges ▸ hneeded⟩

theorem hasUsed_of_replayWords {program : Program Snapshot} {replayed : Replayed UInt64}
    (hreplay : program.replayWords calibration triggers = .ok replayed) : replayed.usage.HasUsed 1 triggers := by
  rw [replayWords, check_bind_eq_ok_iff, bind_eq_ok_iff] at hreplay
  obtain ⟨_, start, hstart, hfinish⟩ := hreplay
  obtain rfl := Except.ok.inj hfinish
  have hedges := Replay.edges_foldl_stepSnapshot calibration program.body start
  rcases triggers with _ | _ | ⟨edge, pending⟩
  · obtain rfl := Except.ok.inj hstart
    exact ⟨hedges, by simp⟩
  · cases hstart
  · obtain rfl := Except.ok.inj hstart
    exact ⟨hedges, by simp⟩

end Program

namespace Table

/-- How many edges a table needs to be replayed with: one to begin and, on a clock line, one for each run of
rows with a period of zero, the stop sequence left aside. -/
def edgesNeeded : Table → Nat
  | .toggle period _ => runs (· == 0) (period.take (period.length - stopLength)) + 1
  | .snapshot .. => 1

theorem edgesNeeded_ofToggleProgram (program : Program Toggle) :
    (ofToggleProgram program).edgesNeeded = program.edgesNeeded := by
  rw [ofToggleProgram, edgesNeeded, Program.edgesNeeded, Program.body, List.length_map, ← List.map_take, runs_map]
  rfl

end Table

end Pseudoclock
