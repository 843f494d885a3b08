import Mathlib
import Pseudoclock.Proofs.Replay.Stretches
import Pseudoclock.Replay.OutputBank

/-!
How many trigger edges a replay needs. Edges beyond these are never read, whatever they are.
-/

namespace Pseudoclock

namespace Replay

/-- Instructions of an output bank only ask whether there are edges, and leave them as they are. -/
theorem foldl_stepSnapshot_edges (calibration : Calibration) (body : List Snapshot) (replay : Replay UInt64)
    (reader other : EdgeReader) :
    body.foldl (stepSnapshot calibration) { replay with edges := some other } =
      { body.foldl (stepSnapshot calibration) { replay with edges := some reader } with edges := some other } := by
  induction body generalizing replay with
  | nil => rfl
  | cons instruction body ih =>
    have hstep : ∃ next : Replay UInt64, ∀ edges : EdgeReader,
        stepSnapshot calibration { replay with edges := some edges } instruction =
          { next with edges := some edges } := by
      cases hwait : isWait instruction with
      | false =>
        refine ⟨stepSnapshot calibration replay instruction, fun edges => ?_⟩
        simp [stepSnapshot, hwait, hold]
      | true =>
        cases hwaiting : replay.isWaiting with
        | true =>
          refine ⟨replay, fun edges => ?_⟩
          simp [stepSnapshot, hwait, hwaiting]
        | false =>
          refine ⟨{ replay.hold calibration.triggerDelay instruction.bits with isWaiting := true }, fun edges => ?_⟩
          simp [stepSnapshot, hwait, hwaiting, hold, waitDuration]
    obtain ⟨next, hnext⟩ := hstep
    rw [List.foldl_cons, List.foldl_cons, hnext, hnext, ih]

end Replay

namespace Program

open Replay (outcome transitionsFrom)

variable {calibration : Calibration}

/-- How many edges a triggered replay of a clock line needs: one to begin, and one for each run of waits. -/
def edgesNeeded (program : Program Toggle) : Nat :=
  runs isWait program.body + 1

/-- With enough edges, the stretches of a program are shown from a trigger delay after an edge on. Otherwise
the replay fails at the first edge that is not there. -/
theorem replayToggle_of_edges (hvalid : calibration.validate = .ok ()) (program : Program Toggle)
    (triggers : List Float) :
    program.replayToggle calibration (some triggers) =
      if program.edgesNeeded ≤ triggers.length then
        .ok (outcome program.body.length
          (transitionsFrom calibration (triggers.map (· + calibration.triggerDelay)) (Toggle.stretches program.body),
            some ⟨program.edgesNeeded, triggers.drop program.edgesNeeded⟩))
      else .error (.triggerExhausted (triggers.length + 1) triggers.length) := by
  cases triggers with
  | nil =>
    rw [replayToggle, hvalid]
    rfl
  | cons edge pending =>
    rw [Replay.replayToggle_eq_playback hvalid program rfl, Replay.playback_some, Toggle.length_stretchesAfter]
    simp only [edgesNeeded, runs, List.length_cons, Nat.add_le_add_iff_right, Nat.add_comm 1, List.drop_succ_cons]
    split <;> rfl

/-- A triggered replay succeeds if there are enough edges, and shows the stretches of the program. -/
theorem replayToggle_eq_ok_iff (hvalid : calibration.validate = .ok ()) (program : Program Toggle)
    (triggers : List Float) {replayed : Replayed UInt8} :
    program.replayToggle calibration (some triggers) = .ok replayed ↔
      program.edgesNeeded ≤ triggers.length ∧
        outcome program.body.length
          (transitionsFrom calibration (triggers.map (· + calibration.triggerDelay)) (Toggle.stretches program.body),
            some ⟨program.edgesNeeded, triggers.drop program.edgesNeeded⟩) = replayed := by
  rw [replayToggle_of_edges hvalid]
  split
  · next henough => simp [henough]
  · next hfew => simp [hfew]

/-- What a replay shows does not depend on edges that it does not need. -/
private theorem transitionsFrom_edges (program : Program Toggle) {triggers others : List Float}
    (hsame : others.take program.edgesNeeded = triggers.take program.edgesNeeded) :
    transitionsFrom calibration (others.map (· + calibration.triggerDelay)) (Toggle.stretches program.body) =
      transitionsFrom calibration (triggers.map (· + calibration.triggerDelay)) (Toggle.stretches program.body) := by
  have hneeded : (Toggle.stretches program.body).length = program.edgesNeeded :=
    Toggle.length_stretches program.body
  rw [← Replay.transitionsFrom_take, ← Replay.transitionsFrom_take _ (triggers.map _), hneeded, ← List.map_take,
    hsame, List.map_take]

/-- A triggered output bank shows its words from a trigger delay after its first edge on. -/
theorem replayWords_cons (hvalid : calibration.validate = .ok ()) (program : Program Snapshot) (edge : Float)
    (pending : List Float) :
    program.replayWords calibration (some (edge :: pending)) =
      .ok ({ program.body.foldl (Replay.stepSnapshot calibration)
              ⟨edge + calibration.triggerDelay, some ⟨1, []⟩, false, []⟩ with
            edges := some ⟨1, pending⟩ }.finish program.body.length) := by
  have hedges := Replay.foldl_stepSnapshot_edges calibration program.body
    ⟨edge + calibration.triggerDelay, none, false, []⟩ ⟨1, []⟩ ⟨1, pending⟩
  rw [replayWords, hvalid, ← hedges]
  rfl

/-- A triggered replay succeeds exactly if there is an edge to begin with and, on a clock line, one for each
run of waits in the program's body. What it shows depends on these edges only. With fewer edges it fails, and
the refusal asks for one edge more than there are. -/
theorem replay_edgesNeeded (hvalid : calibration.validate = .ok ()) (triggers : List Float) :
    (∀ program : Program Toggle,
      ((∃ replayed, program.replayToggle calibration (some triggers) = .ok replayed) ↔
        runs isWait program.body + 1 ≤ triggers.length) ∧
      (triggers.length < runs isWait program.body + 1 →
        program.replayToggle calibration (some triggers) =
          .error (.triggerExhausted (triggers.length + 1) triggers.length)) ∧
      ∀ replayed, program.replayToggle calibration (some triggers) = .ok replayed →
        ∀ others, others.take (runs isWait program.body + 1) = triggers.take (runs isWait program.body + 1) →
          ∃ again, program.replayToggle calibration (some others) = .ok again ∧ again.trace = replayed.trace) ∧
    ∀ program : Program Snapshot,
      ((∃ replayed, program.replayWords calibration (some triggers) = .ok replayed) ↔ 1 ≤ triggers.length) ∧
      (triggers.length < 1 →
        program.replayWords calibration (some triggers) = .error (.triggerExhausted 1 0)) ∧
      ∀ replayed, program.replayWords calibration (some triggers) = .ok replayed →
        ∀ others, others.head? = triggers.head? →
          ∃ again, program.replayWords calibration (some others) = .ok again ∧ again.trace = replayed.trace := by
  constructor
  · intro program
    have hreplay := replayToggle_of_edges hvalid program
    refine ⟨⟨fun ⟨replayed, hok⟩ => ?_, fun henough => ?_⟩, fun hfew => ?_, fun replayed hok others hsame => ?_⟩
    · rw [hreplay] at hok
      split at hok
      · assumption
      · cases hok
    · exact ⟨_, (hreplay triggers).trans (if_pos henough)⟩
    · exact (hreplay triggers).trans (if_neg (not_le_of_gt hfew))
    · rw [hreplay] at hok
      split at hok
      · next henough =>
        have hothers : program.edgesNeeded ≤ others.length := by
          have hlength := congrArg List.length hsame
          simp only [List.length_take] at hlength
          simp only [edgesNeeded] at henough ⊢
          omega
        refine ⟨_, (hreplay others).trans (if_pos hothers), ?_⟩
        obtain rfl := Except.ok.inj hok
        simp only [outcome]
        rw [transitionsFrom_edges program hsame]
      · cases hok
  · intro program
    cases triggers with
    | nil =>
      have hnone : program.replayWords calibration (some []) = .error (.triggerExhausted 1 0) := by
        rw [replayWords, hvalid]
        rfl
      simp [hnone]
    | cons edge pending =>
      have hsome := replayWords_cons hvalid program edge
      refine ⟨⟨fun _ => by simp, fun _ => ⟨_, hsome pending⟩⟩, fun hfew => by simp at hfew, ?_⟩
      intro replayed hok others hsame
      cases others with
      | nil => cases hsame
      | cons other others =>
        obtain rfl : other = edge := Option.some.inj hsame
        rw [hsome] at hok
        obtain rfl := Except.ok.inj hok
        exact ⟨_, hsome others, rfl⟩

/-- Two waits in a row are one run, whatever their repetitions say, and an instruction without any cycles ends
it. Three edges are enough for the two runs here, and two are not. -/
theorem replay_edgesNeeded_waits :
    (⟨1, 0.5, 3⟩ : Calibration).validate = .ok () ∧
    (∃ replayed, (Program.ofBody [⟨2, 1⟩, Toggle.wait, ⟨0, 7⟩, ⟨3, 0⟩, Toggle.wait]).replayToggle ⟨1, 0.5, 3⟩
      (some [1, 5, 9]) = .ok replayed ∧
      ∃ again, (Program.ofBody [⟨2, 1⟩, Toggle.wait, ⟨0, 7⟩, ⟨3, 0⟩, Toggle.wait]).replayToggle ⟨1, 0.5, 3⟩
        (some [1, 5, 9, 2]) = .ok again ∧ again.trace = replayed.trace) ∧
    (Program.ofBody [⟨2, 1⟩, Toggle.wait, ⟨0, 7⟩, ⟨3, 0⟩, Toggle.wait]).replayToggle ⟨1, 0.5, 3⟩ (some [1, 5]) =
      .error (.triggerExhausted 3 2) := by
  have hvalid : (⟨1, 0.5, 3⟩ : Calibration).validate = .ok () := rfl
  have hneeded : runs isWait (Program.ofBody [⟨2, 1⟩, Toggle.wait, ⟨0, 7⟩, ⟨3, 0⟩, Toggle.wait]).body + 1 = 3 := rfl
  obtain ⟨hok, _, hsame⟩ := (replay_edgesNeeded hvalid [1, 5, 9]).1
    (Program.ofBody [⟨2, 1⟩, Toggle.wait, ⟨0, 7⟩, ⟨3, 0⟩, Toggle.wait])
  obtain ⟨_, hexhausted, _⟩ := (replay_edgesNeeded hvalid [1, 5]).1
    (Program.ofBody [⟨2, 1⟩, Toggle.wait, ⟨0, 7⟩, ⟨3, 0⟩, Toggle.wait])
  rw [hneeded] at hok hexhausted hsame
  obtain ⟨replayed, hreplay⟩ := hok.mpr (by decide)
  exact ⟨hvalid, ⟨replayed, hreplay, hsame replayed hreplay [1, 5, 9, 2] rfl⟩, hexhausted (by decide)⟩

end Program

end Pseudoclock
