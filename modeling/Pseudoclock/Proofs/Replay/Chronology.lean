import Mathlib
import Pseudoclock.Proofs.Calibration
import Pseudoclock.Proofs.Replay.Triggers
import Pseudoclock.Proofs.Trace.Clock

/-!
When the trace of a triggered clock line is in chronological order. A stretch of cycles always is. The next
one starts when its trigger edge comes, whether or not the stretch before it is over by then.
-/

namespace Pseudoclock

namespace Toggle

variable {calibration : Calibration}

theorem halves_nonneg (hvalid : calibration.validate = .ok ()) {stretch : List Toggle} {half : Float}
    (hhalf : half ∈ halves calibration stretch) : 0 ≤ half := by
  obtain ⟨instruction, _, hmem⟩ := List.mem_flatMap.mp hhalf
  obtain ⟨_, rfl⟩ := List.mem_replicate.mp hmem
  exact Calibration.halfCycle_nonneg hvalid instruction.period

end Toggle

namespace Replay

private theorem le_fall_and_le_rise {least start half : Float} (hleast : least.isFinite = true)
    (hstart : least ≤ start) (hhalf : 0 ≤ half) : start ≤ start + half ∧ start + half ≤ start + half + half := by
  have hfall : start ≤ start + half := Binary64.le_add_of_nonneg hleast hstart hhalf
  exact ⟨hfall, Binary64.le_add_of_nonneg hleast (Binary64.le_trans hstart hfall) hhalf⟩

/-- Transitions are not before the start of their stretch. -/
theorem start_le_transitions {least start : Float} (hleast : least.isFinite = true) (hstart : least ≤ start)
    {halves : List Float} (hhalves : ∀ half ∈ halves, 0 ≤ half) :
    ∀ transition ∈ transitions start halves, start ≤ transition.1 := by
  induction halves generalizing start with
  | nil => simp [transitions]
  | cons half halves ih =>
    obtain ⟨hhalf, hothers⟩ := List.forall_mem_cons.mp hhalves
    obtain ⟨hfall, hrise⟩ := le_fall_and_le_rise hleast hstart hhalf
    have hover : start ≤ start + half + half := Binary64.le_trans hfall hrise
    intro transition htransition
    rw [transitions, List.mem_cons, List.mem_cons] at htransition
    rcases htransition with rfl | rfl | hlater
    · exact Binary64.le_self_of_le hstart
    · exact hfall
    · exact Binary64.le_trans hover (ih (Binary64.le_trans hstart hover) hothers transition hlater)

/-- The transitions of a stretch are in order. -/
theorem pairwise_transitions {least start : Float} (hleast : least.isFinite = true) (hstart : least ≤ start)
    {halves : List Float} (hhalves : ∀ half ∈ halves, 0 ≤ half) :
    (transitions start halves).Pairwise fun earlier later => earlier.1 ≤ later.1 := by
  induction halves generalizing start with
  | nil => exact .nil
  | cons half halves ih =>
    obtain ⟨hhalf, hothers⟩ := List.forall_mem_cons.mp hhalves
    obtain ⟨hfall, hrise⟩ := le_fall_and_le_rise hleast hstart hhalf
    have hover : least ≤ start + half + half := Binary64.le_trans hstart (Binary64.le_trans hfall hrise)
    have hlater := start_le_transitions hleast hover hothers
    refine .cons (fun transition htransition => ?_) (.cons (fun transition htransition => ?_) (ih hover hothers))
    · rcases List.mem_cons.mp htransition with rfl | htransition
      · exact hfall
      · exact Binary64.le_trans (Binary64.le_trans hfall hrise) (hlater transition htransition)
    · exact Binary64.le_trans hrise (hlater transition htransition)

/-- No stretch with any transitions starts before the last transition of an earlier one. A start is a trigger
delay after its edge. -/
def KeepsUp (calibration : Calibration) (edges : List Float) (body : List Toggle) : Prop :=
  ((edges.map (· + calibration.triggerDelay)).zip (Toggle.stretches body)).Pairwise fun earlier later =>
    Toggle.halves calibration later.2 ≠ [] →
      ∀ last ∈ (transitions earlier.1 (Toggle.halves calibration earlier.2)).getLast?, last.1 ≤ later.1

/-- That a stretch is over in time is decided by its last transition. -/
private theorem all_le_iff {least start next : Float} (hleast : least.isFinite = true) (hstart : least ≤ start)
    {least' : Float} (hleast' : least'.isFinite = true) (hnext : least' ≤ next) {halves later : List Float}
    (hhalves : ∀ half ∈ halves, 0 ≤ half) (hlater : ∀ half ∈ later, 0 ≤ half) :
    (∀ x ∈ transitions start halves, ∀ y ∈ transitions next later, x.1 ≤ y.1) ↔
      (later ≠ [] → ∀ last ∈ (transitions start halves).getLast?, last.1 ≤ next) := by
  constructor
  · intro hall hne last hlast
    obtain ⟨half, rest, rfl⟩ := List.exists_cons_of_ne_nil hne
    exact hall last (List.mem_of_getLast? hlast) (next, 1) List.mem_cons_self
  · intro hlast x hx y hy
    have hne : later ≠ [] := by
      rintro rfl
      cases hy
    obtain ⟨init, last, hsplit⟩ : ∃ init last, transitions start halves = init ++ [last] := by
      refine ⟨_, _, (List.dropLast_append_getLast (List.ne_nil_of_mem hx)).symm⟩
    have hover : last.1 ≤ next := hlast hne last (by rw [hsplit]; simp)
    have hnext : next ≤ y.1 := start_le_transitions hleast' hnext hlater y hy
    have hordered := pairwise_transitions hleast hstart hhalves
    rw [hsplit] at hx hordered
    rcases List.mem_append.mp hx with hinit | hend
    · have hx : x.1 ≤ last.1 := (List.pairwise_append.mp hordered).2.2 x hinit last (by simp)
      exact Binary64.le_trans hx (Binary64.le_trans hover hnext)
    · obtain rfl := List.mem_singleton.mp hend
      exact Binary64.le_trans hover hnext

variable {calibration : Calibration} {edges : List Float}

/-- Stretches start at numbers, whichever of the edges are theirs. -/
private theorem exists_le_start (hvalid : calibration.validate = .ok ())
    (hfinite : ∀ edge ∈ edges, edge.isFinite = true) {body : List Toggle} {placed : Float × List Toggle}
    (hplaced : placed ∈ (edges.map (· + calibration.triggerDelay)).zip (Toggle.stretches body)) :
    ∃ least : Float, least.isFinite = true ∧ least ≤ placed.1 := by
  obtain ⟨edge, hedge, hstart⟩ := List.mem_map.mp (List.of_mem_zip hplaced).1
  have hself : edge ≤ edge := Binary64.le_self_of_isFinite (hfinite edge hedge)
  refine ⟨edge, hfinite edge hedge, ?_⟩
  rw [← hstart]
  exact Binary64.le_add_of_nonneg (hfinite edge hedge) hself (Calibration.triggerDelay_nonneg hvalid)

theorem pairwise_transitionsFrom_iff (hvalid : calibration.validate = .ok ())
    (hfinite : ∀ edge ∈ edges, edge.isFinite = true) (body : List Toggle) :
    (transitionsFrom calibration (edges.map (· + calibration.triggerDelay)) (Toggle.stretches body)).Pairwise
      (fun earlier later => earlier.1 ≤ later.1) ↔ KeepsUp calibration edges body := by
  have hhalves : ∀ (stretch : List Toggle), ∀ half ∈ Toggle.halves calibration stretch, 0 ≤ half :=
    fun _ _ hhalf => Toggle.halves_nonneg hvalid hhalf
  rw [transitionsFrom, List.pairwise_flatMap, and_iff_right, KeepsUp]
  · refine List.Pairwise.iff_of_mem fun {earlier later} hearlier hlater => ?_
    obtain ⟨least, hleast, hstart⟩ := exists_le_start hvalid hfinite hearlier
    obtain ⟨least', hleast', hnext⟩ := exists_le_start hvalid hfinite hlater
    exact all_le_iff hleast hstart hleast' hnext (hhalves earlier.2) (hhalves later.2)
  · intro placed hplaced
    obtain ⟨least, hleast, hstart⟩ := exists_le_start hvalid hfinite hplaced
    exact pairwise_transitions hleast hstart (hhalves placed.2)

/-- Transitions are between the levels 0 and 1. -/
theorem level_le_one {start : Float} {halves : List Float} {transition : Float × UInt8}
    (htransition : transition ∈ transitions start halves) : transition.2 ≤ 1 := by
  induction halves generalizing start with
  | nil => cases htransition
  | cons half halves ih =>
    rw [transitions, List.mem_cons, List.mem_cons] at htransition
    have hfall : (0 : UInt8) ≤ 1 := by decide
    rcases htransition with rfl | rfl | hlater
    · exact UInt8.le_refl 1
    · exact hfall
    · exact ih hlater

end Replay

namespace Program

open Replay (KeepsUp transitionsFrom)

variable {calibration : Calibration} {reference : ClockTrace} {program : Program Toggle} {replayed : Replayed UInt8}

/-- The trace of a triggered clock line never descends exactly if the program keeps up with its edges: no
stretch may start before an earlier one is over. It can then, and only then, be the reference of another
device. -/
theorem replayToggle_keepsUp_iff (hvalid : calibration.validate = .ok ())
    (hfinite : ∀ time ∈ reference.times, time.isFinite = true)
    (hreplay : program.replayToggle calibration (some reference.risingEdges) = .ok replayed) :
    (replayed.trace.times.Pairwise (· ≤ ·) ↔ KeepsUp calibration reference.risingEdges program.body) ∧
    ((∃ clock, ClockTrace.ofColumns replayed.trace.times replayed.trace.values = .ok clock) ↔
      KeepsUp calibration reference.risingEdges program.body) := by
  have hedges : ∀ edge ∈ reference.risingEdges, edge.isFinite = true :=
    fun edge hedge => hfinite edge (ClockTrace.mem_times_of_mem_risingEdges hedge)
  generalize reference.risingEdges = edges at hreplay hedges ⊢
  rw [replayToggle_of_edges hvalid] at hreplay
  split at hreplay
  · obtain rfl := Except.ok.inj hreplay
    simp only [Replay.outcome, Trace.times_ofSamples, Trace.values_ofSamples]
    generalize hsamples :
      transitionsFrom calibration (edges.map (· + calibration.triggerDelay)) (Toggle.stretches program.body) = samples
    have hordered : (samples.map (·.1)).Pairwise (· ≤ ·) ↔ KeepsUp calibration edges program.body := by
      rw [List.pairwise_map, ← hsamples]
      exact Replay.pairwise_transitionsFrom_iff hvalid hedges program.body
    have hsample : ∀ sample ∈ samples, sample.1 ≤ sample.1 ∧ sample.2 ≤ 1 := by
      intro sample hsample
      rw [← hsamples] at hsample
      obtain ⟨placed, hplaced, hmem⟩ := List.mem_flatMap.mp hsample
      obtain ⟨least, hleast, hstart⟩ := Replay.exists_le_start hvalid hedges hplaced
      have hle := Replay.start_le_transitions hleast hstart (fun _ hhalf => Toggle.halves_nonneg hvalid hhalf)
        sample hmem
      exact ⟨Binary64.le_self_of_le hle, Replay.level_le_one hmem⟩
    refine ⟨hordered, ?_⟩
    rw [ClockTrace.exists_ofColumns_iff, ← hordered, descends_eq_false_iff]
    · have hbinary : (samples.map (·.2)).all (· ≤ 1) = true := by
        simp only [List.all_map, List.all_eq_true, Function.comp_apply, decide_eq_true_eq]
        exact fun sample hmem => (hsample sample hmem).2
      simp only [List.length_map, hbinary, true_and]
    · intro time htime
      obtain ⟨sample, hmem, rfl⟩ := List.mem_map.mp htime
      exact (hsample sample hmem).1
  · cases hreplay

/-- The two cycles are four seconds long, and there is time for them. -/
theorem replayToggle_keepsUp_iff_apart :
    ∃ (reference : ClockTrace) (replayed : Replayed UInt8), reference.times = [0, 1, 5] ∧
      (⟨1, 0, 0⟩ : Calibration).validate = .ok () ∧ (∀ time ∈ reference.times, time.isFinite = true) ∧
      (Program.ofBody [⟨4, 1⟩, Toggle.wait, ⟨4, 1⟩]).replayToggle ⟨1, 0, 0⟩ (some reference.risingEdges) =
        .ok replayed ∧
      replayed.trace.times = [0, 2, 5, 7] ∧
      KeepsUp ⟨1, 0, 0⟩ reference.risingEdges (Program.ofBody [⟨4, 1⟩, Toggle.wait, ⟨4, 1⟩]).body := by
  let reference : ClockTrace := ⟨[0, 1, 5], [1, 0, 1], rfl, rfl, rfl⟩
  have hvalid : (⟨1, 0, 0⟩ : Calibration).validate = .ok () := rfl
  have hfinite : ∀ time ∈ reference.times, time.isFinite = true := by decide +kernel
  have hreplay : (Program.ofBody [⟨4, 1⟩, Toggle.wait, ⟨4, 1⟩]).replayToggle ⟨1, 0, 0⟩ (some reference.risingEdges) =
      .ok ⟨⟨[0, 2, 5, 7], [1, 0, 1, 0]⟩, ⟨3, 4, some ⟨2, []⟩⟩⟩ := by decide +kernel
  have hordered : ([0, 2, 5, 7] : List Float).Pairwise (· ≤ ·) := by decide +kernel
  exact ⟨reference, _, rfl, hvalid, hfinite, hreplay, rfl,
    (replayToggle_keepsUp_iff hvalid hfinite hreplay).1.mp hordered⟩

/-- The second edge comes while the first cycle is still running. The second cycle begins then, and the trace
goes back in time. -/
theorem replayToggle_overrun :
    ∃ (calibration : Calibration) (reference : ClockTrace) (program : Program Toggle) (replayed : Replayed UInt8),
      calibration.validate = .ok () ∧ (∀ time ∈ reference.times, time.isFinite = true) ∧
      program.replayToggle calibration (some reference.risingEdges) = .ok replayed ∧
      ¬ replayed.trace.times.Pairwise (· ≤ ·) ∧
      ClockTrace.ofColumns replayed.trace.times replayed.trace.values = .error (.invalidTrace .unordered) := by
  let reference : ClockTrace := ⟨[0, 0.5, 1], [1, 0, 1], rfl, rfl, rfl⟩
  have hfinite : ∀ time ∈ reference.times, time.isFinite = true := by decide +kernel
  have hreplay : (Program.ofBody [⟨4, 1⟩, Toggle.wait, ⟨4, 1⟩]).replayToggle ⟨1, 0, 0⟩ (some reference.risingEdges) =
      .ok ⟨⟨[0, 2, 1, 3], [1, 0, 1, 0]⟩, ⟨3, 4, some ⟨2, []⟩⟩⟩ := by decide +kernel
  have hdescends : ¬ ([0, 2, 1, 3] : List Float).Pairwise (· ≤ ·) := by decide +kernel
  exact ⟨⟨1, 0, 0⟩, reference, _, _, rfl, hfinite, hreplay, hdescends, rfl⟩

end Program

end Pseudoclock
