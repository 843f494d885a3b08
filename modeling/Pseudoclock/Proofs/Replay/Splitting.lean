import Mathlib
import Pseudoclock.Proofs.Replay.Triggers

/-!
Triggered replays split at every wait. The stretches in front of it and those behind it are shown as by two
programs of their own, of which the second one begins with the edges that the first one leaves.
-/

namespace Pseudoclock

namespace Toggle

/-- Waits that follow another wait have no influence on the stretches. -/
theorem stretchesAfter_true (body : List Toggle) :
    stretchesAfter true body = stretchesAfter false (body.dropWhile isWait) := by
  induction body with
  | nil => rfl
  | cons instruction rest ih =>
    cases hwait : isWait instruction with
    | true => rw [stretchesAfter_wait_of_isWaiting hwait, List.dropWhile_cons_of_pos hwait, ih]
    | false =>
      have hkept : ¬ isWait instruction = true := by simp [hwait]
      rw [List.dropWhile_cons_of_neg hkept, stretchesAfter_cycles hwait, stretchesAfter_cycles hwait]

private theorem stretchesAfter_append {wait : Toggle} (hwait : isWait wait = true) (after : List Toggle)
    {before : List Toggle} (hlast : ∀ last ∈ before.getLast?, isWait last = false) (isWaiting : Bool)
    (hfirst : before = [] → isWaiting = false) :
    stretchesAfter isWaiting (before ++ wait :: after) = ((stretchesAfter isWaiting before).1,
      (stretchesAfter isWaiting before).2 ++ stretches (after.dropWhile isWait)) := by
  induction before generalizing isWaiting with
  | nil =>
    obtain rfl := hfirst rfl
    rw [List.nil_append, stretchesAfter_wait hwait, stretchesAfter_true]
    rfl
  | cons instruction before ih =>
    have hlater : ∀ last ∈ before.getLast?, isWait last = false :=
      fun last hmem => hlast last (List.mem_getLast?_cons hmem)
    rw [List.cons_append]
    cases hinstruction : isWait instruction with
    | false =>
      have hrest := ih hlater false fun _ => rfl
      rw [stretchesAfter_cycles hinstruction, stretchesAfter_cycles hinstruction, hrest]
    | true =>
      -- A wait is not the last instruction in front, so that something comes between the two waits.
      have hne : before ≠ [] := by
        rintro rfl
        have hcontrary := hlast instruction rfl
        rw [hinstruction] at hcontrary
        cases hcontrary
      have hrest := ih hlater true fun hnil => absurd hnil hne
      cases isWaiting with
      | false =>
        rw [stretchesAfter_wait hinstruction, stretchesAfter_wait hinstruction, hrest]
        rfl
      | true =>
        rw [stretchesAfter_wait_of_isWaiting hinstruction, stretchesAfter_wait_of_isWaiting hinstruction, hrest]

/-- A wait parts the stretches of the instructions in front of it from those behind it, where its run goes on. -/
theorem stretches_append {wait : Toggle} (hwait : isWait wait = true) (after : List Toggle)
    {before : List Toggle} (hlast : ∀ last ∈ before.getLast?, isWait last = false) :
    stretches (before ++ wait :: after) = stretches before ++ stretches (after.dropWhile isWait) := by
  rw [stretches, stretchesAfter_append hwait after hlast false fun _ => rfl]
  rfl

/-- The run of a wait is one more than those in front of it and behind it. -/
theorem runs_append {wait : Toggle} (hwait : isWait wait = true) (after : List Toggle) {before : List Toggle}
    (hlast : ∀ last ∈ before.getLast?, isWait last = false) :
    runs isWait (before ++ wait :: after) = runs isWait before + 1 + runs isWait (after.dropWhile isWait) := by
  have hlength := congrArg List.length (stretches_append hwait after hlast)
  rw [List.length_append, length_stretches, length_stretches, length_stretches] at hlength
  omega

end Toggle

namespace Replay

/-- Stretches take as many starts as there are, and leave the others to the stretches behind them. -/
theorem transitionsFrom_append (calibration : Calibration) (starts : List Float) (stretches others : List (List Toggle)) :
    transitionsFrom calibration starts (stretches ++ others) =
      transitionsFrom calibration starts stretches ++
        transitionsFrom calibration (starts.drop stretches.length) others := by
  induction stretches generalizing starts with
  | nil => simp [transitionsFrom]
  | cons stretch stretches ih =>
    cases starts with
    | nil => simp [transitionsFrom]
    | cons start starts =>
      rw [List.cons_append, transitionsFrom_cons, transitionsFrom_cons, ih, List.append_assoc, List.length_cons,
        List.drop_succ_cons]

end Replay

namespace Program

open Replay (outcome transitionsFrom)

variable {calibration : Calibration}

/-- A triggered replay splits at every wait. It succeeds exactly if those of the instructions in front of the wait,
with the edges that they need, and of the instructions behind its run, with all other edges, do. What is shown is
then one trace after the other, so that what comes behind a wait depends on what comes before it in nothing but
the number of edges that are left. -/
theorem replayToggle_splits (hvalid : calibration.validate = .ok ()) {before after : List Toggle} {wait : Toggle}
    (hlast : ∀ last ∈ before.getLast?, isWait last = false) (hwait : isWait wait = true)
    {program first second : Program Toggle} (hbody : program.body = before ++ wait :: after)
    (hfirst : first.body = before) (hsecond : second.body = after.dropWhile isWait) (triggers : List Float) :
    let early := triggers.take (1 + runs isWait before)
    let late := triggers.drop (1 + runs isWait before)
    ((∃ replayed, program.replayToggle calibration (some triggers) = .ok replayed) ↔
      (∃ replayed, first.replayToggle calibration (some early) = .ok replayed) ∧
        ∃ replayed, second.replayToggle calibration (some late) = .ok replayed) ∧
    ∀ replayed sooner later, program.replayToggle calibration (some triggers) = .ok replayed →
      first.replayToggle calibration (some early) = .ok sooner →
      second.replayToggle calibration (some late) = .ok later →
      replayed.trace.times = sooner.trace.times ++ later.trace.times ∧
        replayed.trace.values = sooner.trace.values ++ later.trace.values := by
  intro early late
  have hneeded : program.edgesNeeded = first.edgesNeeded + second.edgesNeeded := by
    rw [edgesNeeded, edgesNeeded, edgesNeeded, hbody, hfirst, hsecond, Toggle.runs_append hwait after hlast]
    omega
  have hearly : early = triggers.take first.edgesNeeded := by
    rw [edgesNeeded, hfirst, Nat.add_comm]
  have hlate : late = triggers.drop first.edgesNeeded := by
    rw [edgesNeeded, hfirst, Nat.add_comm]
  have hstretches : Toggle.stretches program.body = Toggle.stretches first.body ++ Toggle.stretches second.body := by
    rw [hbody, hfirst, hsecond, Toggle.stretches_append hwait after hlast]
  have hlength : (Toggle.stretches first.body).length = first.edgesNeeded := Toggle.length_stretches first.body
  simp only [replayToggle_eq_ok_iff hvalid, hearly, hlate, List.length_take, List.length_drop]
  constructor
  · simp only [exists_and_left, exists_eq', and_true]
    omega
  · rintro _ _ _ ⟨_, rfl⟩ ⟨_, rfl⟩ ⟨_, rfl⟩
    have hshown : transitionsFrom calibration (triggers.map (· + calibration.triggerDelay))
          (Toggle.stretches program.body) =
        transitionsFrom calibration ((triggers.take first.edgesNeeded).map (· + calibration.triggerDelay))
            (Toggle.stretches first.body) ++
          transitionsFrom calibration ((triggers.drop first.edgesNeeded).map (· + calibration.triggerDelay))
            (Toggle.stretches second.body) := by
      rw [hstretches, Replay.transitionsFrom_append, hlength, List.map_take, List.map_drop, ← hlength,
        Replay.transitionsFrom_take]
    simp only [outcome, Trace.times_ofSamples, Trace.values_ofSamples, hshown, List.map_append, and_self]

/-- The second wait is followed by another one, which goes on with its run, and the first one by an instruction
without any cycles. The cycle at the end takes its edge from behind those of the three instructions in front. -/
theorem replayToggle_splits_waits :
    let calibration : Calibration := ⟨1, 0.5, 3⟩
    let before : List Toggle := [⟨2, 1⟩, Toggle.wait, ⟨6, 0⟩]
    let program : Program Toggle := Program.ofBody (before ++ Toggle.wait :: [⟨0, 7⟩, ⟨3, 1⟩])
    calibration.validate = .ok () ∧ (∀ last ∈ before.getLast?, isWait last = false) ∧ isWait Toggle.wait = true ∧
    (∃ replayed, program.replayToggle calibration (some [1, 5, 9]) = .ok replayed ∧
      replayed.trace.times = [1.5, 2.5] ++ [9.5, 11] ∧ replayed.trace.values = [1, 0] ++ [1, 0]) ∧
    ¬ ∃ replayed, program.replayToggle calibration (some [1, 5]) = .ok replayed := by
  intro calibration before program
  have hvalid : calibration.validate = .ok () := by decide +kernel
  have hlast : ∀ last ∈ before.getLast?, isWait last = false := by
    rintro _ ⟨⟩
    rfl
  have hfirst : (Program.ofBody before).replayToggle calibration (some [1, 5]) =
      .ok ⟨⟨[1.5, 2.5], [1, 0]⟩, ⟨3, 2, some ⟨2, []⟩⟩⟩ := by decide +kernel
  have hsecond : (Program.ofBody [⟨3, 1⟩]).replayToggle calibration (some [9]) =
      .ok ⟨⟨[9.5, 11], [1, 0]⟩, ⟨1, 2, some ⟨1, []⟩⟩⟩ := by decide +kernel
  have hwait : isWait Toggle.wait = true := rfl
  have hsplits := replayToggle_splits hvalid hlast hwait (body_ofBody _) (body_ofBody before)
    (body_ofBody (List.dropWhile isWait [⟨0, 7⟩, ⟨3, 1⟩]))
  obtain ⟨replayed, hreplay⟩ := (hsplits [1, 5, 9]).1.mpr ⟨⟨_, hfirst⟩, ⟨_, hsecond⟩⟩
  refine ⟨hvalid, hlast, hwait, ⟨replayed, hreplay, (hsplits [1, 5, 9]).2 _ _ _ hreplay hfirst hsecond⟩, fun hfew => ?_⟩
  have hempty : (Program.ofBody [⟨3, 1⟩]).replayToggle calibration (some []) = .error (.triggerExhausted 1 0) := by
    decide +kernel
  obtain ⟨_, later, hlater⟩ := (hsplits [1, 5]).1.mp hfew
  cases hempty.symm.trans hlater

end Program

end Pseudoclock
