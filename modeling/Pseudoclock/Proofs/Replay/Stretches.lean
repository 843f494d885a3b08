import Mathlib
import Pseudoclock.Proofs.Replay.Beats
import Pseudoclock.Proofs.Timeline.Stretch

/-!
Toggle programs as stretches of cycles with runs of waits between them. What a stretch shows depends on the
clock at its start and on nothing else, and the runs of waits decide what that clock is.
-/

namespace Pseudoclock

namespace Toggle

/-- The first stretch of some instructions, and the stretches behind their runs of waits. `isWaiting` says
whether a wait stands in front of them; waits that continue its run are skipped. -/
def stretchesAfter : Bool → List Toggle → List Toggle × List (List Toggle)
  | _, [] => ([], [])
  | isWaiting, instruction :: rest =>
    if isWait instruction then
      let (first, others) := stretchesAfter true rest
      if isWaiting then (first, others) else ([], first :: others)
    else
      let (first, others) := stretchesAfter false rest
      (instruction :: first, others)

/-- The stretches of a program body. The first one comes before any wait and may be empty. -/
def stretches (body : List Toggle) : List (List Toggle) :=
  (stretchesAfter false body).1 :: (stretchesAfter false body).2

/-- For how long each cycle of some instructions is high and then low. -/
def halves (calibration : Calibration) (stretch : List Toggle) : List Float :=
  stretch.flatMap fun instruction =>
    List.replicate instruction.reps.toNat (instruction.period.toFloat * calibration.halfTick)

@[simp] theorem halves_nil (calibration : Calibration) : halves calibration [] = [] := rfl

theorem halves_cons (calibration : Calibration) (instruction : Toggle) (stretch : List Toggle) :
    halves calibration (instruction :: stretch) =
      List.replicate instruction.reps.toNat (instruction.period.toFloat * calibration.halfTick) ++
        halves calibration stretch := rfl

@[simp] theorem stretchesAfter_nil (isWaiting : Bool) : stretchesAfter isWaiting [] = ([], []) := rfl

theorem stretchesAfter_wait {instruction : Toggle} (hwait : isWait instruction = true) (rest : List Toggle) :
    stretchesAfter false (instruction :: rest) =
      ([], (stretchesAfter true rest).1 :: (stretchesAfter true rest).2) := by
  rw [stretchesAfter, if_pos hwait]
  rfl

theorem stretchesAfter_wait_of_isWaiting {instruction : Toggle} (hwait : isWait instruction = true)
    (rest : List Toggle) : stretchesAfter true (instruction :: rest) = stretchesAfter true rest := by
  rw [stretchesAfter, if_pos hwait]
  rfl

theorem stretchesAfter_cycles {instruction : Toggle} (hcycles : isWait instruction = false) (isWaiting : Bool)
    (rest : List Toggle) : stretchesAfter isWaiting (instruction :: rest) =
      (instruction :: (stretchesAfter false rest).1, (stretchesAfter false rest).2) := by
  rw [stretchesAfter, hcycles]
  rfl

/-- There is one stretch more than there are runs of waits. -/
theorem length_stretchesAfter (isWaiting : Bool) (body : List Toggle) :
    (stretchesAfter isWaiting body).2.length = runsAfter isWait isWaiting body := by
  induction body generalizing isWaiting with
  | nil => rfl
  | cons instruction rest ih =>
    cases hwait : isWait instruction with
    | false => simp [stretchesAfter_cycles hwait, runsAfter, hwait, ih]
    | true =>
      cases isWaiting with
      | false => simp [stretchesAfter_wait hwait, runsAfter, hwait, ih, Nat.add_comm]
      | true => simp [stretchesAfter_wait_of_isWaiting hwait, runsAfter, hwait, ih]

theorem length_stretches (body : List Toggle) : (stretches body).length = runs isWait body + 1 := by
  rw [stretches, List.length_cons, length_stretchesAfter, runs]

end Toggle

namespace Replay

/-- The transitions of cycles that begin at `start`, each high and then low for its duration. -/
def transitions : Float → List Float → List (Float × UInt8)
  | _, [] => []
  | start, half :: rest => (start, 1) :: (start + half, 0) :: transitions (start + half + half) rest

/-- The clock behind cycles that begin at `start`. -/
def clockBehind (start : Float) (halves : List Float) : Float :=
  halves.foldl (fun clock half => clock + half + half) start

@[simp] theorem clockBehind_append (start : Float) (halves more : List Float) :
    clockBehind start (halves ++ more) = clockBehind (clockBehind start halves) more :=
  List.foldl_append

@[simp] theorem transitions_append (start : Float) (halves more : List Float) :
    transitions start (halves ++ more) = transitions start halves ++ transitions (clockBehind start halves) more := by
  induction halves generalizing start with
  | nil => rfl
  | cons half halves ih =>
    rw [List.cons_append, transitions, transitions, ih]
    rfl

/-- The transitions of stretches that start at these clocks. -/
def transitionsFrom (calibration : Calibration) (starts : List Float) (stretches : List (List Toggle)) :
    List (Float × UInt8) :=
  (starts.zip stretches).flatMap fun (start, stretch) => transitions start (Toggle.halves calibration stretch)

theorem transitionsFrom_cons (calibration : Calibration) (start : Float) (starts : List Float)
    (stretch : List Toggle) (stretches : List (List Toggle)) :
    transitionsFrom calibration (start :: starts) (stretch :: stretches) =
      transitions start (Toggle.halves calibration stretch) ++ transitionsFrom calibration starts stretches := rfl

/-- Starts that no stretch is left for have no influence. -/
theorem transitionsFrom_take (calibration : Calibration) (starts : List Float) (stretches : List (List Toggle)) :
    transitionsFrom calibration (starts.take stretches.length) stretches =
      transitionsFrom calibration starts stretches := by
  induction stretches generalizing starts with
  | nil => simp [transitionsFrom]
  | cons stretch stretches ih =>
    cases starts with
    | nil => rfl
    | cons start starts => rw [List.length_cons, List.take_succ_cons, transitionsFrom_cons, transitionsFrom_cons, ih]

/-- What a replay shows of a stretch that starts at `start` and of those behind it, and the edges that it
leaves. -/
def playback (calibration : Calibration) (edges : Option EdgeReader) (start : Float) (stretch : List Toggle) :
    List (List Toggle) → Except Error (List (Float × UInt8) × Option EdgeReader)
  | [] => .ok (transitions start (Toggle.halves calibration stretch), edges)
  | next :: others => do
    let halves := Toggle.halves calibration stretch
    let (clock, edges) ← resume calibration edges (clockBehind start halves)
    let (later, edges) ← playback calibration edges clock next others
    return (transitions start halves ++ later, edges)

variable {calibration : Calibration} {replay : Replay UInt8}

/-- Cycles move the clock and are recorded, and change nothing else. -/
theorem cycles_eq (half : Float) (reps : Nat) (replay : Replay UInt8) :
    cycles half reps replay = { replay with
      clock := clockBehind replay.clock (List.replicate reps half)
      recorded := (transitions replay.clock (List.replicate reps half)).reverse ++ replay.recorded } := by
  induction reps generalizing replay with
  | zero => rfl
  | succ reps ih =>
    rw [cycles, ih]
    simp [List.replicate_succ, transitions, clockBehind]

/-- Before its first instruction a stretch shows nothing, and the wait behind it leads to the next one. -/
private theorem playback_nil (edges : Option EdgeReader) (start : Float) (next : List Toggle)
    (others : List (List Toggle)) :
    playback calibration edges start [] (next :: others) =
      (resume calibration edges start).bind fun resumed =>
        playback calibration resumed.2 resumed.1 next others := by
  rw [playback]
  change (resume calibration edges start >>= _) = _
  cases resume calibration edges start with
  | error error => rfl
  | ok resumed =>
    simp only [bind, Except.bind]
    cases playback calibration resumed.2 resumed.1 next others <;> rfl

/-- The cycles of an instruction in front are shown, and those behind it as they would be from their end on. -/
private theorem playback_cons (edges : Option EdgeReader) (start : Float) (instruction : Toggle)
    (stretch : List Toggle) (others : List (List Toggle)) :
    let halves := List.replicate instruction.reps.toNat (instruction.period.toFloat * calibration.halfTick)
    playback calibration edges start (instruction :: stretch) others =
      (playback calibration edges (clockBehind start halves) stretch others).map fun later =>
        (transitions start halves ++ later.1, later.2) := by
  intro halves
  cases others with
  | nil => simp [playback, Toggle.halves_cons, halves, Except.map]
  | cons next others =>
    simp only [playback, Toggle.halves_cons, clockBehind_append, transitions_append, List.append_assoc]
    cases resume calibration edges (clockBehind (clockBehind start halves) (Toggle.halves calibration stretch)) with
    | error error => rfl
    | ok resumed =>
      simp only [bind, Except.bind]
      cases playback calibration resumed.2 resumed.1 next others <;> rfl

/-- Instructions are replayed as their stretches are. -/
theorem progress_foldlM_stepToggle (body : List Toggle) (replay : Replay UInt8) :
    (body.foldlM (stepToggle calibration) replay).map progress =
      (playback calibration replay.edges replay.clock (Toggle.stretchesAfter replay.isWaiting body).1
        (Toggle.stretchesAfter replay.isWaiting body).2).map fun later =>
          (replay.recorded.reverse ++ later.1, later.2) := by
  induction body generalizing replay with
  | nil => simp [playback, transitions, progress, Except.map, pure, Except.pure]
  | cons instruction rest ih =>
    rw [List.foldlM_cons]
    cases hwait : isWait instruction with
    | true =>
      rw [stepToggle_of_isWait hwait]
      cases hreplay : replay.isWaiting with
      | true =>
        have hrest := ih replay
        rw [hreplay] at hrest
        rw [stepBeat_wait_of_isWaiting hreplay, Toggle.stretchesAfter_wait_of_isWaiting hwait]
        exact hrest
      | false =>
        rw [stepBeat_wait hreplay, Toggle.stretchesAfter_wait hwait, playback_nil]
        cases resume calibration replay.edges replay.clock with
        | error error => rfl
        | ok resumed => exact ih _
    | false =>
      rw [stepToggle_of_cycles hwait, Toggle.stretchesAfter_cycles hwait, playback_cons, cycles_eq]
      change (rest.foldlM (stepToggle calibration) _).map progress = _
      rw [ih]
      simp only [List.reverse_append, List.reverse_reverse, List.append_assoc]
      cases playback calibration replay.edges _ _ _ <;> rfl

/-- With enough edges, every stretch behind a run of waits starts a trigger delay after an edge of its own. -/
theorem playback_some (start : Float) (stretch : List Toggle) (others : List (List Toggle)) (used : Nat)
    (pending : List Float) :
    playback calibration (some ⟨used, pending⟩) start stretch others =
      if others.length ≤ pending.length then
        .ok (transitionsFrom calibration (start :: pending.map (· + calibration.triggerDelay)) (stretch :: others),
          some ⟨used + others.length, pending.drop others.length⟩)
      else .error (.triggerExhausted (used + pending.length + 1) (used + pending.length)) := by
  induction others generalizing start stretch used pending with
  | nil => simp [playback, transitionsFrom]
  | cons next others ih =>
    cases pending with
    | nil => rfl
    | cons edge pending =>
      have hnext : ∀ finish, resume calibration (some ⟨used, edge :: pending⟩) finish =
          .ok (edge + calibration.triggerDelay, some ⟨used + 1, pending⟩) := fun _ => rfl
      simp only [playback, hnext]
      change (playback calibration (some ⟨used + 1, pending⟩) _ next others >>= _) = _
      rw [ih]
      by_cases hlength : others.length ≤ pending.length
      · simp [hlength, transitionsFrom, bind, Except.bind, pure, Except.pure, Nat.add_comm, Nat.add_left_comm]
      · simp [hlength, bind, Except.bind, Nat.add_comm, Nat.add_left_comm]

/-- What a replay of a body of this length ends with, told by its progress. -/
def outcome (bodyLength : Nat) (progress : List (Float × UInt8) × Option EdgeReader) : Replayed UInt8 where
  trace := Trace.ofSamples progress.1
  usage := ⟨bodyLength, progress.1.length, progress.2⟩

private theorem finish_eq_outcome (replay : Replay UInt8) (bodyLength : Nat) :
    replay.finish bodyLength = outcome bodyLength replay.progress := by
  simp [finish, outcome, progress]

/-- A program is replayed as its stretches are, from where the device starts. -/
theorem replayToggle_eq_playback (hvalid : calibration.validate = .ok ()) (program : Program Toggle)
    {triggers : Option (List Float)} {clock : Float} {edges : Option EdgeReader}
    (hstart : startToggle calibration triggers = .ok ⟨clock, edges, false, []⟩) :
    program.replayToggle calibration triggers =
      (playback calibration edges clock (Toggle.stretchesAfter false program.body).1
        (Toggle.stretchesAfter false program.body).2).map (outcome program.body.length) := by
  have hprogress : (program.body.foldlM (stepToggle calibration) ⟨clock, edges, false, []⟩).map progress =
      playback calibration edges clock (Toggle.stretchesAfter false program.body).1
        (Toggle.stretchesAfter false program.body).2 := by
    rw [progress_foldlM_stepToggle]
    cases playback calibration edges clock _ _ <;> rfl
  rw [Program.replayToggle, hvalid, ← hprogress]
  change (startToggle calibration triggers >>= _) = _
  rw [hstart]
  change (program.body.foldlM (stepToggle calibration) ⟨clock, edges, false, []⟩ >>= _) = _
  cases program.body.foldlM (stepToggle calibration) ⟨clock, edges, false, []⟩ with
  | error error => rfl
  | ok replay => exact congrArg Except.ok (finish_eq_outcome replay _)

end Replay

end Pseudoclock
