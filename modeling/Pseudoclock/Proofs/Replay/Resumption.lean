import Mathlib
import Pseudoclock.Proofs.Replay.Beats
import Pseudoclock.Proofs.Timeline.Stretch

/-!
At which clocks the stretches of a clock line start. A self-timed device chains them, and a triggered
one starts each at an edge, as long as there are edges.
-/

namespace Pseudoclock.Replay

/-- The clocks at which stretches start when the one before them is over at `finish`, and the edges that
are left then. -/
def resumeAll (calibration : Calibration) (position : Float → Float → Int) :
    Option EdgeReader → Float → List (Float × Stretch) → Except Error (List Float × Option EdgeReader)
  | edges, _, [] => .ok ([], edges)
  | edges, finish, (origin, stretch) :: rest => do
    let (start, edges) ← resume calibration edges finish
    let (starts, edges) ← resumeAll calibration position edges
      (stretch.finish (position origin) calibration.halfTick start) rest
    return (start :: starts, edges)

/-- Without edges, every stretch starts a wait delay after the one before it. -/
theorem resumeAll_none (calibration : Calibration) (position : Float → Float → Int) (start origin : Float) (stretch : Stretch)
    (stretches : List (Float × Stretch)) :
    ∃ starts, resumeAll calibration position none
        (stretch.finish (position origin) calibration.halfTick start) stretches = .ok (starts, none) ∧
      start :: starts = chainedStarts position calibration.halfTick calibration.waitDelay start
        ((origin, stretch) :: stretches) := by
  induction stretches generalizing start origin stretch with
  | nil => exact ⟨[], rfl, rfl⟩
  | cons next stretches ih =>
    obtain ⟨nextOrigin, next⟩ := next
    obtain ⟨starts, hstarts, hchained⟩ := ih
      (stretch.finish (position origin) calibration.halfTick start + calibration.waitDelay) nextOrigin next
    refine ⟨_ :: starts, ?_, by rw [hchained]; rfl⟩
    rw [resumeAll]
    change (resumeAll calibration position none _ stretches >>= _) = _
    rw [hstarts]
    rfl

/-- With enough edges, every stretch starts a trigger delay after an edge of its own. -/
theorem resumeAll_some (calibration : Calibration) (position : Float → Float → Int) (finish : Float)
    (stretches : List (Float × Stretch)) (used : Nat) (pending : List Float) :
    resumeAll calibration position (some ⟨used, pending⟩) finish stretches =
      if stretches.length ≤ pending.length then
        .ok ((pending.take stretches.length).map (· + calibration.triggerDelay),
          some ⟨used + stretches.length, pending.drop stretches.length⟩)
      else .error (.triggerExhausted (used + pending.length + 1) (used + pending.length)) := by
  induction stretches generalizing finish used pending with
  | nil => simp [resumeAll]
  | cons placed stretches ih =>
    obtain ⟨origin, stretch⟩ := placed
    cases pending with
    | nil => rfl
    | cons edge pending =>
      have hnext : resume calibration (some ⟨used, edge :: pending⟩) finish =
          .ok (edge + calibration.triggerDelay, some ⟨used + 1, pending⟩) := rfl
      rw [resumeAll, hnext]
      change (resumeAll calibration position (some ⟨used + 1, pending⟩) _ stretches >>= _) = _
      rw [ih]
      by_cases hlength : stretches.length ≤ pending.length
      · simp [hlength, bind, Except.bind, pure, Except.pure, Nat.add_comm, Nat.add_left_comm]
      · simp [hlength, bind, Except.bind, Nat.add_comm, Nat.add_left_comm]

end Pseudoclock.Replay
