import Mathlib
import Pseudoclock.Timeline
import Pseudoclock.Proofs.Binary64.Order
import Pseudoclock.Proofs.Timeline.Acceptance

/-!
Which times of a timeline are accepted: finite ones, none of which is before an earlier one. The check
only compares neighbours.
-/

namespace Pseudoclock.Timeline

/-- Times that are finite and never descend. -/
structure IsChronological (timeline : Timeline) : Prop where
  isFinite : ∀ event ∈ timeline, event.time.isFinite = true
  sorted : timeline.Pairwise fun earlier later => earlier.time ≤ later.time

theorem IsChronological.tail {event : Event} {rest : Timeline} (hchronological : IsChronological (event :: rest)) :
    rest.IsChronological :=
  ⟨fun later hlater => hchronological.isFinite later (List.mem_cons_of_mem event hlater), hchronological.sorted.of_cons⟩

private theorem firstDescent?_eq_none_iff (timeline : Timeline) :
    timeline.firstDescent? = none ↔ timeline.IsChain fun earlier later => ¬ later.time < earlier.time := by
  induction timeline with
  | nil => simp [firstDescent?]
  | cons earlier rest ih =>
    cases rest with
    | nil => simp [firstDescent?]
    | cons later rest =>
      by_cases hdescent : later.time < earlier.time <;> simp [firstDescent?, hdescent, ih]

/-- Finite times descend nowhere exactly if no two neighbours do. -/
theorem pairwise_le_iff {timeline : Timeline} (hfinite : ∀ event ∈ timeline, event.time.isFinite = true) :
    timeline.Pairwise (fun earlier later => earlier.time ≤ later.time) ↔ timeline.firstDescent? = none := by
  have hnumbers : ∀ event ∈ timeline, event.time ≤ event.time :=
    fun event hevent => Binary64.le_self_of_isFinite (hfinite event hevent)
  rw [firstDescent?_eq_none_iff, Binary64.isChain_not_lt_iff Event.time hnumbers]

/-- Chronological timelines pass the check of times, and others are refused as invalid. -/
theorem decides_checkTimes (timeline : Timeline) :
    Decides timeline.checkTimes timeline.IsChronological fun _ => True := by
  rw [checkTimes]
  cases hfind : timeline.find? fun event => !event.time.isFinite with
  | some event =>
    refine .refuse (fun hchronological => ?_) _
    have hinfinite := List.find?_some hfind
    simp [hchronological.isFinite event (List.mem_of_find?_eq_some hfind)] at hinfinite
  | none =>
    have hfinite : ∀ event ∈ timeline, event.time.isFinite = true := by simpa using hfind
    cases hdescent : timeline.firstDescent? with
    | none => exact .accept ⟨hfinite, (pairwise_le_iff hfinite).mpr hdescent⟩ trivial
    | some pair =>
      refine .refuse (fun hchronological => ?_) _
      rw [(pairwise_le_iff hfinite).mp hchronological.sorted] at hdescent
      cases hdescent

end Pseudoclock.Timeline
