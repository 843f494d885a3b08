import Mathlib
import Pseudoclock.Proofs.Trace.Edges

/-!
How far the times of a clock trace are in order. Only neighbours are compared, and what is not a number is before
nothing and behind nothing. Order is kept from each time to a later one if all times from the one to the other are
numbers, and it is not looked at across a time that is none.
-/

namespace Pseudoclock

/-- All samples from one to another have times that are numbers. -/
def HasNumbers (times : List Float) (first last : Nat) : Prop :=
  ∀ index, first ≤ index → index ≤ last → ∀ time ∈ times[index]?, time.isNaN = false

def InOrder (times : List Float) (first last : Nat) : Prop :=
  ∀ earlier ∈ times[first]?, ∀ later ∈ times[last]?, earlier ≤ later

private theorem le_of_hasNumbers {times : List Float} (hordered : descends times = false) {first last : Nat}
    (hle : first ≤ last) (hnumbers : HasNumbers times first last) (hlast : last < times.length) :
    times[first] ≤ times[last] := by
  have hchain := List.isChain_iff_getElem.mp ((descends_eq_false_iff_isChain times).mp hordered)
  have hself : ∀ index (hindex : index < times.length), first ≤ index → index ≤ last →
      times[index] ≤ times[index] := fun index hindex hfirst hlast =>
    Binary64.le_self_iff.mpr (hnumbers index hfirst hlast _ (List.getElem?_eq_getElem hindex))
  induction last, hle using Nat.le_induction with
  | base => exact hself first hlast le_rfl le_rfl
  | succ last hle ih =>
    have hbefore : times[first] ≤ times[last] :=
      ih (fun index hfirst hlast => hnumbers index hfirst (by omega)) (by omega)
        fun index hindex hfirst hlast => hself index hindex hfirst (by omega)
    have hnext : times[last] ≤ times[last + 1] :=
      (Binary64.not_lt_iff_of_le_self (hself last (by omega) hle (by omega))
        (hself (last + 1) hlast (by omega) le_rfl)).mp (hchain last hlast)
    exact Binary64.le_trans hbefore hnext

/-- Times do not descend exactly if all of them are in order that have only numbers from the one to the other. -/
theorem descends_eq_false_iff_inOrder {times : List Float} :
    descends times = false ↔ ∀ first last, first < last → HasNumbers times first last → InOrder times first last := by
  constructor
  · intro hordered first last hlt hnumbers earlier hearlier later hlater
    obtain ⟨hlast, rfl⟩ := List.getElem?_eq_some_iff.mp hlater
    obtain ⟨_, rfl⟩ := List.getElem?_eq_some_iff.mp hearlier
    exact le_of_hasNumbers hordered hlt.le hnumbers hlast
  · intro hinOrder
    refine (descends_eq_false_iff_isChain times).mpr (List.isChain_iff_getElem.mpr fun index hindex hless => ?_)
    -- What is before something is a number, and so is what it is before.
    obtain ⟨_, _, hlater, hearlier, _⟩ := Binary64.lt_iff.mp hless
    have hlater := Binary64.le_iff.mpr ⟨_, _, hlater, hlater, le_rfl⟩
    have hearlier := Binary64.le_iff.mpr ⟨_, _, hearlier, hearlier, le_rfl⟩
    have hnumbers : HasNumbers times index (index + 1) := by
      intro middle hfirst hlast time htime
      obtain ⟨_, rfl⟩ := List.getElem?_eq_some_iff.mp htime
      rcases (by omega : middle = index ∨ middle = index + 1) with rfl | rfl
      · exact Binary64.le_self_iff.mp hearlier
      · exact Binary64.le_self_iff.mp hlater
    have hle : times[index] ≤ times[index + 1] :=
      hinOrder index (index + 1) (by omega) hnumbers _ (List.getElem?_eq_getElem (by omega)) _
        (List.getElem?_eq_getElem hindex)
    exact (Binary64.not_lt_iff_of_le_self hearlier hlater).mpr hle hless

namespace ClockTrace

theorem exists_ofColumns_iff_inOrder {times : List Float} {levels : List UInt8} :
    (∃ clock, ofColumns times levels = .ok clock) ↔
      times.length = levels.length ∧ levels.all (· ≤ 1) = true ∧
        ∀ first last, first < last → HasNumbers times first last → InOrder times first last := by
  rw [exists_ofColumns_iff, descends_eq_false_iff_inOrder]

/-- Edges are in ascending order if the samples are where the clock rises. -/
theorem pairwise_risingEdges_iff (clock : ClockTrace) :
    clock.risingEdges.Pairwise (· ≤ ·) ↔ ∀ first last, first < last → clock.RisesAt first → clock.RisesAt last →
      InOrder clock.times first last := by
  have hedges : clock.risingEdges =
      ((List.range clock.times.length).filter (clock.RisesAt ·)).filterMap (clock.times[·]?) := by
    have hmap := congrArg (List.filterMap id) (map_risingEdges clock)
    simpa only [List.filterMap_map, Function.comp_def, id, List.filterMap_some] using hmap
  rw [hedges, List.pairwise_filterMap, List.pairwise_filter, List.pairwise_iff_getElem]
  simp only [List.length_range, List.getElem_range, decide_eq_true_eq]
  constructor
  · intro hedges first last hlt hfirst hlast earlier hearlier later hlater
    obtain ⟨hbound, _⟩ := List.getElem?_eq_some_iff.mp hlater
    exact hedges first last (by omega) hbound hlt hfirst hlast earlier hearlier later hlater
  · intro hinOrder first last _ _ hlt hfirst hlast earlier hearlier later hlater
    exact hinOrder first last hlt hfirst hlast earlier hearlier later hlater

/-- Which samples are accepted as a clock, and which clocks have edges in ascending order. If all times are numbers,
the edges ascend. Otherwise it is left open whether they do: two edges have to be in order of themselves if some time
from the one to the other is not a number. -/
theorem ofColumns_ascends_iff (times : List Float) (levels : List UInt8) :
    ((∃ clock, ofColumns times levels = .ok clock) ↔
      times.length = levels.length ∧ levels.all (· ≤ 1) = true ∧
        ∀ first last, first < last → HasNumbers times first last → InOrder times first last) ∧
    ∀ clock, ofColumns times levels = .ok clock →
      ((∀ time ∈ times, time.isNaN = false) → clock.risingEdges.Pairwise (· ≤ ·)) ∧
      (clock.risingEdges.Pairwise (· ≤ ·) ↔ ∀ first last, first < last → clock.RisesAt first →
        clock.RisesAt last → ¬ HasNumbers times first last → InOrder times first last) := by
  refine ⟨exists_ofColumns_iff_inOrder, fun clock hclock => ?_⟩
  obtain ⟨rfl, rfl⟩ := ofColumns_eq_ok hclock
  have hnumbers := descends_eq_false_iff_inOrder.mp clock.isOrdered
  rw [pairwise_risingEdges_iff]
  refine ⟨fun hall first last hlt _ _ => hnumbers first last hlt fun index _ _ time htime => ?_, ?_⟩
  · exact hall time (List.mem_of_getElem? htime)
  · constructor
    · exact fun hinOrder first last hlt hfirst hlast _ => hinOrder first last hlt hfirst hlast
    · intro hbroken first last hlt hfirst hlast
      by_cases hbetween : HasNumbers clock.times first last
      · exact hnumbers first last hlt hbetween
      · exact hbroken first last hlt hfirst hlast hbetween

/-- Two edges with a number between them. -/
theorem ofColumns_ascends_iff_numbers :
    ∃ clock : ClockTrace, ofColumns [0, 1, 2] [1, 0, 1] = .ok clock ∧ clock.risingEdges = [0, 2] ∧
      (∀ time ∈ [0, 1, 2], Float.isNaN time = false) ∧ clock.risingEdges.Pairwise (· ≤ ·) := by
  have hnumbers : ∀ time ∈ [0, 1, 2], Float.isNaN time = false := by decide +kernel
  let clock : ClockTrace := ⟨[0, 1, 2], [1, 0, 1], rfl, rfl, rfl⟩
  have hclock : ofColumns [0, 1, 2] [1, 0, 1] = .ok clock := rfl
  exact ⟨clock, hclock, rfl, hnumbers, ((ofColumns_ascends_iff _ _).2 clock hclock).1 hnumbers⟩

/-- The time between the two edges is not a number, and the second edge is before the first one. -/
theorem risingEdges_descend :
    ∃ clock : ClockTrace, ofColumns [2, 0 / 0, 1] [1, 0, 1] = .ok clock ∧ clock.risingEdges = [2, 1] ∧
      ¬ clock.risingEdges.Pairwise (· ≤ ·) := by
  let clock : ClockTrace := ⟨[2, 0 / 0, 1], [1, 0, 1], rfl, rfl, rfl⟩
  have hedges : clock.risingEdges = [2, 1] := rfl
  have hdescends : ¬ ([2, 1] : List Float).Pairwise (· ≤ ·) := by decide +kernel
  exact ⟨clock, rfl, hedges, hedges ▸ hdescends⟩

end ClockTrace

end Pseudoclock
