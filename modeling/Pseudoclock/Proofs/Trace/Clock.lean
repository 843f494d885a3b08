import Mathlib
import Pseudoclock.Proofs.Binary64.Order
import Pseudoclock.Trace.Clock

/-!
Which samples make a clock trace: as many levels as times, levels 0 and 1, and times that never descend. A clock
that goes through cycles rises once in each.
-/

namespace Pseudoclock

theorem descends_eq_false_iff_isChain (times : List Float) :
    descends times = false ↔ times.IsChain fun earlier later => ¬ later < earlier := by
  induction times with
  | nil => simp [descends]
  | cons earlier rest ih =>
    cases rest with
    | nil => simp [descends]
    | cons later rest => rw [descends, Bool.or_eq_false_iff, decide_eq_false_iff_not, List.isChain_cons_cons, ih]

theorem descends_eq_false_iff {times : List Float} (hnumbers : ∀ time ∈ times, time ≤ time) :
    descends times = false ↔ times.Pairwise (· ≤ ·) :=
  (descends_eq_false_iff_isChain times).trans (Binary64.isChain_not_lt_iff id hnumbers)

/-- What the reference of a device has to be: as many levels as times, all of them 0 or 1, and times that are
numbers and never descend. -/
structure Trace.IsReference (trace : Trace UInt8) : Prop where
  length_eq : trace.times.length = trace.values.length
  isBinary : ∀ level ∈ trace.values, level = 0 ∨ level = 1
  isOrdered : trace.times.Pairwise (· ≤ ·)
  isNumber : ∀ time ∈ trace.times, time.isNaN = false

/-- The samples of cycles that rise and fall at these times. -/
def samplesOf (cycles : List (Float × Float)) : List (Float × UInt8) :=
  cycles.flatMap fun (rise, fall) => [(rise, 1), (fall, 0)]

theorem samplesOf_cons (rise fall : Float) (cycles : List (Float × Float)) :
    samplesOf ((rise, fall) :: cycles) = (rise, 1) :: (fall, 0) :: samplesOf cycles := rfl

@[simp] theorem samplesOf_append (cycles more : List (Float × Float)) :
    samplesOf (cycles ++ more) = samplesOf cycles ++ samplesOf more :=
  List.flatMap_append

theorem level_of_mem_samplesOf {cycles : List (Float × Float)} {sample : Float × UInt8}
    (hsample : sample ∈ samplesOf cycles) : sample.2 = 0 ∨ sample.2 = 1 := by
  obtain ⟨cycle, _, hsample⟩ := List.mem_flatMap.mp hsample
  simp only [List.mem_cons, List.not_mem_nil, or_false] at hsample
  rcases hsample with rfl | rfl
  · exact .inr rfl
  · exact .inl rfl

namespace ClockTrace

theorem ofColumns_eq_ok {times : List Float} {levels : List UInt8} {clock : ClockTrace}
    (hclock : ofColumns times levels = .ok clock) : clock.times = times ∧ clock.levels = levels := by
  rw [ofColumns, check] at hclock
  split_ifs at hclock with hlength hbinary hordered
  · obtain rfl := Except.ok.inj hclock
    exact ⟨rfl, rfl⟩
  all_goals cases hclock

theorem exists_ofColumns_iff {times : List Float} {levels : List UInt8} :
    (∃ clock, ofColumns times levels = .ok clock) ↔
      times.length = levels.length ∧ levels.all (· ≤ 1) = true ∧ descends times = false := by
  constructor
  · rintro ⟨clock, hclock⟩
    obtain ⟨rfl, rfl⟩ := ofColumns_eq_ok hclock
    exact ⟨clock.length_eq, clock.isBinary, clock.isOrdered⟩
  · rintro ⟨hlength, hbinary, hordered⟩
    refine ⟨⟨times, levels, hlength, hbinary, hordered⟩, ?_⟩
    rw [ofColumns, check, dif_pos hlength, dif_pos hbinary, dif_pos hordered]
    rfl

theorem mem_of_mem_edgesAfter {previous : UInt8} {samples : List (Float × UInt8)} {edge : Float}
    (hedge : edge ∈ edgesAfter previous samples) : edge ∈ samples.map (·.1) := by
  induction samples generalizing previous with
  | nil => cases hedge
  | cons sample rest ih =>
    obtain ⟨time, level⟩ := sample
    rw [edgesAfter] at hedge
    split at hedge
    · rcases List.mem_cons.mp hedge with rfl | hedge
      · exact List.mem_cons_self
      · exact List.mem_cons_of_mem _ (ih hedge)
    · exact List.mem_cons_of_mem _ (ih hedge)

/-- A clock rises at times that it has samples for. -/
theorem mem_times_of_mem_risingEdges {clock : ClockTrace} {edge : Float} (hedge : edge ∈ clock.risingEdges) :
    edge ∈ clock.times := by
  have hmem := mem_of_mem_edgesAfter hedge
  rwa [List.map_fst_zip clock.length_eq.le] at hmem

/-- A line that goes through cycles rises once in each of them. -/
theorem edgesAfter_samplesOf (cycles : List (Float × Float)) :
    edgesAfter 0 (samplesOf cycles) = cycles.map (·.1) := by
  induction cycles with
  | nil => rfl
  | cons cycle cycles ih =>
    rw [samplesOf_cons, List.map_cons, ← ih]
    rfl

end ClockTrace

/-- The columns of a reference are accepted as a clock. -/
theorem Trace.IsReference.exists_clock {trace : Trace UInt8} (hreference : trace.IsReference) :
    ∃ clock, ClockTrace.ofColumns trace.times trace.values = .ok clock := by
  have hnumbers : ∀ time ∈ trace.times, time ≤ time :=
    fun time htime => Binary64.le_self_iff.mpr (hreference.isNumber time htime)
  have hbinary : ∀ level ∈ trace.values, level ≤ 1 := by
    intro level hlevel
    rcases hreference.isBinary level hlevel with rfl | rfl <;> decide
  refine ClockTrace.exists_ofColumns_iff.mpr ⟨hreference.length_eq, by simpa using hbinary, ?_⟩
  exact (descends_eq_false_iff hnumbers).mpr hreference.isOrdered

end Pseudoclock
