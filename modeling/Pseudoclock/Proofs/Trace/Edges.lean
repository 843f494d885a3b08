import Mathlib
import Pseudoclock.Proofs.Timeline.Stretch
import Pseudoclock.Proofs.Trace.Clock

/-!
Which samples of a clock trace are rising edges, and what becomes of them when the trace is cut in two.
-/

namespace Pseudoclock.ClockTrace

/-- A clock rises where it is high and was not high before. At the first sample nothing is known of before. -/
def RisesAt (clock : ClockTrace) (index : Nat) : Prop :=
  clock.levels[index]? = some 1 ∧ (index = 0 ∨ clock.levels[index - 1]? = some 0)

instance (clock : ClockTrace) : DecidablePred clock.RisesAt :=
  fun _ => inferInstanceAs (Decidable (_ ∧ _))

/-- The samples that are high behind a low one, where `previous` is the level in front of the first one. -/
private def IsEdgeAfter (previous : UInt8) (levels : List UInt8) (index : Nat) : Prop :=
  levels[index]? = some 1 ∧ (previous :: levels)[index]? = some 0

private instance (previous : UInt8) (levels : List UInt8) : DecidablePred (IsEdgeAfter previous levels) :=
  fun _ => inferInstanceAs (Decidable (_ ∧ _))

private theorem isEdgeAfter_zero (previous level : UInt8) (levels : List UInt8) :
    IsEdgeAfter previous (level :: levels) 0 ↔ level = 1 ∧ previous = 0 := by
  simp [IsEdgeAfter]

private theorem isEdgeAfter_succ (previous level : UInt8) (levels : List UInt8) (index : Nat) :
    IsEdgeAfter previous (level :: levels) (index + 1) ↔ IsEdgeAfter level levels index := by
  simp [IsEdgeAfter]

/-- Edges are found at the samples that are high behind a low one, each of them once and in this order. -/
private theorem map_edgesAfter (previous : UInt8) (samples : List (Float × UInt8)) :
    (edgesAfter previous samples).map some =
      ((List.range samples.length).filter (IsEdgeAfter previous (samples.map (·.2)) ·)).map
        ((samples.map (·.1))[·]?) := by
  induction samples generalizing previous with
  | nil => rfl
  | cons sample rest ih =>
    obtain ⟨time, level⟩ := sample
    have hrest : ((List.range rest.length).map Nat.succ |>.filter
          (IsEdgeAfter previous (level :: rest.map (·.2)) ·)).map ((time :: rest.map (·.1))[·]?) =
        (edgesAfter level rest).map some := by
      rw [ih level, List.filter_map, List.map_map]
      simp only [Function.comp_def, Nat.succ_eq_add_one, isEdgeAfter_succ, List.getElem?_cons_succ]
    rw [edgesAfter, List.map_cons, List.map_cons, List.length_cons, List.range_succ_eq_map, List.filter_cons]
    by_cases hrises : level = 1 ∧ previous = 0
    · obtain ⟨rfl, rfl⟩ := hrises
      rw [if_pos (by rfl), if_pos (by simp [isEdgeAfter_zero]), List.map_cons, List.map_cons, hrest]
      rfl
    · rw [if_neg (by simpa [and_comm] using hrises), if_neg (by simpa [isEdgeAfter_zero] using hrises), hrest]

/-- Of samples in two parts, the second part is looked at behind the last level of the first one. -/
theorem edgesAfter_append (previous : UInt8) (samples more : List (Float × UInt8)) :
    edgesAfter previous (samples ++ more) =
      edgesAfter previous samples ++ edgesAfter ((samples.map (·.2)).getLast?.getD previous) more := by
  induction samples generalizing previous with
  | nil => rfl
  | cons sample rest ih =>
    obtain ⟨time, level⟩ := sample
    rw [List.cons_append, edgesAfter, edgesAfter, ih level, List.map_cons, List.getLast?_cons, Option.getD_some]
    split <;> rfl

/-- A first sample that is high is an edge, unless a high one is in front of it. -/
theorem edgesAfter_of_high {previous : UInt8} (hhigh : previous ≠ 0) (time : Float) (rest : List (Float × UInt8)) :
    edgesAfter 0 ((time, 1) :: rest) = time :: edgesAfter previous ((time, 1) :: rest) := by
  have hnot : ¬ (previous == 0 && (1 : UInt8) == 1) = true := by simpa using hhigh
  rw [edgesAfter, edgesAfter, if_neg hnot]
  rfl

/-- A first sample that is low is no edge, whatever is in front of it. -/
theorem edgesAfter_of_not_high (previous : UInt8) {samples : List (Float × UInt8)}
    (hlow : (samples.map (·.2)).head? ≠ some 1) : edgesAfter previous samples = edgesAfter 0 samples := by
  cases samples with
  | nil => rfl
  | cons sample rest =>
    obtain ⟨time, level⟩ := sample
    have hne : level ≠ 1 := by simpa using hlow
    rw [edgesAfter, edgesAfter, if_neg (by simp [hne]), if_neg (by simp [hne])]

theorem level_eq {clock : ClockTrace} {level : UInt8} (hlevel : level ∈ clock.levels) : level = 0 ∨ level = 1 := by
  have hle : level ≤ 1 := of_decide_eq_true (List.all_eq_true.mp clock.isBinary level hlevel)
  have hnat : level.toNat ≤ 1 := UInt8.le_iff_toNat_le.mp hle
  rcases Nat.le_one_iff_eq_zero_or_eq_one.mp hnat with hzero | hone
  · exact .inl (UInt8.toNat_inj.mp hzero)
  · exact .inr (UInt8.toNat_inj.mp hone)

/-- Each run of high samples has one edge. -/
private theorem length_edgesAfter {previous : UInt8} (hprevious : previous = 0 ∨ previous = 1)
    {samples : List (Float × UInt8)} (hlevels : ∀ sample ∈ samples, sample.2 = 0 ∨ sample.2 = 1) :
    (edgesAfter previous samples).length = runsAfter (· == 1) (previous == 1) (samples.map (·.2)) := by
  induction samples generalizing previous with
  | nil => rfl
  | cons sample rest ih =>
    obtain ⟨time, level⟩ := sample
    obtain ⟨hlevel, hrest⟩ := List.forall_mem_cons.mp hlevels
    have hlow : (previous == 0) = !(previous == 1) := by rcases hprevious with rfl | rfl <;> rfl
    rw [edgesAfter, List.map_cons, runsAfter, ← ih hlevel hrest, hlow, Bool.and_comm]
    split
    · rw [List.length_cons, Nat.add_comm]
    · rw [Nat.zero_add]

variable (clock : ClockTrace)

theorem map_snd_samples : (clock.times.zip clock.levels).map (·.2) = clock.levels :=
  List.map_snd_zip clock.length_eq.ge

/-- The edges of a clock are the times of the samples at which it rises. -/
theorem map_risingEdges : clock.risingEdges.map some =
    ((List.range clock.times.length).filter (clock.RisesAt ·)).map (clock.times[·]?) := by
  have hrises : ∀ index, IsEdgeAfter 0 clock.levels index ↔ clock.RisesAt index := by
    intro index
    cases index with
    | zero => simp [IsEdgeAfter, RisesAt]
    | succ index => simp [IsEdgeAfter, RisesAt]
  have hlength : (clock.times.zip clock.levels).length = clock.times.length := by
    rw [List.length_zip, ← clock.length_eq, Nat.min_self]
  rw [risingEdges, map_edgesAfter, map_snd_samples, List.map_fst_zip clock.length_eq.le, hlength]
  simp only [hrises]

theorem length_risingEdges : clock.risingEdges.length = runs (· == 1) clock.levels := by
  rw [risingEdges, length_edgesAfter (.inl rfl) fun sample hsample => level_eq (List.of_mem_zip hsample).2,
    map_snd_samples]
  rfl

/-- What is cut off a clock trace is a clock trace. -/
theorem exists_cut (cut : Nat) : ∃ first second,
    ofColumns (clock.times.take cut) (clock.levels.take cut) = .ok first ∧
    ofColumns (clock.times.drop cut) (clock.levels.drop cut) = .ok second := by
  have hchain := (descends_eq_false_iff_isChain clock.times).mp clock.isOrdered
  have hbinary := List.all_eq_true.mp clock.isBinary
  have hfirst : ∃ first, ofColumns (clock.times.take cut) (clock.levels.take cut) = .ok first := by
    refine exists_ofColumns_iff.mpr ⟨by rw [List.length_take, List.length_take, clock.length_eq], ?_, ?_⟩
    · exact List.all_eq_true.mpr fun level hlevel => hbinary level (List.mem_of_mem_take hlevel)
    · exact (descends_eq_false_iff_isChain _).mpr (hchain.take cut)
  have hsecond : ∃ second, ofColumns (clock.times.drop cut) (clock.levels.drop cut) = .ok second := by
    refine exists_ofColumns_iff.mpr ⟨by rw [List.length_drop, List.length_drop, clock.length_eq], ?_, ?_⟩
    · exact List.all_eq_true.mpr fun level hlevel => hbinary level (List.mem_of_mem_drop hlevel)
    · exact (descends_eq_false_iff_isChain _).mpr (hchain.drop cut)
  obtain ⟨first, hfirst⟩ := hfirst
  obtain ⟨second, hsecond⟩ := hsecond
  exact ⟨first, second, hfirst, hsecond⟩

/-- A run of high samples that goes on across a cut has its edge in the first part. -/
def JoinsAcross (first second : ClockTrace) : Prop :=
  first.levels.getLast? = some 1 ∧ second.levels.head? = some 1

variable {clock} {first second : ClockTrace}

theorem risingEdges_append (htimes : clock.times = first.times ++ second.times)
    (hlevels : clock.levels = first.levels ++ second.levels) :
    clock.risingEdges = first.risingEdges ++
      edgesAfter (first.levels.getLast?.getD 0) (second.times.zip second.levels) := by
  rw [risingEdges, htimes, hlevels, List.zip_append first.length_eq, edgesAfter_append, map_snd_samples]
  rfl

theorem risingEdges_of_joinsAcross (htimes : clock.times = first.times ++ second.times)
    (hlevels : clock.levels = first.levels ++ second.levels) (hjoins : first.JoinsAcross second) :
    ∃ edge edges, second.risingEdges = edge :: edges ∧ clock.risingEdges = first.risingEdges ++ edges := by
  obtain ⟨hlast, hhead⟩ := hjoins
  obtain ⟨time, rest, hsamples⟩ : ∃ time rest, second.times.zip second.levels = (time, 1) :: rest := by
    cases hsamples : second.times.zip second.levels with
    | nil =>
      rw [← map_snd_samples second, hsamples] at hhead
      cases hhead
    | cons sample rest =>
      rw [← map_snd_samples second, hsamples] at hhead
      obtain ⟨time, level⟩ := sample
      obtain rfl : level = 1 := Option.some.inj hhead
      exact ⟨time, rest, rfl⟩
  have hhigh : (1 : UInt8) ≠ 0 := by decide
  refine ⟨time, edgesAfter 1 ((time, 1) :: rest), ?_, ?_⟩
  · rw [risingEdges, hsamples, edgesAfter_of_high hhigh]
  · rw [risingEdges_append htimes hlevels, hsamples, hlast]
    rfl

theorem risingEdges_of_not_joinsAcross (htimes : clock.times = first.times ++ second.times)
    (hlevels : clock.levels = first.levels ++ second.levels) (hnot : ¬ first.JoinsAcross second) :
    clock.risingEdges = first.risingEdges ++ second.risingEdges := by
  rw [risingEdges_append htimes hlevels]
  congr 1
  by_cases hhead : second.levels.head? = some 1
  · have hlast : first.levels.getLast? ≠ some 1 := fun hlast => hnot ⟨hlast, hhead⟩
    cases hlevel : first.levels.getLast? with
    | none => rfl
    | some level =>
      rcases level_eq (List.mem_of_getLast? hlevel) with rfl | rfl
      · rfl
      · exact absurd hlevel hlast
  · rw [← map_snd_samples second] at hhead
    exact edgesAfter_of_not_high _ hhead

/-- A clock has an edge for each run of high samples, at the time of the first sample of the run. Where a clock is
cut in two, its edges are those of both parts, except that a run that goes on across the cut has no second one. -/
theorem risingEdges_exact (clock : ClockTrace) :
    clock.risingEdges.map some =
      ((List.range clock.times.length).filter (clock.RisesAt ·)).map (clock.times[·]?) ∧
    clock.risingEdges.length = runs (· == 1) clock.levels ∧
    ∀ cut, ∃ first second,
      ofColumns (clock.times.take cut) (clock.levels.take cut) = .ok first ∧
      ofColumns (clock.times.drop cut) (clock.levels.drop cut) = .ok second ∧
      (first.JoinsAcross second → ∃ edge edges,
        second.risingEdges = edge :: edges ∧ clock.risingEdges = first.risingEdges ++ edges) ∧
      (¬ first.JoinsAcross second → clock.risingEdges = first.risingEdges ++ second.risingEdges) := by
  refine ⟨map_risingEdges clock, length_risingEdges clock, fun cut => ?_⟩
  obtain ⟨first, second, hfirst, hsecond⟩ := exists_cut clock cut
  have htimes : clock.times = first.times ++ second.times := by
    rw [(ofColumns_eq_ok hfirst).1, (ofColumns_eq_ok hsecond).1, List.take_append_drop]
  have hlevels : clock.levels = first.levels ++ second.levels := by
    rw [(ofColumns_eq_ok hfirst).2, (ofColumns_eq_ok hsecond).2, List.take_append_drop]
  exact ⟨first, second, hfirst, hsecond, risingEdges_of_joinsAcross htimes hlevels,
    risingEdges_of_not_joinsAcross htimes hlevels⟩

/-- A run of two high samples that is cut in its middle. -/
theorem risingEdges_exact_run :
    ∃ clock first second : ClockTrace, clock.times = [0, 1, 2, 3] ∧ clock.levels = [0, 1, 1, 0] ∧
      ofColumns [0, 1] [0, 1] = .ok first ∧ ofColumns [2, 3] [1, 0] = .ok second ∧ first.JoinsAcross second ∧
      ∃ edge edges, second.risingEdges = edge :: edges ∧ clock.risingEdges = first.risingEdges ++ edges := by
  let clock : ClockTrace := ⟨[0, 1, 2, 3], [0, 1, 1, 0], rfl, rfl, rfl⟩
  obtain ⟨first, second, hfirst, hsecond, hjoined, _⟩ := (risingEdges_exact clock).2.2 2
  have hjoins : first.JoinsAcross second := by
    rw [JoinsAcross, (ofColumns_eq_ok hfirst).2, (ofColumns_eq_ok hsecond).2]
    exact ⟨rfl, rfl⟩
  exact ⟨clock, first, second, rfl, rfl, hfirst, hsecond, hjoins, hjoined hjoins⟩

end Pseudoclock.ClockTrace
