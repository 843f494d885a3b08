import Mathlib
import Pseudoclock.Proofs.Except
import Pseudoclock.Proofs.Timeline.Acceptance
import Pseudoclock.Timeline.ClockLine

/-!
Programs of clock lines as beats: a wait, or one cycle of some period. A timeline compiles exactly if
it spells beats, and the instructions of its program then expand to these.
-/

namespace Pseudoclock

/-- A wait, or one cycle that is high for `period` half ticks and then low for as long. -/
inductive Beat where
  | wait
  | cycle (period : Int)
deriving DecidableEq, Repr

namespace Toggle

/-- A wait is one beat, and any other instruction a cycle for each repetition. -/
def beats (instruction : Toggle) : List Beat :=
  if isWait instruction then [.wait]
  else List.replicate instruction.reps.toNat (.cycle instruction.period.toNat)

def expand (body : List Toggle) : List Beat :=
  body.flatMap beats

@[simp] theorem expand_nil : expand [] = [] := rfl

@[simp] theorem expand_cons (instruction : Toggle) (body : List Toggle) :
    expand (instruction :: body) = instruction.beats ++ expand body := rfl

@[simp] theorem expand_append (body other : List Toggle) :
    expand (body ++ other) = expand body ++ expand other := by
  simp [expand]

@[simp] theorem beats_wait : wait.beats = [.wait] := rfl

theorem isWait_eq_false {period : UInt32} (hperiod : period ≠ 0) (reps : UInt32) :
    isWait (⟨period, reps⟩ : Toggle) = false :=
  beq_eq_false_iff_ne.mpr hperiod

theorem beats_eq_replicate {period : UInt32} (hperiod : period ≠ 0) (reps : UInt32) :
    beats ⟨period, reps⟩ = List.replicate reps.toNat (.cycle period.toNat) := by
  rw [beats, isWait_eq_false hperiod]
  rfl

/-- A register with room for one more repetition counts it. -/
theorem toNat_succ {reps : UInt32} (hroom : reps < 0xffffffff) : (reps + 1).toNat = reps.toNat + 1 := by
  have hlt : reps.toNat < 0xffffffff := UInt32.lt_iff_toNat_lt.mp hroom
  rw [UInt32.toNat_add]
  exact Nat.mod_eq_of_lt (by simp; omega)

/-- One more repetition is one more cycle, as long as the register has room for it. -/
theorem beats_succ {period reps : UInt32} (hperiod : period ≠ 0) (hroom : reps < 0xffffffff) :
    beats ⟨period, reps + 1⟩ = beats ⟨period, reps⟩ ++ [.cycle period.toNat] := by
  rw [beats_eq_replicate hperiod, beats_eq_replicate hperiod, toNat_succ hroom, List.replicate_succ']

/-- Merged into the last instruction or not, a cycle is one more beat. -/
theorem expand_addCycle {period : UInt32} (hperiod : period ≠ 0) (body : List Toggle) :
    expand (addCycle period body).reverse = expand body.reverse ++ [.cycle period.toNat] := by
  have hone : beats ⟨period, 1⟩ = [.cycle period.toNat] := beats_eq_replicate hperiod 1
  cases body with
  | nil => simp [addCycle, hone]
  | cons last earlier =>
    rw [addCycle]
    split
    · next hmerge =>
      simp only [Bool.and_eq_true, beq_iff_eq, decide_eq_true_eq] at hmerge
      obtain ⟨⟨_, rfl⟩, hroom⟩ := hmerge
      simp [beats_succ hperiod hroom]
    · simp [hone]

theorem beats_ne_nil_addCycle {period : UInt32} (hperiod : period ≠ 0) {body : List Toggle}
    (hbody : ∀ instruction ∈ body, instruction.beats ≠ []) :
    ∀ instruction ∈ addCycle period body, instruction.beats ≠ [] := by
  have hone : beats ⟨period, 1⟩ = [.cycle period.toNat] := beats_eq_replicate hperiod 1
  cases body with
  | nil => simp [addCycle, hone]
  | cons last earlier =>
    rw [addCycle]
    split
    · next hmerge =>
      simp only [Bool.and_eq_true, beq_iff_eq, decide_eq_true_eq] at hmerge
      obtain ⟨⟨_, rfl⟩, hroom⟩ := hmerge
      intro instruction hmem
      rcases List.mem_cons.mp hmem with rfl | hmem
      · simp [beats_succ hperiod hroom]
      · exact hbody instruction (by simp [hmem])
    · intro instruction hmem
      rcases List.mem_cons.mp hmem with rfl | hmem
      · simp [hone]
      · exact hbody instruction hmem

end Toggle

namespace Capabilities

variable {capabilities : Capabilities}

theorem validate_eq_ok (hvalid : capabilities.validate = .ok ()) :
    stopLength ≤ capabilities.maxInstructions.toNat ∧ 0 < capabilities.minPeriod.toNat := by
  rw [validate, check_bind_eq_ok_iff] at hvalid
  obtain ⟨_, hvalid⟩ := hvalid
  by_cases hroom : capabilities.maxInstructions.toNat < stopLength
  · rw [if_pos hroom] at hvalid
    cases hvalid
  · rw [if_neg hroom] at hvalid
    refine ⟨by omega, Nat.pos_of_ne_zero fun hzero => ?_⟩
    rw [if_pos (beq_iff_eq.mpr (UInt32.toNat_inj.mp hzero))] at hvalid
    cases hvalid

/-- A period is accepted exactly if it is long enough and its register can hold it. -/
theorem decides_periodOf (capabilities : Capabilities) (high : Int) (time : Float) :
    Decides (capabilities.periodOf high time) (capabilities.minPeriod.toNat ≤ high ∧ high ≤ 0xffffffff)
      fun period => (period.toNat : Int) = high := by
  rw [periodOf]
  split
  · exact .refuse (by omega) _
  · split
    · exact .refuse (by omega) _
    · have hrange : high.toNat < 2 ^ 32 := by omega
      refine .accept (by omega) ?_
      rw [UInt32.toNat_ofNat_of_lt' hrange]
      omega

end Capabilities

namespace Timeline

/-- A rise and a fall that make a cycle: high for an acceptable number of half ticks, and then low for as
many, if anything comes after it. -/
structure IsCycle (capabilities : Capabilities) (position : Float → Int) (rise fall : Float)
    (after : Timeline) : Prop where
  least : capabilities.minPeriod.toNat ≤ position fall - position rise
  greatest : position fall - position rise ≤ 0xffffffff
  low : ∀ next ∈ after.head?, position next.time - position fall = position fall - position rise

/-- A timeline continues a clock line that is low and spells beats. `segment` is where the line's positions
are counted from. -/
inductive Spells (capabilities : Capabilities) : Segment → Timeline → List Beat → Prop
  | nil (segment : Segment) : Spells capabilities segment [] []
  | wait {segment : Segment} {rest : Timeline} {beats : List Beat} (time : Float)
      (hrest : Spells capabilities .pending rest beats) :
      Spells capabilities segment (⟨time, .wait⟩ :: rest) (.wait :: beats)
  | cycle {segment : Segment} {rise fall : Float} {rest : Timeline} {beats : List Beat}
      (hstart : segment = .first → capabilities.position (segment.origin rise) rise = 0)
      (hcycle : IsCycle capabilities (capabilities.position (segment.origin rise)) rise fall rest)
      (hrest : Spells capabilities (.running (segment.origin rise)) rest beats) :
      Spells capabilities segment (⟨rise, .level 1⟩ :: ⟨fall, .level 0⟩ :: rest)
        (.cycle (capabilities.position (segment.origin rise) fall -
          capabilities.position (segment.origin rise) rise) :: beats)

/-- The instructions `before` some events, which are in reverse order, became those `after` them: they
have these beats at their end, and none that means nothing is new. -/
structure Extends (before after : List Toggle) (beats : List Beat) : Prop where
  expand_eq : Toggle.expand after.reverse = Toggle.expand before.reverse ++ beats
  beats_ne_nil : (∀ instruction ∈ before, instruction.beats ≠ []) →
    ∀ instruction ∈ after, instruction.beats ≠ []

theorem Extends.refl (body : List Toggle) : Extends body body [] :=
  ⟨by simp, fun h => h⟩

theorem Extends.wait {body after : List Toggle} {beats : List Beat}
    (hextends : Extends (Toggle.wait :: body) after beats) : Extends body after (.wait :: beats) where
  expand_eq := by simpa using hextends.expand_eq
  beats_ne_nil hbody := hextends.beats_ne_nil (by simpa using hbody)

theorem Extends.cycle {period : UInt32} (hperiod : period ≠ 0) {body after : List Toggle}
    {beats : List Beat} (hextends : Extends (Toggle.addCycle period body) after beats) :
    Extends body after (.cycle period.toNat :: beats) where
  expand_eq := by simpa [Toggle.expand_addCycle hperiod] using hextends.expand_eq
  beats_ne_nil hbody := hextends.beats_ne_nil (Toggle.beats_ne_nil_addCycle hperiod hbody)

variable {capabilities : Capabilities}

private theorem decides_checkLowPhase (position : Float → Int) (fall high : Int) (rest : Timeline) :
    Decides (checkLowPhase position fall high rest) (∀ next ∈ rest.head?, position next.time - fall = high)
      fun _ => True := by
  cases rest with
  | nil => exact .accept (by simp) trivial
  | cons next rest =>
    rw [checkLowPhase_cons]
    split
    · next hunequal => exact .refuse (by simpa using hunequal) _
    · next hequal => exact .accept (by simpa using hequal) trivial

/-- Events are compiled behind a body if they spell beats, and then to these beats. -/
private def Compiles (capabilities : Capabilities) (segment : Segment) (body : List Toggle) (timeline : Timeline)
    (computation : Except Error (List Toggle)) : Prop :=
  Decides computation (∃ beats, Spells capabilities segment timeline beats) fun after =>
    ∃ beats, Spells capabilities segment timeline beats ∧ Extends body after beats

/-- A fall behind a rise compiles a cycle, and then what comes after it. -/
private theorem compiles_fall (hperiod : 0 < capabilities.minPeriod.toNat) {segment : Segment} {rise : Float}
    (hstart : segment = .first → capabilities.position (segment.origin rise) rise = 0) (fall : Float)
    {body : List Toggle} {rest : Timeline}
    (hrest : ∀ body, Compiles capabilities (.running (segment.origin rise)) body rest
      (clockCycles capabilities (.running (segment.origin rise)) none body rest)) :
    Compiles capabilities segment body (⟨rise, .level 1⟩ :: ⟨fall, .level 0⟩ :: rest)
      (clockCycles capabilities (.running (segment.origin rise))
        (some (capabilities.position (segment.origin rise) rise)) body (⟨fall, .level 0⟩ :: rest)) := by
  have hspells : ∀ beats, Spells capabilities segment (⟨rise, .level 1⟩ :: ⟨fall, .level 0⟩ :: rest) beats →
      IsCycle capabilities (capabilities.position (segment.origin rise)) rise fall rest ∧
        ∃ beats, Spells capabilities (.running (segment.origin rise)) rest beats := by
    rintro _ (_ | _ | ⟨_, hcycle, hrest⟩)
    exact ⟨hcycle, _, hrest⟩
  simp only [clockCycles_cons]
  refine (decides_checkLowPhase _ _ _ rest).bind (fun hlow _ _ => ?_)
    fun ⟨beats, hbeats⟩ => (hspells beats hbeats).1.low
  refine (capabilities.decides_periodOf _ fall).bind (fun hrange period hhigh => ?_)
    fun ⟨beats, hbeats⟩ => ⟨(hspells beats hbeats).1.least, (hspells beats hbeats).1.greatest⟩
  have hcycle : IsCycle capabilities (capabilities.position (segment.origin rise)) rise fall rest :=
    ⟨hrange.1, hrange.2, hlow⟩
  have hne : period ≠ 0 := by
    rintro rfl
    have hleast := hcycle.least
    simp only [UInt32.toNat_zero] at hhigh
    omega
  refine (hrest (Toggle.addCycle period body)).imp ⟨fun ⟨beats, hbeats⟩ => ⟨_, .cycle hstart hcycle hbeats⟩,
    fun ⟨beats, hbeats⟩ => (hspells beats hbeats).2⟩ fun after ⟨beats, hbeats, hextends⟩ => ?_
  have hextends := hextends.cycle hne
  rw [hhigh] at hextends
  exact ⟨_, .cycle hstart hcycle hbeats, hextends⟩

/-- A rise must be followed by a fall. -/
private theorem compiles_rise (hperiod : 0 < capabilities.minPeriod.toNat) {segment : Segment} {rise : Float}
    (hstart : segment = .first → capabilities.position (segment.origin rise) rise = 0) {body : List Toggle}
    {timeline : Timeline}
    (hrest : ∀ fall rest body, timeline = fall :: rest →
      Compiles capabilities (.running (segment.origin rise)) body rest
        (clockCycles capabilities (.running (segment.origin rise)) none body rest)) :
    Compiles capabilities segment body (⟨rise, .level 1⟩ :: timeline)
      (clockCycles capabilities (.running (segment.origin rise))
        (some (capabilities.position (segment.origin rise) rise)) body timeline) := by
  cases timeline with
  | nil => exact .refuse (by rintro ⟨_, _ | _ | _⟩) _
  | cons event rest =>
    obtain ⟨time, kind⟩ := event
    cases kind with
    | wait => exact .refuse (by rintro ⟨_, _ | _ | _⟩) _
    | level level =>
      by_cases hfall : level = 0
      · subst level
        exact compiles_fall hperiod hstart time fun body => hrest _ rest body rfl
      · have hnot : ¬ ∃ beats, Spells capabilities segment
            (⟨rise, .level 1⟩ :: ⟨time, .level level⟩ :: rest) beats := by
          rintro ⟨_, _ | _ | _⟩
          exact hfall rfl
        by_cases hrise : level = 1
        · subst level
          exact .refuse hnot _
        -- The match on the level reduces only once both of its literals are excluded.
        · simp only [clockCycles_cons]
          split <;> first | exact .refuse hnot _ | simp_all

/-- A timeline that spells beats is compiled to instructions with these beats, and any other one is
refused as invalid. -/
theorem decides_clockCycles (hperiod : 0 < capabilities.minPeriod.toNat) (segment : Segment)
    (body : List Toggle) (timeline : Timeline) :
    Decides (clockCycles capabilities segment none body timeline)
      (∃ beats, Spells capabilities segment timeline beats) fun after =>
        ∃ beats, Spells capabilities segment timeline beats ∧ Extends body after beats := by
  -- A cycle takes two events at once, so the induction is on the number of events left.
  induction hlength : timeline.length using Nat.strong_induction_on generalizing segment body timeline with
  | _ length ih =>
    cases timeline with
    | nil => exact .accept ⟨[], .nil segment⟩ ⟨[], .nil segment, .refl body⟩
    | cons event rest =>
      obtain ⟨time, kind⟩ := event
      simp only [List.length_cons] at hlength
      cases kind with
      | wait =>
        refine (ih rest.length (by omega) .pending (Toggle.wait :: body) rest rfl).imp ?_ ?_
        · refine ⟨fun ⟨beats, hbeats⟩ => ⟨_, .wait time hbeats⟩, ?_⟩
          rintro ⟨_, _ | ⟨_, hrest⟩⟩
          exact ⟨_, hrest⟩
        · rintro after ⟨beats, hbeats, hextends⟩
          exact ⟨_, .wait time hbeats, hextends.wait⟩
      | level level =>
        by_cases hrise : level = 1
        · subst level
          simp only [clockCycles_cons]
          split
          · next hlate =>
            refine .refuse ?_ _
            rintro ⟨_, _ | _ | ⟨hstart, _, _⟩⟩
            exact hlate.2 (hstart hlate.1)
          · next hstart =>
            refine compiles_rise hperiod (fun hfirst => by_contra fun h => hstart ⟨hfirst, h⟩) ?_
            rintro fall rest body rfl
            simp only [List.length_cons] at hlength
            exact ih rest.length (by omega) _ body rest rfl
        · have hnot : ¬ ∃ beats, Spells capabilities segment (⟨time, .level level⟩ :: rest) beats := by
            rintro ⟨_, _ | _ | _⟩
            exact hrise rfl
          by_cases hfall : level = 0
          · subst level
            exact .refuse hnot _
          · simp only [clockCycles_cons]
            split <;> first | exact .refuse hnot _ | simp_all

end Timeline

end Pseudoclock
