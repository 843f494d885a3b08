import Mathlib
import Pseudoclock.Timeline.ClockLine
import Pseudoclock.Timeline.OutputBank
import Pseudoclock.Proofs.Calibration
import Pseudoclock.Proofs.Ticks
import Pseudoclock.Proofs.Ticks.Order
import Pseudoclock.Proofs.Timeline.Chronology

/-!
Subtraction of positions while a timeline is compiled. Positions are held to the range of a signed register, and
so are clamped at both of its ends. No position that is subtracted or subtracted from is negative, and so each
difference fits into such a register as well.
-/

namespace Pseudoclock

open Binary64

/-- The difference of two positions in registers. There is none if a position is negative, or if the difference
is beyond the ends of a register. -/
def Ticks.difference? (a b : Int) : Option Int :=
  if 0 ≤ a ∧ 0 ≤ b ∧ least ≤ a - b ∧ a - b ≤ greatest then some (a - b) else none

/-- Subtraction in registers. What needs a difference that there is none of stops there. -/
def Ticks.subtract? (a b : Int) : ExceptT Error Option Int :=
  ExceptT.lift (difference? a b)

namespace Timeline

private theorem checkResolution_of_validate {capabilities : Capabilities} (hvalid : capabilities.validate = .ok ()) :
    capabilities.clockResolution.isFinite = true ∧ ¬ capabilities.clockResolution ≤ 0 := by
  rw [Capabilities.validate, check_bind_eq_ok_iff, checkResolution_eq_ok_iff] at hvalid
  exact hvalid.1

/-- Stages that are all carried out are carried out one after the other. -/
private theorem run_bind {α β : Type} {first : ExceptT Error Option α} {second : α → ExceptT Error Option β}
    {outcome : Except Error α} {next : α → Except Error β} (hfirst : first.run = some outcome)
    (hsecond : ∀ value, outcome = .ok value → (second value).run = some (next value)) :
    (first >>= second).run = some (outcome >>= next) := by
  rw [ExceptT.run_bind, hfirst]
  cases outcome with
  | error error => rfl
  | ok value => exact hsecond value rfl

private theorem run_lift {α : Type} (outcome : Except Error α) :
    (liftM outcome : ExceptT Error Option α).run = some outcome :=
  rfl

/-- A position in a register that is at its origin or after it. -/
structure IsForward (position : Int) : Prop where
  nonneg : 0 ≤ position
  le_greatest : position ≤ Ticks.greatest

/-- A subtraction that has a result for positions that are not before their origin. -/
def SubtractsForward (subtract : Int → Int → ExceptT Error Option Int) : Prop :=
  ∀ a b, IsForward a → IsForward b → subtract a b = pure (a - b)

theorem subtractsForward_subtract? : SubtractsForward Ticks.subtract? := by
  intro a b ⟨ha, ha'⟩ ⟨hb, hb'⟩
  have hleast : Ticks.least ≤ a - b := by
    unfold Ticks.least
    unfold Ticks.greatest at hb'
    omega
  rw [Ticks.subtract?, Ticks.difference?, if_pos ⟨ha, hb, hleast, by omega⟩]
  rfl

/-- The events of a timeline are at an origin or after it. -/
structure NotBefore (unit origin : Float) (timeline : Timeline) : Prop where
  origin_isFinite : origin.isFinite = true
  isForward : ∀ event ∈ timeline, IsForward (Ticks.ofLength (event.time - origin) unit)

section Positions

variable {unit origin : Float} {event : Event} {rest : Timeline}

theorem NotBefore.tail (hafter : NotBefore unit origin (event :: rest)) : NotBefore unit origin rest :=
  ⟨hafter.origin_isFinite, fun later hlater => hafter.isForward later (List.mem_cons_of_mem event hlater)⟩

/-- If an event is not before an origin, then those after it are not either. -/
theorem notBefore_of_head (hunit : IsUnsigned unit.toModel.unpack) (horigin : origin.isFinite = true)
    (hchronological : IsChronological (event :: rest)) (hhead : 0 ≤ Ticks.ofLength (event.time - origin) unit) :
    NotBefore unit origin (event :: rest) := by
  refine ⟨horigin, fun later hlater => ⟨?_, Ticks.ofLength_le_greatest _ _⟩⟩
  rcases List.mem_cons.mp hlater with rfl | hrest
  · exact hhead
  · have hevent := hchronological.isFinite event List.mem_cons_self
    have hle : event.time ≤ later.time := List.rel_of_pairwise_cons hchronological.sorted hrest
    exact hhead.trans (Ticks.ofLength_mono hunit
      (sub_le_sub_right horigin hevent (hchronological.isFinite later hlater) hle))

/-- Events are not before the first one of them. -/
theorem notBefore_first (hunit : IsUnsigned unit.toModel.unpack) (hchronological : IsChronological (event :: rest)) :
    NotBefore unit event.time (event :: rest) := by
  have hfinite := hchronological.isFinite event List.mem_cons_self
  exact notBefore_of_head hunit hfinite hchronological (Ticks.ofLength_sub_self hfinite unit).ge

end Positions

section ClockLines

variable {subtract : Int → Int → ExceptT Error Option Int} {capabilities : Capabilities}

theorem run_checkLowPhaseWith (hsubtract : SubtractsForward subtract) {position : Float → Int} {fall high : Int}
    (hfall : IsForward fall) {timeline : Timeline} (hposition : ∀ event ∈ timeline, IsForward (position event.time)) :
    (checkLowPhaseWith subtract position fall high timeline).run =
      some (checkLowPhase position fall high timeline) := by
  cases timeline with
  | nil => rfl
  | cons next rest =>
    have hnext := hposition next List.mem_cons_self
    rw [checkLowPhaseWith, hsubtract _ _ hnext hfall, pure_bind, checkLowPhase_cons]
    split <;> rfl

/-- What is known while a clock line is compiled. The events that remain are not before the origin of a segment
that has begun. While the line is high, a segment has begun, and the line has risen at a position in it. -/
structure KeepsPositions (capabilities : Capabilities) (segment : Segment) (rise : Option Int) (timeline : Timeline) :
    Prop where
  isChronological : timeline.IsChronological
  notBefore : ∀ origin, segment = .running origin →
    NotBefore (Ticks.halfTick capabilities.clockResolution) origin timeline
  isForward_rise : ∀ position, rise = some position → (∃ origin, segment = .running origin) ∧ IsForward position

namespace KeepsPositions

variable {segment : Segment} {event : Event} {rest : Timeline}

theorem start {timeline : Timeline} (hchronological : timeline.IsChronological) :
    KeepsPositions capabilities .first none timeline :=
  ⟨hchronological, nofun, nofun⟩

theorem wait (hkeeps : KeepsPositions capabilities segment none (event :: rest)) :
    KeepsPositions capabilities .pending none rest :=
  ⟨hkeeps.isChronological.tail, nofun, nofun⟩

/-- When the line rises, its segment begins no later than that. In the first segment, this is checked. -/
theorem rise (hunit : IsUnsigned (Ticks.halfTick capabilities.clockResolution).toModel.unpack)
    (hkeeps : KeepsPositions capabilities segment none (event :: rest))
    (hfirst : ¬ (segment = .first ∧ capabilities.position (segment.origin event.time) event.time ≠ 0)) :
    KeepsPositions capabilities (.running (segment.origin event.time))
      (some (capabilities.position (segment.origin event.time) event.time)) rest := by
  have hevents : NotBefore (Ticks.halfTick capabilities.clockResolution) (segment.origin event.time)
      (event :: rest) := by
    cases segment with
    | first =>
      have hzero : capabilities.position 0 event.time = 0 := by
        by_contra hne
        exact hfirst ⟨rfl, hne⟩
      exact notBefore_of_head hunit zero_isFinite hkeeps.isChronological hzero.ge
    | pending => exact notBefore_first hunit hkeeps.isChronological
    | running origin => exact hkeeps.notBefore origin rfl
  refine ⟨hkeeps.isChronological.tail, ?_, ?_⟩
  · rintro origin hrunning
    cases hrunning
    exact hevents.tail
  · rintro position hrise
    cases hrise
    exact ⟨⟨_, rfl⟩, hevents.isForward event List.mem_cons_self⟩

theorem fall {position : Int} (hkeeps : KeepsPositions capabilities segment (some position) (event :: rest)) :
    KeepsPositions capabilities segment none rest :=
  ⟨hkeeps.isChronological.tail, fun origin hrunning => (hkeeps.notBefore origin hrunning).tail, nofun⟩

/-- While the line is high, no event that remains is before the origin of its segment. -/
theorem isForward_position {position : Int} {timeline : Timeline}
    (hkeeps : KeepsPositions capabilities segment (some position) timeline) (time : Float) :
    ∀ later ∈ timeline, IsForward (capabilities.position (segment.origin time) later.time) := by
  obtain ⟨⟨origin, rfl⟩, _⟩ := hkeeps.isForward_rise position rfl
  exact (hkeeps.notBefore origin rfl).isForward

end KeepsPositions

/-- What is known of positions is kept from one event to the next, and it is enough for the two subtractions that
are made when the line falls. -/
theorem run_clockCyclesWith (hsubtract : SubtractsForward subtract)
    (hunit : IsUnsigned (Ticks.halfTick capabilities.clockResolution).toModel.unpack) {segment : Segment}
    {rise : Option Int} {timeline : Timeline} (hkeeps : KeepsPositions capabilities segment rise timeline)
    (body : List Toggle) :
    (clockCyclesWith subtract capabilities segment rise body timeline).run =
      some (clockCycles capabilities segment rise body timeline) := by
  unfold clockCycles
  fun_induction clockCyclesWith exactDifference capabilities segment rise body timeline with
  | case1 => rfl
  | case2 => rfl
  | case3 segment body event rest position hkind =>
    simp only [clockCyclesWith, hkind]
    rfl
  | case4 segment body event rest hkind ih =>
    simp only [clockCyclesWith, hkind]
    exact ih hkeeps.wait
  | case5 segment body event rest position hkind =>
    simp only [clockCyclesWith, hkind]
    rfl
  | case6 segment body event rest hkind origin position hlate =>
    simp only [clockCyclesWith, hkind]
    rw [if_pos hlate]
    rfl
  | case7 segment body event rest hkind origin position hstart ih =>
    simp only [clockCyclesWith, hkind]
    rw [if_neg hstart]
    exact ih (hkeeps.rise hunit hstart)
  | case8 segment body event rest hkind =>
    simp only [clockCyclesWith, hkind]
    rfl
  | case9 segment body event rest rise hkind position fall ih =>
    obtain ⟨_, hrise⟩ := hkeeps.isForward_rise rise rfl
    obtain ⟨hfall, hrest⟩ := List.forall_mem_cons.mp (hkeeps.isForward_position event.time)
    simp only [clockCyclesWith, hkind, hsubtract _ _ hfall hrise, pure_bind]
    refine run_bind (run_checkLowPhaseWith hsubtract hfall hrest) fun _ _ => ?_
    refine run_bind (run_lift _) fun period _ => ?_
    exact ih period hkeeps.fall
  | case10 segment rise body event rest level hkind =>
    rw [clockCyclesWith]
    · rfl
    all_goals assumption

theorem run_compileToggleWith (hsubtract : SubtractsForward subtract) (timeline : Timeline)
    (capabilities : Capabilities) :
    (compileToggleWith subtract timeline capabilities).run = some (timeline.compileToggle capabilities) := by
  refine run_bind (run_lift _) fun _ hvalid => run_bind (run_lift _) fun _ htimes => ?_
  obtain ⟨hchronological, _⟩ := (decides_checkTimes timeline).of_eq_ok htimes
  refine run_bind (run_clockCyclesWith hsubtract ?_ (.start hchronological) []) fun _ _ => ?_
  · obtain ⟨hfinite, hpos⟩ := checkResolution_of_validate hvalid
    exact isUnsigned_half hfinite hpos
  · exact run_bind (run_lift _) fun _ _ => rfl

end ClockLines

section OutputBanks

variable {subtract : Int → Int → ExceptT Error Option Int} {layout : Layout} {clockResolution : Float}

theorem run_holdTicksWith (hsubtract : SubtractsForward subtract) (position : Float → Int) {time : Float}
    (htime : IsForward (position time)) {timeline : Timeline}
    (hposition : ∀ event ∈ timeline, IsForward (position event.time)) :
    (holdTicksWith subtract position time timeline).run = some (holdTicks position time timeline) := by
  cases timeline with
  | nil => rfl
  | cons next rest =>
    have hnext := hposition next List.mem_cons_self
    simp only [holdTicksWith, hsubtract _ _ hnext htime, pure_bind, holdTicks_cons]
    split
    · rfl
    · split <;> rfl

/-- The words of an output bank are held for differences of positions that are counted from the first word after
a wait, which is before all others of its segment. -/
theorem run_bankWordsWith (hsubtract : SubtractsForward subtract)
    (hunit : IsUnsigned clockResolution.toModel.unpack) (held : UInt64) {origin : Option Float} {timeline : Timeline}
    (hchronological : timeline.IsChronological)
    (horigin : ∀ start, origin = some start → NotBefore clockResolution start timeline) :
    (bankWordsWith subtract layout clockResolution held origin timeline).run =
      some (bankWords layout clockResolution held origin timeline) := by
  induction timeline generalizing held origin with
  | nil => rfl
  | cons event rest ih =>
    rw [bankWordsWith, bankWords_cons]
    cases event.kind with
    | wait => exact run_bind (ih held hchronological.tail nofun) fun _ _ => rfl
    | level word =>
      simp only
      split
      · have hstart : NotBefore clockResolution (origin.getD event.time) (event :: rest) := by
          cases origin with
          | none => exact notBefore_first hunit hchronological
          | some start => exact horigin start rfl
        obtain ⟨hevent, hrest⟩ := List.forall_mem_cons.mp hstart.isForward
        have hreps := run_holdTicksWith hsubtract
          (fun time => Ticks.ofLength (time - origin.getD event.time) clockResolution) hevent hrest
        refine run_bind hreps fun reps _ => ?_
        refine run_bind (ih word hchronological.tail ?_) fun _ _ => rfl
        rintro start hsome
        cases hsome
        exact hstart.tail
      · rfl

theorem run_compileSnapshotWith (hsubtract : SubtractsForward subtract) (timeline : Timeline) (layout : Layout)
    (capabilities : Capabilities) :
    (compileSnapshotWith subtract timeline layout capabilities).run =
      some (timeline.compileSnapshot layout capabilities) := by
  refine run_bind (run_lift _) fun _ hvalid => run_bind (run_lift _) fun _ _ => run_bind (run_lift _) fun _ htimes => ?_
  obtain ⟨hchronological, _⟩ := (decides_checkTimes timeline).of_eq_ok htimes
  refine run_bind (run_bankWordsWith hsubtract ?_ 0 hchronological nofun) fun _ _ => ?_
  · obtain ⟨hfinite, hpos⟩ := checkResolution_of_validate hvalid
    exact isUnsigned_of_pos hfinite hpos
  · exact run_bind (run_lift _) fun _ _ => rfl

end OutputBanks

/-- Compilers that subtract in registers, and that stop where a position is negative or a difference overflows,
never stop: for every timeline and every device, they give the programs and errors that the compilers give. Where
whole numbers are subtracted instead, they are the compilers. -/
theorem compile_inRegisters (timeline : Timeline) (layout : Layout) (capabilities : Capabilities) :
    (compileToggleWith Ticks.subtract? timeline capabilities).run = some (timeline.compileToggle capabilities) ∧
    (compileSnapshotWith Ticks.subtract? timeline layout capabilities).run =
      some (timeline.compileSnapshot layout capabilities) ∧
    (compileToggleWith (fun a b => (pure (a - b) : ExceptT Error Option Int)) timeline capabilities).run =
      some (timeline.compileToggle capabilities) ∧
    (compileSnapshotWith (fun a b => (pure (a - b) : ExceptT Error Option Int)) timeline layout capabilities).run =
      some (timeline.compileSnapshot layout capabilities) := by
  have hexact : SubtractsForward fun a b => pure (a - b) := fun _ _ _ _ => rfl
  exact ⟨run_compileToggleWith subtractsForward_subtract? timeline capabilities,
    run_compileSnapshotWith subtractsForward_subtract? timeline layout capabilities,
    run_compileToggleWith hexact timeline capabilities, run_compileSnapshotWith hexact timeline layout capabilities⟩

/-- A fall so late that its position is clamped to the end of its register is refused as such. -/
example :
    (compileToggleWith Ticks.subtract? [⟨0, .level 1⟩, ⟨1e300, .level 0⟩] ⟨25e-9, 8, 1⟩).run =
      some (.error (.invalidTimeline (.longPhase 1e300 0x7fffffffffffffff))) := by
  decide +kernel

/-- Both compilers do subtract: without any differences, they stop at a fall and at a word in front of another. -/
example :
    let missing : Int → Int → ExceptT Error Option Int := fun _ _ => ExceptT.lift none
    (compileToggleWith missing [⟨0, .level 1⟩, ⟨1, .level 0⟩] ⟨1, 8, 1⟩).run = none ∧
      (compileSnapshotWith missing [⟨0, .level 1⟩, ⟨1, .level 2⟩] ⟨2, 8, .big⟩ ⟨1, 8, 1⟩).run = none := by
  decide +kernel

end Timeline

end Pseudoclock
