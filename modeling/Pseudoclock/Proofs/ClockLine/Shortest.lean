import Mathlib
import Pseudoclock.Proofs.ClockLine.Grammar

/-!
Compiled clock lines are as short as they can be: no other instructions with the same beats are fewer.
A clock line is therefore refused for want of room only if no program at all would fit.
-/

namespace Pseudoclock

def Beat.isCycle : Beat → Bool
  | .wait => false
  | .cycle _ => true

namespace Toggle

/-- Adds one beat after the instructions of a body, the last of which comes first. -/
def addBeat (body : List Toggle) : Beat → List Toggle
  | .wait => wait :: body
  | .cycle period => addCycle (UInt32.ofNat period.toNat) body

/-- The instructions into which beats are merged one after the other, the last one first. -/
def merged (beats : List Beat) : List Toggle :=
  beats.foldl addBeat []

/-- No other instructions with the same beats are fewer. -/
def IsShortest (body : List Toggle) : Prop :=
  ∀ other, expand other = expand body → body.length ≤ other.length

/-- How many more cycles of a period the last instruction has room for. -/
def room (period : UInt32) : List Toggle → Nat
  | [] => 0
  | last :: _ => if last.period = period then 0xffffffff - last.reps.toNat else 0

@[simp] theorem addBeat_cycle (body : List Toggle) (period : UInt32) :
    addBeat body (.cycle period.toNat) = addCycle period body := by
  simp [addBeat]

theorem addCycle_of_room {period : UInt32} (hperiod : period ≠ 0) {body : List Toggle}
    (hroom : 0 < room period body) :
    ∃ reps earlier, body = ⟨period, reps⟩ :: earlier ∧ reps < 0xffffffff ∧
      addCycle period body = ⟨period, reps + 1⟩ :: earlier := by
  cases body with
  | nil => simp [room] at hroom
  | cons last earlier =>
    obtain ⟨lastPeriod, reps⟩ := last
    simp only [room] at hroom
    split at hroom
    · next heq =>
      obtain rfl : lastPeriod = period := heq
      have hless : reps < 0xffffffff := by
        rw [UInt32.lt_iff_toNat_lt]
        exact Nat.lt_of_sub_pos hroom
      refine ⟨reps, earlier, rfl, hless, ?_⟩
      simp [addCycle, isWait_eq_false hperiod, hless]
    · omega

theorem addCycle_of_full {period : UInt32} {body : List Toggle} (hfull : room period body = 0) :
    addCycle period body = ⟨period, 1⟩ :: body := by
  cases body with
  | nil => rfl
  | cons last earlier =>
    rw [addCycle, if_neg]
    intro hmerge
    simp only [Bool.and_eq_true, beq_iff_eq, decide_eq_true_eq] at hmerge
    obtain ⟨⟨_, rfl⟩, hless⟩ := hmerge
    rw [UInt32.lt_iff_toNat_lt] at hless
    simp only [room, if_true] at hfull
    have hbound : (0xffffffff : UInt32).toNat = 0xffffffff := rfl
    omega

/-- Equal cycles are merged while there is room for them. As many of them as a register can count take
at most one instruction more. -/
private theorem length_foldl_cycles {period : UInt32} (hperiod : period ≠ 0) (cycles : Nat) (body : List Toggle) :
    (cycles ≤ room period body →
      ((List.replicate cycles (.cycle period.toNat)).foldl addBeat body).length = body.length) ∧
    (cycles ≤ room period body + 0xffffffff →
      ((List.replicate cycles (.cycle period.toNat)).foldl addBeat body).length ≤ body.length + 1) := by
  induction cycles generalizing body with
  | zero => simp
  | succ cycles ih =>
    rw [List.replicate_succ, List.foldl_cons, addBeat_cycle]
    by_cases hroom : 0 < room period body
    · obtain ⟨reps, earlier, rfl, hless, hadd⟩ := addCycle_of_room hperiod hroom
      have hsucc : (reps + 1).toNat = reps.toNat + 1 := toNat_succ hless
      have hleft : room period (addCycle period (⟨period, reps⟩ :: earlier)) + 1 =
          room period (⟨period, reps⟩ :: earlier) := by
        simp only [room, if_true] at hroom
        simp only [hadd, room, if_true, hsucc]
        omega
      obtain ⟨hmerged, hmore⟩ := ih (addCycle period (⟨period, reps⟩ :: earlier))
      rw [hadd] at hmerged hmore hleft ⊢
      simp only [List.length_cons] at hmerged hmore ⊢
      exact ⟨fun hcycles => hmerged (by omega), fun hcycles => hmore (by omega)⟩
    · have hadd := addCycle_of_full (by omega : room period body = 0)
      have hnew : room period (addCycle period body) = 0xfffffffe := by
        rw [hadd]
        simp [room]
      obtain ⟨hmerged, _⟩ := ih (addCycle period body)
      rw [hadd] at hmerged hnew ⊢
      refine ⟨fun hcycles => by omega, fun hcycles => ?_⟩
      rw [hmerged (by omega), List.length_cons]

/-- The beats of one instruction take at most one instruction more. -/
private theorem length_foldl_beats_le (instruction : Toggle) (body : List Toggle) :
    (instruction.beats.foldl addBeat body).length ≤ body.length + 1 := by
  obtain ⟨period, reps⟩ := instruction
  by_cases hperiod : period = 0
  · subst period
    have hwait : beats ⟨0, reps⟩ = [.wait] := rfl
    rw [hwait, List.foldl_cons, List.foldl_nil, addBeat, List.length_cons]
  · have hreps := reps.toNat_lt
    rw [beats_eq_replicate hperiod]
    exact (length_foldl_cycles hperiod reps.toNat body).2 (by omega)

/-- However the beats of some instructions are cut up, merging them does not take more instructions. -/
theorem length_merged_expand_le (body : List Toggle) : (merged (expand body)).length ≤ body.length := by
  induction body using List.reverseRecOn with
  | nil => simp [merged]
  | append_singleton body instruction ih =>
    have hlast := length_foldl_beats_le instruction (merged (expand body))
    have hbeats : merged (expand (body ++ [instruction])) =
        instruction.beats.foldl addBeat (merged (expand body)) := by
      simp [merged, List.foldl_append]
    rw [hbeats, List.length_append, List.length_singleton]
    omega

/-- Instructions, the last one first, into which their own beats are merged. -/
def IsMerged (body : List Toggle) : Prop :=
  merged (expand body.reverse) = body

theorem IsMerged.isShortest {body : List Toggle} (hmerged : IsMerged body) : IsShortest body.reverse := by
  intro other hother
  have hlength := length_merged_expand_le other
  rw [hother, hmerged] at hlength
  rwa [List.length_reverse]

/-- Instructions that run cycles run at least one, and none that is too short. -/
def IsAdmissible (least : UInt32) (body : List Toggle) : Prop :=
  ∀ instruction ∈ body, isWait instruction = false → 1 ≤ instruction.reps ∧ least ≤ instruction.period

/-- Of instructions, the last one first, no two neighbours have the same period unless the register of the
earlier one is full. -/
def IsSeparate (body : List Toggle) : Prop :=
  body.IsChain fun later earlier =>
    isWait later = false → later.period = earlier.period → earlier.reps = 0xffffffff

/-- A property of instructions, the last one first, that they keep whatever is compiled next. -/
structure IsKept (least : UInt32) (property : List Toggle → Prop) : Prop where
  nil : property []
  wait : ∀ body, property body → property (wait :: body)
  cycle : ∀ period body, period ≠ 0 → least ≤ period → property body → property (addCycle period body)

variable {least : UInt32}

theorem isKept_isMerged : IsKept least IsMerged where
  nil := rfl
  wait body hbody := by
    rw [IsMerged, List.reverse_cons, expand_append, merged, List.foldl_append]
    change addBeat (merged (expand body.reverse)) .wait = _
    rw [hbody, addBeat]
  cycle period body hperiod _ hbody := by
    rw [IsMerged, expand_addCycle hperiod, merged, List.foldl_append]
    change addBeat (merged (expand body.reverse)) (.cycle period.toNat) = _
    rw [hbody, addBeat_cycle]

theorem isKept_isAdmissible : IsKept least (IsAdmissible least) where
  nil := by simp [IsAdmissible]
  wait body hbody := by
    intro instruction hmem hcycles
    rcases List.mem_cons.mp hmem with rfl | hmem
    · cases hcycles
    · exact hbody instruction hmem hcycles
  cycle period body hperiod hleast hbody := by
    intro instruction hmem hcycles
    by_cases hroom : 0 < room period body
    · obtain ⟨reps, earlier, rfl, hless, hadd⟩ := addCycle_of_room hperiod hroom
      rw [hadd] at hmem
      rcases List.mem_cons.mp hmem with rfl | hmem
      · have hsucc := toNat_succ hless
        refine ⟨?_, hleast⟩
        rw [UInt32.le_iff_toNat_le, hsucc]
        exact Nat.le_add_left 1 _
      · exact hbody instruction (List.mem_cons_of_mem _ hmem) hcycles
    · rw [addCycle_of_full (by omega)] at hmem
      rcases List.mem_cons.mp hmem with rfl | hmem
      · exact ⟨UInt32.le_refl 1, hleast⟩
      · exact hbody instruction hmem hcycles

theorem isKept_isSeparate : IsKept least IsSeparate where
  nil := .nil
  wait body hbody := by
    cases body with
    | nil => exact .singleton _
    | cons last earlier =>
      refine .cons_cons (fun hcycles => ?_) hbody
      cases hcycles
  cycle period body hperiod _ hbody := by
    by_cases hroom : 0 < room period body
    · obtain ⟨reps, earlier, rfl, _, hadd⟩ := addCycle_of_room hperiod hroom
      rw [hadd]
      -- Whether neighbours are apart does not depend on how often the later one is repeated.
      cases hbody with
      | singleton => exact .singleton _
      | cons_cons hapart hrest => exact .cons_cons hapart hrest
    · have hfull : room period body = 0 := by omega
      rw [addCycle_of_full hfull]
      cases body with
      | nil => exact .singleton _
      | cons last earlier =>
        refine .cons_cons (fun _ hsame => ?_) hbody
        have hbound := last.reps.toNat_lt
        rw [room, if_pos hsame.symm] at hfull
        refine UInt32.toNat_inj.mp ?_
        change last.reps.toNat = 0xffffffff
        omega

end Toggle

namespace Timeline

open Toggle (IsKept IsMerged IsAdmissible IsSeparate IsShortest)

variable {capabilities : Capabilities}

/-- What instructions keep is true of everything that events are compiled to. -/
theorem clockCycles_keeps {property : List Toggle → Prop} (hkept : IsKept capabilities.minPeriod property)
    (hperiod : 0 < capabilities.minPeriod.toNat) {segment : Segment} {rise : Option Int}
    {body after : List Toggle} {timeline : Timeline} (hbody : property body)
    (hok : clockCycles capabilities segment rise body timeline = .ok after) : property after := by
  unfold clockCycles at hok
  fun_induction clockCyclesWith exactDifference capabilities segment rise body timeline with
  | case1 => exact Except.ok.inj hok ▸ hbody
  | case4 _ body _ _ _ ih => exact ih (hkept.wait body hbody) hok
  | case7 _ _ _ _ _ _ _ _ ih => exact ih hbody hok
  | case9 segment body event rest rise _ position fall ih =>
    obtain ⟨_, hok⟩ := check_bind_eq_ok_iff.mp hok
    obtain ⟨period, hhigh, hok⟩ := bind_eq_ok_iff.mp hok
    obtain ⟨⟨hleast, _⟩, heq⟩ := (capabilities.decides_periodOf (fall - rise) event.time).of_eq_ok hhigh
    have hle : capabilities.minPeriod.toNat ≤ period.toNat := by omega
    have hne : period ≠ 0 := by
      rintro rfl
      simp only [UInt32.toNat_zero] at hle
      omega
    exact ih period (hkept.cycle period body hne (UInt32.le_iff_toNat_le.mpr hle) hbody) hok
  | _ => cases hok

/-- The instructions of a clock line, the last one first, and what becomes of them. -/
private theorem compileToggle_of_isClockLine (hvalid : capabilities.validate = .ok ()) {timeline : Timeline}
    (hline : timeline.IsClockLine capabilities) :
    ∃ body, timeline.clockCycles capabilities .first none [] = .ok body ∧
      Toggle.expand body.reverse = beatsBehind capabilities [] timeline ∧
      timeline.compileToggle capabilities =
        if capabilities.maxInstructions.toNat < body.length + stopLength then
          .error (.capacityExceeded (body.length + stopLength) capabilities.maxInstructions.toNat)
        else .ok (Program.ofBody body.reverse) := by
  obtain ⟨hchronological, hspells⟩ := (isClockLine_iff timeline).mp hline
  obtain ⟨_, hperiod⟩ := Capabilities.validate_eq_ok hvalid
  obtain ⟨_, htimes, _⟩ := (decides_checkTimes timeline).exists_ok hchronological
  obtain ⟨body, hbody, beats, hbeats, hextends⟩ :=
    (decides_clockCycles hperiod .first [] timeline).exists_ok hspells
  refine ⟨body, hbody, ?_, ?_⟩
  · have hexpand := hextends.expand_eq
    rw [List.reverse_nil, Toggle.expand_nil, List.nil_append] at hexpand
    rw [hexpand, hbeats.eq_beatsBehind]
  · rw [compileToggle_eq, hvalid, htimes, hbody]
    change (capabilities.checkCapacity body.length >>= _) = _
    rw [Capabilities.checkCapacity]
    split <;> rfl

/-- How often a clock line rises. -/
def rises (timeline : Timeline) : Nat :=
  timeline.countP (·.kind = .level 1)

private theorem Spells.countP_isCycle {segment : Segment} {timeline : Timeline} {beats : List Beat}
    (hspells : Spells capabilities segment timeline beats) : beats.countP Beat.isCycle = timeline.rises := by
  induction hspells with
  | nil segment => rfl
  | wait time hrest ih => simpa [rises, Beat.isCycle] using ih
  | cycle hstart hcycle hrest ih => simpa [rises, Beat.isCycle, List.countP_cons] using ih

/-- In a clock line that rises no more often than a register can count, no register is full. -/
private theorem reps_lt_of_rises {timeline : Timeline} (hfew : timeline.rises ≤ 0xffffffff)
    {front back : List Toggle} {first second : Toggle}
    (hspells : Spells capabilities .first timeline (Toggle.expand (front ++ first :: second :: back)))
    (hfirst : isWait first = false) (hsecond : isWait second = false) (hruns : 1 ≤ second.reps) :
    first.reps ≠ 0xffffffff := by
  have hcycles : ∀ instruction : Toggle, isWait instruction = false →
      instruction.beats.countP Beat.isCycle = instruction.reps.toNat := by
    intro instruction hwait
    rw [Toggle.beats, hwait, List.countP_eq_length.mpr]
    · exact List.length_replicate
    · intro beat hbeat
      obtain ⟨_, rfl⟩ := List.mem_replicate.mp hbeat
      rfl
  have hcount := hspells.countP_isCycle
  simp only [Toggle.expand_append, Toggle.expand_cons, List.countP_append, hcycles first hfirst,
    hcycles second hsecond] at hcount
  have hone : 1 ≤ second.reps.toNat := UInt32.le_iff_toNat_le.mp hruns
  intro hfull
  have hfirstReps : first.reps.toNat = 0xffffffff := by rw [hfull]; rfl
  omega

/-- What the instructions of a clock line keep, in the order in which they run. -/
private theorem kept_of_clockCycles (hperiod : 0 < capabilities.minPeriod.toNat) {timeline : Timeline}
    {body : List Toggle} (hbody : timeline.clockCycles capabilities .first none [] = .ok body) :
    IsShortest body.reverse ∧ IsAdmissible capabilities.minPeriod body.reverse ∧
      body.reverse.IsChain fun earlier later =>
        isWait later = false → later.period = earlier.period → earlier.reps = 0xffffffff := by
  have hmerged : IsKept capabilities.minPeriod IsMerged := Toggle.isKept_isMerged
  have hadmissible : IsKept capabilities.minPeriod (IsAdmissible _) := Toggle.isKept_isAdmissible
  have hseparate : IsKept capabilities.minPeriod IsSeparate := Toggle.isKept_isSeparate
  refine ⟨(clockCycles_keeps hmerged hperiod hmerged.nil hbody).isShortest, fun instruction hmem => ?_,
    List.isChain_reverse.mpr (clockCycles_keeps hseparate hperiod hseparate.nil hbody)⟩
  exact clockCycles_keeps hadmissible hperiod hadmissible.nil hbody instruction (List.mem_reverse.mp hmem)

/-- The program of a clock line is as short as a program with its beats can be: it has room, no instruction
without cycles and, unless there are more cycles than a register can count, no neighbours of one period.
A clock line has no program exactly if even the shortest one would not fit, and the refusal tells how much
room that one needs. -/
theorem compileToggle_isShortest (hvalid : capabilities.validate = .ok ()) (timeline : Timeline) :
    (∀ program, timeline.compileToggle capabilities = .ok program →
      IsShortest program.body ∧ program.length ≤ capabilities.maxInstructions.toNat ∧
      IsAdmissible capabilities.minPeriod program.body ∧
      (timeline.rises ≤ 0xffffffff → ∀ front first second back,
        program.body = front ++ first :: second :: back → isWait first = false → isWait second = false →
          first.period ≠ second.period)) ∧
    ∀ required room, timeline.compileToggle capabilities = .error (.capacityExceeded required room) ↔
      timeline.IsClockLine capabilities ∧ ∃ shortest, IsShortest shortest ∧
        Toggle.expand shortest = beatsBehind capabilities [] timeline ∧ room < required ∧
        required = shortest.length + stopLength ∧ room = capabilities.maxInstructions.toNat := by
  obtain ⟨_, hperiod⟩ := Capabilities.validate_eq_ok hvalid
  rcases compileToggle_spec hvalid timeline with ⟨hline, _⟩ | ⟨hnot, fault, hrefused⟩
  · obtain ⟨body, hbody, hexpand, hcompile⟩ := compileToggle_of_isClockLine hvalid hline
    obtain ⟨hshortest, hadmissible, hchain⟩ := kept_of_clockCycles hperiod hbody
    constructor
    · intro program hprogram
      rw [hcompile] at hprogram
      split at hprogram
      · cases hprogram
      · next hroom =>
        have hspells := (compileToggle_eq_ok (hcompile.trans (if_neg hroom))).2.spells
        obtain rfl := Except.ok.inj hprogram
        rw [Program.body_ofBody] at hspells ⊢
        refine ⟨hshortest, ?_, hadmissible, fun hfew front first second back hsplit hfirst hsecond hsame => ?_⟩
        · rw [← Program.length_body, Program.body_ofBody, List.length_reverse]
          omega
        · rw [hsplit] at hchain hspells hadmissible
          obtain ⟨_, hapart, _⟩ := List.isChain_append_cons_cons.mp hchain
          obtain ⟨hruns, _⟩ := hadmissible second (by simp) hsecond
          exact reps_lt_of_rises hfew hspells hfirst hsecond hruns (hapart hsecond hsame.symm)
    · intro required room
      constructor
      · intro hfull
        rw [hcompile] at hfull
        split at hfull
        · next hroom =>
          cases hfull
          exact ⟨hline, body.reverse, hshortest, hexpand, hroom, by rw [List.length_reverse], rfl⟩
        · cases hfull
      · rintro ⟨_, shortest, hother, hbeats, hroom, rfl, rfl⟩
        have hlength : shortest.length = body.length := by
          have hle := hother body.reverse (hexpand.trans hbeats.symm)
          have hge := hshortest shortest (hbeats.trans hexpand.symm)
          rw [List.length_reverse] at hle hge
          omega
        rw [hlength] at hroom ⊢
        rw [hcompile, if_pos hroom]
  · constructor
    · intro program hprogram
      rw [hrefused] at hprogram
      cases hprogram
    · intro required room
      rw [hrefused]
      constructor
      · intro hfull
        cases hfull
      · rintro ⟨hline, _⟩
        exact absurd hline hnot

/-- With room for one instruction beside the stop sequence, two pulses fit if they are equally long, and
otherwise nothing with their beats does. -/
theorem compileToggle_isShortest_pulses :
    (⟨1, 3, 1⟩ : Capabilities).validate = .ok () ∧
    compileToggle [⟨0, .level 1⟩, ⟨1, .level 0⟩, ⟨2, .level 1⟩, ⟨3, .level 0⟩] ⟨1, 3, 1⟩ =
      .ok (Program.ofBody [⟨2, 2⟩]) ∧
    IsShortest [⟨2, 2⟩] ∧
    ∃ shortest, IsShortest shortest ∧ Toggle.expand shortest = [.cycle 2, .cycle 4] ∧ shortest.length = 2 := by
  have hvalid : (⟨1, 3, 1⟩ : Capabilities).validate = .ok () := rfl
  have hequal : compileToggle [⟨0, .level 1⟩, ⟨1, .level 0⟩, ⟨2, .level 1⟩, ⟨3, .level 0⟩] ⟨1, 3, 1⟩ =
      .ok (Program.ofBody [⟨2, 2⟩]) := rfl
  have hunequal : compileToggle [⟨0, .level 1⟩, ⟨1, .level 0⟩, ⟨2, .level 1⟩, ⟨4, .level 0⟩] ⟨1, 3, 1⟩ =
      .error (.capacityExceeded 4 3) := rfl
  have hbeats : beatsBehind ⟨1, 3, 1⟩ [] [⟨0, .level 1⟩, ⟨1, .level 0⟩, ⟨2, .level 1⟩, ⟨4, .level 0⟩] =
      [.cycle 2, .cycle 4] := by decide +kernel
  obtain ⟨hshortest, _⟩ := (compileToggle_isShortest hvalid _).1 _ hequal
  obtain ⟨_, shortest, hleast, hexpand, _, hrequired, _⟩ :=
    ((compileToggle_isShortest hvalid _).2 4 3).mp hunequal
  refine ⟨hvalid, hequal, hshortest, shortest, hleast, hexpand.trans hbeats, ?_⟩
  exact Nat.add_right_cancel hrequired.symm

end Timeline

end Pseudoclock
