import Mathlib
import Pseudoclock.Proofs.ClockLine.Beats
import Pseudoclock.Proofs.Timeline.Chronology
import Pseudoclock.Proofs.Timeline.Stretch

/-!
The timelines that are accepted for a clock line, described by what stands where in them and not by a
state that is carried along.
-/

namespace Pseudoclock

namespace Timeline

/-- Waits, and pairs of a rise and a fall, in any order. -/
inductive Alternates : Timeline → Prop
  | nil : Alternates []
  | wait {rest : Timeline} (time : Float) (hrest : Alternates rest) : Alternates (⟨time, .wait⟩ :: rest)
  | cycle {rest : Timeline} (rise fall : Float) (hrest : Alternates rest) :
      Alternates (⟨rise, .level 1⟩ :: ⟨fall, .level 0⟩ :: rest)

/-- Where the positions of a cycle are counted from that rises at `rise` behind the events `before`. This
is the first rise since the last wait, which may be that of the cycle itself. -/
def originBehind (before : Timeline) (rise : Float) : Float :=
  match before.sinceWait? with
  | none => 0
  | some since => ((since.find? (·.kind = .level 1)).map (·.time)).getD rise

/-- The beats of events behind the events `before`: every wait, and every rise with the event after it. -/
def beatsBehind (capabilities : Capabilities) (before : Timeline) : Timeline → List Beat
  | [] => []
  | ⟨time, .wait⟩ :: rest => .wait :: beatsBehind capabilities (before ++ [⟨time, .wait⟩]) rest
  | [⟨_, .level _⟩] => []
  | ⟨rise, .level level⟩ :: fall :: rest =>
    let position := capabilities.position (before.originBehind rise)
    .cycle (position fall.time - position rise) ::
      beatsBehind capabilities (before ++ [⟨rise, .level level⟩, fall]) rest

/-- Every rise with a fall after it makes a cycle, where the events come behind the events `before`. -/
def HasCycles (capabilities : Capabilities) (before timeline : Timeline) : Prop :=
  ∀ between rise fall after, timeline = between ++ ⟨rise, .level 1⟩ :: ⟨fall, .level 0⟩ :: after →
    IsCycle capabilities (capabilities.position ((before ++ between).originBehind rise)) rise fall after

/-- The timelines of a clock line. -/
structure IsClockLine (capabilities : Capabilities) (timeline : Timeline) : Prop where
  isChronological : timeline.IsChronological
  alternates : timeline.Alternates
  hasCycles : HasCycles capabilities [] timeline
  /-- The first rise is at program start, unless there is a wait before it. -/
  startsHigh : ∀ before rise after, timeline = before ++ ⟨rise, .level 1⟩ :: after →
    (∀ event ∈ before, event.isWait = false ∧ event.kind ≠ .level 1) → capabilities.position 0 rise = 0

variable {capabilities : Capabilities}

private theorem originBehind_append_wait (before : Timeline) (time rise : Float) :
    originBehind (before ++ [⟨time, .wait⟩]) rise = rise := by
  have hsince : sinceWait? [⟨time, .wait⟩] = some [] := rfl
  simp [originBehind, sinceWait?_append, hsince]

private theorem originBehind_append_cycle (before : Timeline) (rise fall later : Float) :
    originBehind (before ++ [⟨rise, .level 1⟩, ⟨fall, .level 0⟩]) later = before.originBehind rise := by
  have hsince : sinceWait? [⟨rise, .level 1⟩, ⟨fall, .level 0⟩] = none := rfl
  rw [originBehind, originBehind, sinceWait?_append, hsince]
  cases before.sinceWait? with
  | none => rfl
  | some since => cases hfind : since.find? (·.kind = .level 1) <;> simp [hfind]

private theorem hasCycles_wait (before rest : Timeline) (time : Float) :
    HasCycles capabilities before (⟨time, .wait⟩ :: rest) ↔
      HasCycles capabilities (before ++ [⟨time, .wait⟩]) rest := by
  constructor
  · intro h between rise fall after heq
    simpa using h (⟨time, .wait⟩ :: between) rise fall after (by simp [heq])
  · intro h between rise fall after heq
    cases between with
    | nil => simp at heq
    | cons event between =>
      simp only [List.cons_append, List.cons.injEq] at heq
      obtain ⟨rfl, heq⟩ := heq
      simpa using h between rise fall after heq

private theorem hasCycles_cycle (before rest : Timeline) (rise fall : Float) :
    HasCycles capabilities before (⟨rise, .level 1⟩ :: ⟨fall, .level 0⟩ :: rest) ↔
      IsCycle capabilities (capabilities.position (before.originBehind rise)) rise fall rest ∧
        HasCycles capabilities (before ++ [⟨rise, .level 1⟩, ⟨fall, .level 0⟩]) rest := by
  constructor
  · intro h
    refine ⟨by simpa using h [] rise fall rest rfl, fun between rise' fall' after heq => ?_⟩
    simpa using h (⟨rise, .level 1⟩ :: ⟨fall, .level 0⟩ :: between) rise' fall' after (by simp [heq])
  · rintro ⟨hcycle, h⟩ between rise' fall' after heq
    -- A pair that begins one event later would begin with the fall.
    rcases between with _ | ⟨event, _ | ⟨event', between⟩⟩
    · simp only [List.nil_append, List.cons.injEq, Event.mk.injEq, and_true] at heq
      obtain ⟨rfl, rfl, rfl⟩ := heq
      simpa using hcycle
    · simp at heq
    · simp only [List.cons_append, List.cons.injEq] at heq
      obtain ⟨rfl, rfl, heq⟩ := heq
      simpa using h between rise' fall' after heq

/-- What a segment knows of the events `before`: where the next cycle counts from, and whether there
were any. -/
private structure Tracks (before : Timeline) (segment : Segment) : Prop where
  origin_eq : ∀ rise, segment.origin rise = before.originBehind rise
  eq_first_iff : segment = .first ↔ before = []

private theorem Tracks.nil : Tracks [] .first :=
  ⟨fun _ => rfl, by simp⟩

private theorem Tracks.wait (before : Timeline) (time : Float) :
    Tracks (before ++ [⟨time, .wait⟩]) .pending :=
  ⟨fun rise => (originBehind_append_wait before time rise).symm, by simp⟩

private theorem Tracks.cycle {before : Timeline} {segment : Segment} (htracks : Tracks before segment)
    (rise fall : Float) :
    Tracks (before ++ [⟨rise, .level 1⟩, ⟨fall, .level 0⟩]) (.running (segment.origin rise)) :=
  ⟨fun later => (htracks.origin_eq rise).trans (originBehind_append_cycle before rise fall later).symm,
    by simp⟩

/-- A first event that rises is at program start, unless something came before it. -/
private def StartsHigh (capabilities : Capabilities) (segment : Segment) (timeline : Timeline) : Prop :=
  segment = .first → ∀ rise after, timeline = ⟨rise, .level 1⟩ :: after → capabilities.position 0 rise = 0

private theorem Spells.alternates {segment : Segment} {timeline : Timeline} {beats : List Beat}
    (hspells : Spells capabilities segment timeline beats) : timeline.Alternates := by
  induction hspells with
  | nil segment => exact .nil
  | wait time hrest ih => exact .wait time ih
  | cycle hstart hcycle hrest ih => exact .cycle _ _ ih

private theorem Spells.startsHigh {segment : Segment} {timeline : Timeline} {beats : List Beat}
    (hspells : Spells capabilities segment timeline beats) : StartsHigh capabilities segment timeline := by
  rintro rfl rise after rfl
  cases hspells with
  | cycle hstart hcycle hrest => exact hstart rfl

private theorem Spells.hasCycles {before : Timeline} {segment : Segment} (htracks : Tracks before segment)
    {timeline : Timeline} {beats : List Beat} (hspells : Spells capabilities segment timeline beats) :
    HasCycles capabilities before timeline ∧ beats = beatsBehind capabilities before timeline := by
  induction hspells generalizing before with
  | nil segment =>
    exact ⟨fun between rise fall after heq => by simp at heq, rfl⟩
  | wait time hrest ih =>
    obtain ⟨hcycles, rfl⟩ := ih (.wait before time)
    exact ⟨(hasCycles_wait before _ time).mpr hcycles, rfl⟩
  | @cycle segment rise fall rest beats hstart hcycle hrest ih =>
    obtain ⟨hcycles, rfl⟩ := ih (htracks.cycle rise fall)
    rw [htracks.origin_eq rise] at hcycle ⊢
    exact ⟨(hasCycles_cycle before rest rise fall).mpr ⟨hcycle, hcycles⟩, rfl⟩

private theorem spells_of_alternates {before : Timeline} {segment : Segment} (htracks : Tracks before segment)
    {timeline : Timeline} (halternates : timeline.Alternates)
    (hcycles : HasCycles capabilities before timeline) (hstarts : StartsHigh capabilities segment timeline) :
    Spells capabilities segment timeline (beatsBehind capabilities before timeline) := by
  induction halternates generalizing before segment with
  | nil => exact .nil segment
  | wait time hrest ih =>
    have hcycles := (hasCycles_wait before _ time).mp hcycles
    exact .wait time (ih (.wait before time) hcycles (by rintro ⟨⟩))
  | @cycle rest rise fall hrest ih =>
    obtain ⟨hcycle, hcycles⟩ := (hasCycles_cycle before rest rise fall).mp hcycles
    rw [← htracks.origin_eq rise] at hcycle
    have hrest := ih (htracks.cycle rise fall) hcycles (by rintro ⟨⟩)
    rw [beatsBehind, ← htracks.origin_eq rise]
    refine .cycle ?_ hcycle hrest
    rintro rfl
    exact hstarts rfl rise _ rfl

/-- In a timeline that alternates, a first rise with no wait before it has nothing before it. -/
private theorem startsHigh_iff {timeline : Timeline} (halternates : timeline.Alternates) :
    StartsHigh capabilities .first timeline ↔
      ∀ before rise after, timeline = before ++ ⟨rise, .level 1⟩ :: after →
        (∀ event ∈ before, event.isWait = false ∧ event.kind ≠ .level 1) →
          capabilities.position 0 rise = 0 := by
  constructor
  · intro hstarts before rise after heq hbefore
    cases before with
    | nil => exact hstarts rfl rise after heq
    | cons event before =>
      obtain ⟨hwait, hrise⟩ := hbefore event (by simp)
      obtain rfl : timeline = event :: (before ++ ⟨rise, .level 1⟩ :: after) := heq
      generalize before ++ ⟨rise, .level 1⟩ :: after = rest at halternates
      cases halternates with
      | wait time hrest => exact absurd hwait (by simp [Event.isWait])
      | cycle rise fall hrest => exact absurd rfl hrise
  · intro h _ rise after heq
    exact h [] rise after heq (by simp)

/-- The timelines of a clock line are those that spell beats from program start. -/
theorem isClockLine_iff (timeline : Timeline) :
    timeline.IsClockLine capabilities ↔
      timeline.IsChronological ∧ ∃ beats, Spells capabilities .first timeline beats := by
  constructor
  · rintro ⟨hchronological, halternates, hcycles, hstarts⟩
    exact ⟨hchronological, _,
      spells_of_alternates .nil halternates hcycles ((startsHigh_iff halternates).mpr hstarts)⟩
  · rintro ⟨hchronological, beats, hspells⟩
    exact ⟨hchronological, hspells.alternates, (hspells.hasCycles .nil).1,
      (startsHigh_iff hspells.alternates).mp hspells.startsHigh⟩

/-- The beats that a timeline spells are those that can be read off it. -/
theorem Spells.eq_beatsBehind {timeline : Timeline} {beats : List Beat}
    (hspells : Spells capabilities .first timeline beats) : beats = beatsBehind capabilities [] timeline :=
  (hspells.hasCycles .nil).2

/-- A program plays the beats of a timeline, and none of its instructions is without an effect. -/
structure IsProgramOf (capabilities : Capabilities) (timeline : Timeline) (program : Program Toggle) :
    Prop where
  spells : Spells capabilities .first timeline (Toggle.expand program.body)
  beats_ne_nil : ∀ instruction ∈ program.body, instruction.beats ≠ []

/-- Before it is known whether there is room for them, instructions are decided on. -/
private theorem decides_body (hvalid : capabilities.validate = .ok ()) (timeline : Timeline) :
    Decides (timeline.checkTimes >>= fun _ => timeline.clockCycles capabilities .first none [])
      (timeline.IsClockLine capabilities) fun reversed =>
        IsProgramOf capabilities timeline (Program.ofBody reversed.reverse) := by
  obtain ⟨_, hperiod⟩ := Capabilities.validate_eq_ok hvalid
  refine (decides_checkTimes timeline).bind (fun hchronological _ _ => ?_) (·.isChronological)
  refine (decides_clockCycles hperiod .first [] timeline).imp ?_ ?_
  · exact ⟨fun hspells => (isClockLine_iff timeline).mpr ⟨hchronological, hspells⟩,
      fun hline => ((isClockLine_iff timeline).mp hline).2⟩
  · rintro after ⟨beats, hspells, hextends⟩
    refine ⟨?_, by simpa using hextends.beats_ne_nil (by simp)⟩
    simpa [hextends.expand_eq] using hspells

/-- A clock line has a program, which is returned if the device has room for it. -/
theorem compileToggle_spec (hvalid : capabilities.validate = .ok ()) (timeline : Timeline) :
    (timeline.IsClockLine capabilities ∧ ∃ program, IsProgramOf capabilities timeline program ∧
      timeline.compileToggle capabilities =
        if capabilities.maxInstructions.toNat < program.length then
          .error (.capacityExceeded program.length capabilities.maxInstructions.toNat)
        else .ok program) ∨
    (¬ timeline.IsClockLine capabilities ∧
      ∃ fault, timeline.compileToggle capabilities = .error (.invalidTimeline fault)) := by
  have hcompile : timeline.compileToggle capabilities =
      (timeline.checkTimes >>= fun _ => timeline.clockCycles capabilities .first none []) >>= fun reversed =>
        capabilities.checkCapacity reversed.length >>= fun _ => .ok (Program.ofBody reversed.reverse) := by
    rw [compileToggle_eq, hvalid]
    cases timeline.checkTimes <;> rfl
  rw [hcompile]
  rcases decides_body hvalid timeline with ⟨hline, reversed, hbody, hprogram⟩ | ⟨hnot, fault, hbody⟩
  · refine .inl ⟨hline, _, hprogram, ?_⟩
    rw [hbody, Program.length_ofBody, List.length_reverse]
    change (capabilities.checkCapacity reversed.length >>= _) = _
    rw [Capabilities.checkCapacity]
    split <;> rfl
  · exact .inr ⟨hnot, fault, by rw [hbody]; rfl⟩

theorem compileToggle_eq_ok {timeline : Timeline} {program : Program Toggle}
    (hcompile : timeline.compileToggle capabilities = .ok program) :
    timeline.IsChronological ∧ IsProgramOf capabilities timeline program := by
  have hvalid : capabilities.validate = .ok () := by
    rw [compileToggle_eq, check_bind_eq_ok_iff] at hcompile
    exact hcompile.1
  rcases compileToggle_spec hvalid timeline with ⟨hline, program', hprogram, heq⟩ | ⟨_, fault, heq⟩
  · rw [heq] at hcompile
    split at hcompile
    · cases hcompile
    · cases hcompile
      exact ⟨hline.isChronological, hprogram⟩
  · rw [heq] at hcompile
    cases hcompile

/-- Timelines are refused as invalid exactly if they are not those of a clock line. Otherwise there is a
program with one beat for each wait and for each cycle, unless the device has no room for it. -/
theorem compileToggle_accepts (hvalid : capabilities.validate = .ok ()) (timeline : Timeline) :
    ((∃ fault, timeline.compileToggle capabilities = .error (.invalidTimeline fault)) ↔
      ¬ timeline.IsClockLine capabilities) ∧
    (timeline.IsClockLine capabilities →
      (∃ program, timeline.compileToggle capabilities = .ok program ∧
        Toggle.expand program.body = beatsBehind capabilities [] timeline) ∨
      (∃ required room, timeline.compileToggle capabilities = .error (.capacityExceeded required room))) := by
  rcases compileToggle_spec hvalid timeline with ⟨hline, program, hprogram, heq⟩ | ⟨hnot, fault, heq⟩
  · refine ⟨⟨fun ⟨fault, herror⟩ => ?_, fun hnot => absurd hline hnot⟩, fun _ => ?_⟩
    · rw [heq] at herror
      split at herror <;> cases herror
    · by_cases hroom : capabilities.maxInstructions.toNat < program.length
      · exact .inr ⟨_, _, by rw [heq, if_pos hroom]⟩
      · exact .inl ⟨program, by rw [heq, if_neg hroom], hprogram.spells.eq_beatsBehind⟩
  · exact ⟨⟨fun _ => hnot, fun _ => ⟨fault, heq⟩⟩, fun hline => absurd hline hnot⟩

/-- A pulse with a wait behind it is compiled to a cycle and a wait, and one that a wait cuts off is refused. -/
theorem compileToggle_accepts_pulse :
    (⟨1, 8, 1⟩ : Capabilities).validate = .ok () ∧
    IsClockLine ⟨1, 8, 1⟩ [⟨0, .level 1⟩, ⟨1, .level 0⟩, ⟨2, .wait⟩] ∧
    (∃ program, compileToggle [⟨0, .level 1⟩, ⟨1, .level 0⟩, ⟨2, .wait⟩] ⟨1, 8, 1⟩ = .ok program ∧
      program.body = [⟨2, 1⟩, Toggle.wait] ∧ Toggle.expand program.body = [.cycle 2, .wait] ∧
      beatsBehind ⟨1, 8, 1⟩ [] [⟨0, .level 1⟩, ⟨1, .level 0⟩, ⟨2, .wait⟩] = [.cycle 2, .wait]) ∧
    ¬ IsClockLine ⟨1, 8, 1⟩ [⟨0, .level 1⟩, ⟨1, .wait⟩] := by
  have hvalid : (⟨1, 8, 1⟩ : Capabilities).validate = .ok () := rfl
  have hok : compileToggle [⟨0, .level 1⟩, ⟨1, .level 0⟩, ⟨2, .wait⟩] ⟨1, 8, 1⟩ =
      .ok (Program.ofBody [⟨2, 1⟩, Toggle.wait]) := rfl
  obtain ⟨hrefused, haccepted⟩ := compileToggle_accepts hvalid [⟨0, .level 1⟩, ⟨1, .level 0⟩, ⟨2, .wait⟩]
  have hline : IsClockLine ⟨1, 8, 1⟩ [⟨0, .level 1⟩, ⟨1, .level 0⟩, ⟨2, .wait⟩] := by
    by_contra hnot
    obtain ⟨fault, herror⟩ := hrefused.mpr hnot
    rw [hok] at herror
    cases herror
  refine ⟨hvalid, hline, ?_, (compileToggle_accepts hvalid _).1.mp ⟨_, rfl⟩⟩
  rcases haccepted hline with ⟨program, hprogram, hbeats⟩ | ⟨_, _, herror⟩
  · obtain rfl := Except.ok.inj (hok.symm.trans hprogram)
    have hexpand : Toggle.expand (Program.ofBody [⟨2, 1⟩, Toggle.wait]).body = [.cycle 2, .wait] := rfl
    exact ⟨_, hok, rfl, hexpand, hbeats.symm.trans hexpand⟩
  · rw [hok] at herror
    cases herror

end Timeline

end Pseudoclock
