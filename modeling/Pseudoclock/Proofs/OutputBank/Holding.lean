import Mathlib
import Pseudoclock.Proofs.Except
import Pseudoclock.Proofs.Timeline.Acceptance
import Pseudoclock.Timeline.OutputBank

/-!
Which instructions an output bank's events are compiled to, event by event: a wait keeps the word before
it, and a word is held until the next event.
-/

namespace Pseudoclock.Timeline

/-- The ticks for which a word is held that begins at `time`: those until the next event, or a single one
at the end of a timeline. -/
structure IsHeldFor (position : Float → Int) (time : Float) (rest : Timeline) (reps : UInt32) : Prop where
  pos : 0 < reps.toNat
  eq_one : rest = [] → reps = 1
  eq_step : ∀ next ∈ rest.head?, (reps.toNat : Int) = position next.time - position time

/-- A word that is held is no wait. -/
theorem IsHeldFor.isWait_eq_false {position : Float → Int} {time : Float} {rest : Timeline} {reps : UInt32}
    (hreps : IsHeldFor position time rest reps) (word : UInt64) : isWait (⟨reps, word⟩ : Snapshot) = false := by
  refine beq_eq_false_iff_ne.mpr ?_
  rintro rfl
  exact absurd hreps.pos (by simp)

/-- The instructions of an output bank's events. `held` is the last word before them, and `origin` the time
of the first word after the last wait. -/
inductive Holds (layout : Layout) (clockResolution : Float) :
    UInt64 → Option Float → Timeline → List Snapshot → Prop
  | nil (held : UInt64) (origin : Option Float) : Holds layout clockResolution held origin [] []
  | wait {held : UInt64} {origin : Option Float} {rest : Timeline} {words : List Snapshot} (time : Float)
      (hrest : Holds layout clockResolution held none rest words) :
      Holds layout clockResolution held origin (⟨time, .wait⟩ :: rest) (Snapshot.wait held :: words)
  | level {held word : UInt64} {origin : Option Float} {time : Float} {rest : Timeline} {reps : UInt32}
      {words : List Snapshot} (hfits : layout.fits word = true)
      (hreps : IsHeldFor (fun later => Ticks.ofLength (later - origin.getD time) clockResolution) time rest reps)
      (hrest : Holds layout clockResolution word (some (origin.getD time)) rest words) :
      Holds layout clockResolution held origin (⟨time, .level word⟩ :: rest) (⟨reps, word⟩ :: words)

/-- A word is held for an acceptable number of ticks, or its event is refused. -/
theorem decides_holdTicks (position : Float → Int) (time : Float) (rest : Timeline) :
    Decides (holdTicks position time rest) (∃ reps, IsHeldFor position time rest reps)
      (IsHeldFor position time rest) := by
  cases rest with
  | nil =>
    have hlast : IsHeldFor position time [] 1 := ⟨by decide, fun _ => rfl, by simp⟩
    exact .accept ⟨1, hlast⟩ hlast
  | cons next rest =>
    simp only [holdTicks_cons]
    split
    · refine .refuse (fun ⟨reps, hreps⟩ => ?_) _
      have hstep := hreps.eq_step next rfl
      have hpos := hreps.pos
      omega
    · split
      · refine .refuse (fun ⟨reps, hreps⟩ => ?_) _
        have hstep := hreps.eq_step next rfl
        have hlt := reps.toNat_lt
        omega
      · have htoNat : (UInt32.ofNat (position next.time - position time).toNat).toNat =
            (position next.time - position time).toNat := UInt32.toNat_ofNat_of_lt' (by simp [UInt32.size]; omega)
        have hheld : IsHeldFor position time (next :: rest)
            (UInt32.ofNat (position next.time - position time).toNat) := by
          refine ⟨by omega, by simp, ?_⟩
          rintro _ ⟨⟩
          omega
        exact .accept ⟨_, hheld⟩ hheld

/-- Events are compiled to the instructions that hold their words, or refused if there are none. -/
theorem decides_bankWords (layout : Layout) (clockResolution : Float) (held : UInt64) (origin : Option Float)
    (timeline : Timeline) :
    Decides (bankWords layout clockResolution held origin timeline)
      (∃ words, Holds layout clockResolution held origin timeline words)
      (Holds layout clockResolution held origin timeline) := by
  induction timeline generalizing held origin with
  | nil => exact .accept ⟨[], .nil held origin⟩ (.nil held origin)
  | cons event rest ih =>
    obtain ⟨time, kind⟩ := event
    cases kind with
    | wait =>
      simp only [bankWords_cons]
      refine (ih held none).bind (fun _ words hwords => .accept ⟨_, .wait time hwords⟩ (.wait time hwords)) ?_
      rintro ⟨_, _ | ⟨_, hrest⟩⟩
      exact ⟨_, hrest⟩
    | level word =>
      simp only [bankWords_cons]
      split
      · next hfits =>
        refine (decides_holdTicks _ time rest).bind (fun _ reps hreps => ?_) ?_
        · refine (ih word (some (origin.getD time))).bind (fun _ words hwords => ?_) ?_
          · exact .accept ⟨_, .level hfits hreps hwords⟩ (.level hfits hreps hwords)
          · rintro ⟨_, _ | _ | ⟨_, _, hrest⟩⟩
            exact ⟨_, hrest⟩
        · rintro ⟨_, _ | _ | ⟨_, hreps, _⟩⟩
          exact ⟨_, hreps⟩
      · next hstray =>
        refine .refuse ?_ _
        rintro ⟨_, _ | _ | ⟨hfits, _, _⟩⟩
        exact hstray hfits

variable {layout : Layout} {clockResolution : Float}

/-- A program that is returned has passed all checks, and there is room for it. -/
theorem compileSnapshot_eq_ok_iff {timeline : Timeline} {capabilities : Capabilities} {program : Program Snapshot} :
    timeline.compileSnapshot layout capabilities = .ok program ↔ capabilities.validate = .ok () ∧
      layout.validate = .ok () ∧ timeline.checkTimes = .ok () ∧
      ∃ words, timeline.bankWords layout capabilities.clockResolution 0 none = .ok words ∧
        capabilities.checkCapacity words.length = .ok () ∧ Program.ofBody words = program := by
  rw [compileSnapshot_eq, check_bind_eq_ok_iff, check_bind_eq_ok_iff, check_bind_eq_ok_iff, bind_eq_ok_iff]
  simp only [check_bind_eq_ok_iff, pure, Except.pure, Except.ok.injEq]

/-- A program that is returned holds the words of its timeline. -/
theorem compileSnapshot_eq_ok {timeline : Timeline} {capabilities : Capabilities} {program : Program Snapshot}
    (hcompile : timeline.compileSnapshot layout capabilities = .ok program) :
    layout.validate = .ok () ∧
      Holds layout capabilities.clockResolution 0 none timeline program.body := by
  obtain ⟨_, hlayout, _, words, hwords, _, rfl⟩ := compileSnapshot_eq_ok_iff.mp hcompile
  rw [Program.body_ofBody]
  exact ⟨hlayout, ((decides_bankWords layout _ 0 none timeline).of_eq_ok hwords).2⟩

/-- Only words that drive existing channels are compiled, those held during waits among them. -/
theorem Holds.fits {held : UInt64} {origin : Option Float} {timeline : Timeline} {words : List Snapshot}
    (hholds : Holds layout clockResolution held origin timeline words) (hheld : layout.fits held = true) :
    ∀ instruction ∈ words, layout.fits instruction.bits = true := by
  induction hholds with
  | nil held origin => simp
  | wait time hrest ih =>
    intro instruction hmem
    rcases List.mem_cons.mp hmem with rfl | hmem
    · exact hheld
    · exact ih hheld instruction hmem
  | level hfits hreps hrest ih =>
    intro instruction hmem
    rcases List.mem_cons.mp hmem with rfl | hmem
    · exact hfits
    · exact ih hfits instruction hmem

end Pseudoclock.Timeline
