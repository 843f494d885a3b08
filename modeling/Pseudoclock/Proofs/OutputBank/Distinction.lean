import Mathlib
import Pseudoclock.Proofs.OutputBank.RoundTrip

/-!
What a snapshot program still tells of the timeline that it was compiled from: the words and waits in their
order, and for how many ticks each word is held. When the first word comes is not among it.
-/

namespace Pseudoclock.Timeline

open Replay (bankPosition)

/-- How many ticks pass from each event of a stretch to the next one, counted from the stretch's origin. -/
def stepsFrom (clockResolution : Float) (stretch : Float × Stretch) : List Int :=
  stretch.2.steps (bankPosition clockResolution stretch.1)

/-- The ticks between the events of an output bank, stretch by stretch. -/
def bankSteps (clockResolution : Float) (timeline : Timeline) : List (List Int) :=
  timeline.bankStretches.map (stepsFrom clockResolution)

/-- The same for events behind a wait, or in a stretch that has begun at `origin`. -/
private def stepsAfter (clockResolution : Float) (isWaiting : Bool) (origin : Option Float) (timeline : Timeline) :
    List (List Int) :=
  (placed (origin.getD (stretchesAfter isWaiting timeline).1.origin) (stretchesAfter isWaiting timeline)).map
    (stepsFrom clockResolution)

variable {layout : Layout} {clockResolution : Float}

private theorem stepsAfter_nil (isWaiting : Bool) (origin : Option Float) :
    stepsAfter clockResolution isWaiting origin [] = [[]] := by
  cases isWaiting <;> rfl

private theorem stepsAfter_wait (origin : Option Float) (time : Float) (rest : Timeline) :
    stepsAfter clockResolution false origin (⟨time, .wait⟩ :: rest) =
      [] :: stepsAfter clockResolution true none rest := rfl

private theorem stepsAfter_wait_of_isWaiting (time : Float) (rest : Timeline) :
    stepsAfter clockResolution true none (⟨time, .wait⟩ :: rest) = stepsAfter clockResolution true none rest := rfl

private theorem stepsAfter_last (isWaiting : Bool) (origin : Option Float) (time : Float) (word : UInt64) :
    stepsAfter clockResolution isWaiting origin [⟨time, .level word⟩] = [[]] := by
  cases isWaiting <;> rfl

/-- An event adds the step to the next one in front of its stretch. -/
private theorem stepsAfter_level (isWaiting : Bool) (origin : Option Float) (time : Float) (word : UInt64)
    (next : Event) (rest : Timeline) :
    ∃ steps others, stepsAfter clockResolution false (some (origin.getD time)) (next :: rest) = steps :: others ∧
      stepsAfter clockResolution isWaiting origin (⟨time, .level word⟩ :: next :: rest) =
        ((bankPosition clockResolution (origin.getD time) next.time -
          bankPosition clockResolution (origin.getD time) time) :: steps) :: others := by
  have hnext := head?_times_stretchesAfter (next :: rest)
  have horigin : ((stretchesAfter false (next :: rest)).1.extend time word).origin = time := rfl
  refine ⟨_, _, rfl, ?_⟩
  rw [stepsAfter, stretchesAfter_level, horigin, placed, List.map_cons, stepsFrom, Stretch.steps_extend hnext]
  rfl

/-- Two events with others behind them have the same steps exactly if they are held for as long, and the events
behind them have the same steps. -/
private theorem stepsAfter_level_eq_iff {origin origin' : Option Float} {time time' : Float} {word word' : UInt64}
    {next next' : Event} {rest rest' : Timeline} {reps reps' : UInt32}
    (hreps : IsHeldFor (bankPosition clockResolution (origin.getD time)) time (next :: rest) reps)
    (hreps' : IsHeldFor (bankPosition clockResolution (origin'.getD time')) time' (next' :: rest') reps')
    (isWaiting : Bool) :
    stepsAfter clockResolution isWaiting origin (⟨time, .level word⟩ :: next :: rest) =
        stepsAfter clockResolution isWaiting origin' (⟨time', .level word'⟩ :: next' :: rest') ↔
      reps = reps' ∧ stepsAfter clockResolution false (some (origin.getD time)) (next :: rest) =
        stepsAfter clockResolution false (some (origin'.getD time')) (next' :: rest') := by
  obtain ⟨steps, others, hrest, hsteps⟩ := stepsAfter_level isWaiting origin time word next rest
  obtain ⟨steps', others', hrest', hsteps'⟩ := stepsAfter_level isWaiting origin' time' word' next' rest'
  rw [hrest, hrest', hsteps, hsteps', ← hreps.eq_step next rfl, ← hreps'.eq_step next' rfl]
  simp only [List.cons.injEq, Int.ofNat_inj, UInt32.toNat_inj, and_assoc]

private theorem word_ne_wait {position : Float → Int} {time : Float} {rest : Timeline} {reps : UInt32}
    (hreps : IsHeldFor position time rest reps) (word held : UInt64) : (⟨reps, word⟩ : Snapshot) ≠ Snapshot.wait held := by
  intro heq
  have hlevel := hreps.isWait_eq_false word
  rw [heq] at hlevel
  cases hlevel

/-- Two timelines behind the same word have the same instructions exactly if they have the same words and waits
in the same order, and the same steps between them. -/
private theorem holds_eq_iff {held : UInt64} {origin origin' : Option Float} {timeline other : Timeline}
    {words words' : List Snapshot} (hholds : Holds layout clockResolution held origin timeline words)
    (hother : Holds layout clockResolution held origin' other words') (isWaiting : Bool)
    (hwaiting : isWaiting = true → origin = none ∧ origin' = none) :
    words = words' ↔ timeline.map (·.kind) = other.map (·.kind) ∧
      stepsAfter clockResolution isWaiting origin timeline = stepsAfter clockResolution isWaiting origin' other := by
  induction hholds generalizing origin' other words' isWaiting with
  | nil held origin =>
    cases hother with
    | nil => simp [stepsAfter_nil]
    | wait => simp
    | level => simp
  | @wait held origin rest words time hrest ih =>
    cases hother with
    | nil => simp
    | wait time' hrest' =>
      have htails := ih hrest' true (by simp)
      cases isWaiting with
      | false => simp [stepsAfter_wait, htails]
      | true =>
        obtain ⟨rfl, rfl⟩ := hwaiting rfl
        simp [stepsAfter_wait_of_isWaiting, htails]
    | level _ hreps' _ => simp [(word_ne_wait hreps' _ held).symm]
  | @level held word origin time rest reps words hfits hreps hrest ih =>
    cases hother with
    | nil => simp
    | wait => simp [word_ne_wait hreps]
    | @level _ word' _ time' rest' reps' words' hfits' hreps' hrest' =>
      by_cases hword : word = word'
      · subst hword
        have htails := ih hrest' false (by simp)
        -- A last word is held for one tick; any other word is held until the event behind it.
        rcases rest with _ | ⟨next, rest⟩ <;> rcases rest' with _ | ⟨next', rest'⟩
        · simp [hreps.eq_one rfl, hreps'.eq_one rfl, htails, stepsAfter_last, stepsAfter_nil]
        · simp [htails]
        · simp [htails]
        · rw [stepsAfter_level_eq_iff hreps hreps', List.cons.injEq, htails]
          simp only [List.map_cons, List.cons.injEq, Snapshot.mk.injEq, true_and, and_true]
          exact and_left_comm
      · simp [hword]

variable {capabilities : Capabilities} {timeline other : Timeline} {program program' : Program Snapshot}

/-- Two timelines of an output bank are compiled to the same program exactly if they have the same words and
waits in the same order, and the same numbers of ticks between the events of each stretch. The time of the first
word has no influence, so that no replay can tell it. -/
theorem compileSnapshot_eq_iff (hcompile : timeline.compileSnapshot layout capabilities = .ok program)
    (hother : other.compileSnapshot layout capabilities = .ok program') :
    program = program' ↔ timeline.map (·.kind) = other.map (·.kind) ∧
      timeline.bankSteps capabilities.clockResolution = other.bankSteps capabilities.clockResolution := by
  obtain ⟨_, hholds⟩ := compileSnapshot_eq_ok hcompile
  obtain ⟨_, hholds'⟩ := compileSnapshot_eq_ok hother
  obtain ⟨_, _, _, words, _, _, rfl⟩ := compileSnapshot_eq_ok_iff.mp hcompile
  obtain ⟨_, _, _, words', _, _, rfl⟩ := compileSnapshot_eq_ok_iff.mp hother
  rw [Program.body_ofBody] at hholds hholds'
  have hbodies : Program.ofBody words = Program.ofBody words' ↔ words = words' := by
    refine ⟨fun hsame => ?_, congrArg _⟩
    have hbody := congrArg Program.body hsame
    rwa [Program.body_ofBody, Program.body_ofBody] at hbody
  exact hbodies.trans (holds_eq_iff hholds hholds' false (by simp))

/-- The second timeline starts as late as the first one, but holds its first word for longer. -/
theorem compileSnapshot_eq_iff_longer :
    compileSnapshot [⟨5, .level 1⟩, ⟨15, .level 2⟩] ⟨2, 8, .big⟩ ⟨1, 8, 1⟩ =
      .ok (Program.ofBody [⟨10, 1⟩, ⟨1, 2⟩]) ∧
    compileSnapshot [⟨5, .level 1⟩, ⟨16, .level 2⟩] ⟨2, 8, .big⟩ ⟨1, 8, 1⟩ =
      .ok (Program.ofBody [⟨11, 1⟩, ⟨1, 2⟩]) ∧
    bankSteps 1 [⟨5, .level 1⟩, ⟨15, .level 2⟩] ≠ bankSteps 1 [⟨5, .level 1⟩, ⟨16, .level 2⟩] := by
  have hcompile : compileSnapshot [⟨5, .level 1⟩, ⟨15, .level 2⟩] ⟨2, 8, .big⟩ ⟨1, 8, 1⟩ =
      .ok (Program.ofBody [⟨10, 1⟩, ⟨1, 2⟩]) := rfl
  have hother : compileSnapshot [⟨5, .level 1⟩, ⟨16, .level 2⟩] ⟨2, 8, .big⟩ ⟨1, 8, 1⟩ =
      .ok (Program.ofBody [⟨11, 1⟩, ⟨1, 2⟩]) := rfl
  refine ⟨hcompile, hother, fun hsteps => ?_⟩
  have hsame := (compileSnapshot_eq_iff hcompile hother).mpr ⟨by simp, hsteps⟩
  cases congrArg Program.body hsame

/-- The first words are five ticks apart, and the programs are the same. -/
theorem compileSnapshot_lostStart :
    compileSnapshot [⟨0, .level 1⟩, ⟨10, .level 2⟩] ⟨2, 8, .big⟩ ⟨1, 8, 1⟩ =
      .ok (Program.ofBody [⟨10, 1⟩, ⟨1, 2⟩]) ∧
    compileSnapshot [⟨5, .level 1⟩, ⟨15, .level 2⟩] ⟨2, 8, .big⟩ ⟨1, 8, 1⟩ =
      .ok (Program.ofBody [⟨10, 1⟩, ⟨1, 2⟩]) ∧
    Ticks.ofLength 0 1 = 0 ∧ Ticks.ofLength 5 1 = 5 := by
  refine ⟨rfl, rfl, ?_, ?_⟩ <;> decide +kernel

end Pseudoclock.Timeline
