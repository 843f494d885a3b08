import Mathlib
import Pseudoclock.Proofs.OutputBank.RoundTrip
import Pseudoclock.Proofs.Timeline.Chronology

/-!
The timelines that are accepted for an output bank, and the instruction that each of their events is compiled
to, described by what stands where in a timeline and not by a state that is carried along.
-/

namespace Pseudoclock.Timeline

open Replay (bankPosition)

/-- The last word of some events, which is what an output bank shows behind them. -/
def lastWord (before : Timeline) : UInt64 :=
  before.levels.getLast?.getD 0

/-- Where positions are counted from when a word comes at `time` behind the events `before`. This is the first
level event since the last wait or since the beginning, which may be that of the word itself. -/
def wordOrigin (before : Timeline) (time : Float) : Float :=
  (((before.sinceWait?.getD before).find? (!·.isWait)).map (·.time)).getD time

/-- How many ticks pass from a word that comes at `time` behind the events `before` until `next`. -/
def ticksUntil (clockResolution : Float) (before : Timeline) (time next : Float) : Int :=
  bankPosition clockResolution (before.wordOrigin time) next -
    bankPosition clockResolution (before.wordOrigin time) time

/-- Every word is held until the event behind it for a number of ticks that a register can hold, where the
timeline comes behind the events `before`. -/
def HoldsInRange (clockResolution : Float) (before timeline : Timeline) : Prop :=
  ∀ between time word next after, timeline = between ++ ⟨time, .level word⟩ :: next :: after →
    1 ≤ ticksUntil clockResolution (before ++ between) time next.time ∧
      ticksUntil clockResolution (before ++ between) time next.time ≤ 0xffffffff

/-- The timelines of an output bank. -/
structure IsWordLine (layout : Layout) (clockResolution : Float) (timeline : Timeline) : Prop where
  isChronological : timeline.IsChronological
  fits : ∀ time word, ⟨time, .level word⟩ ∈ timeline → layout.fits word = true
  holdsInRange : HoldsInRange clockResolution [] timeline

/-- The instruction of an event that stands between the events `before` and `after`. -/
structure IsInstructionOf (clockResolution : Float) (before : Timeline) (event : Event) (after : Timeline)
    (instruction : Snapshot) : Prop where
  isWait_iff : isWait instruction = true ↔ event.kind = .wait
  /-- A level event shows its own word, and a wait keeps the one before it. -/
  bits_eq : instruction.bits = event.level?.getD before.lastWord
  reps_eq_ticks : event.kind ≠ .wait → ∀ next ∈ after.head?,
    (instruction.reps.toNat : Int) = ticksUntil clockResolution before event.time next.time
  reps_eq_one : event.kind ≠ .wait → after = [] → instruction.reps = 1

variable {layout : Layout} {clockResolution : Float}

private theorem holdsInRange_tail {before rest : Timeline} {event : Event}
    (hholds : HoldsInRange clockResolution before (event :: rest)) :
    HoldsInRange clockResolution (before ++ [event]) rest := by
  intro between time word next after heq
  simpa using hholds (event :: between) time word next after (by simp [heq])

/-- What is carried along tells of the events `before`: their last word, and where positions are counted from
behind them. -/
private structure Remembers (before : Timeline) (held : UInt64) (origin : Option Float) : Prop where
  lastWord_eq : before.lastWord = held
  wordOrigin_eq : ∀ time, before.wordOrigin time = origin.getD time

private theorem Remembers.nil : Remembers [] 0 none :=
  ⟨rfl, fun _ => rfl⟩

private theorem Remembers.wait {before : Timeline} {held : UInt64} {origin : Option Float}
    (hremembers : Remembers before held origin) (time : Float) :
    Remembers (before ++ [⟨time, .wait⟩]) held none where
  lastWord_eq := by
    rw [← hremembers.lastWord_eq]
    simp [lastWord, levels, Event.level?]
  wordOrigin_eq later := by
    have hsince : sinceWait? [⟨time, .wait⟩] = some [] := rfl
    simp [wordOrigin, sinceWait?_append, hsince]

private theorem Remembers.level {before : Timeline} {held : UInt64} {origin : Option Float}
    (hremembers : Remembers before held origin) (time : Float) (word : UInt64) :
    Remembers (before ++ [⟨time, .level word⟩]) word (some (origin.getD time)) where
  lastWord_eq := by simp [lastWord, levels, Event.level?]
  wordOrigin_eq later := by
    have hnone : sinceWait? [⟨time, .level word⟩] = none := rfl
    have hsince : (sinceWait? (before ++ [⟨time, .level word⟩])).getD (before ++ [⟨time, .level word⟩]) =
        before.sinceWait?.getD before ++ [⟨time, .level word⟩] := by
      rw [sinceWait?_append, hnone]
      cases before.sinceWait? <;> rfl
    rw [Option.getD_some, ← hremembers.wordOrigin_eq time, wordOrigin, wordOrigin, hsince, List.find?_append]
    cases (before.sinceWait?.getD before).find? (!·.isWait) <;> rfl

/-- There is one instruction for each event. -/
theorem Holds.length_eq {held : UInt64} {origin : Option Float} {timeline : Timeline} {words : List Snapshot}
    (hholds : Holds layout clockResolution held origin timeline words) : words.length = timeline.length := by
  induction hholds with
  | nil held origin => rfl
  | wait time hrest ih => rw [List.length_cons, List.length_cons, ih]
  | level hfits hreps hrest ih => rw [List.length_cons, List.length_cons, ih]

/-- A number of ticks can be counted if it is positive and the register has room for it. -/
private theorem exists_isHeldFor {position : Float → Int} {time : Float} {rest : Timeline}
    (hrange : ∀ next ∈ rest.head?, 1 ≤ position next.time - position time ∧
      position next.time - position time ≤ 0xffffffff) : ∃ reps, IsHeldFor position time rest reps := by
  rcases decides_holdTicks position time rest with ⟨hheld, _⟩ | ⟨_, fault, hrefused⟩
  · exact hheld
  · cases rest with
    | nil => cases hrefused
    | cons next rest =>
      obtain ⟨hpos, hroom⟩ := hrange next rfl
      rw [holdTicks_cons] at hrefused
      rw [if_neg (by omega), if_neg (by omega)] at hrefused
      cases hrefused

/-- Every event has its instruction, in the same place. -/
theorem Holds.isInstructionOf {before : Timeline} {held : UInt64} {origin : Option Float}
    (hremembers : Remembers before held origin) {timeline : Timeline} {words : List Snapshot}
    (hholds : Holds layout clockResolution held origin timeline words) {between : Timeline} {event : Event}
    {after : Timeline} (heq : timeline = between ++ event :: after) :
    ∃ instruction, words[between.length]? = some instruction ∧
      IsInstructionOf clockResolution (before ++ between) event after instruction := by
  induction hholds generalizing before between with
  | nil held origin => simp at heq
  | @wait held origin rest words time hrest ih =>
    cases between with
    | nil =>
      obtain ⟨rfl, rfl⟩ := List.cons.inj heq
      refine ⟨_, rfl, ⟨by simp [Snapshot.wait, Instruction.isWait], ?_, by simp, by simp⟩⟩
      rw [List.append_nil, hremembers.lastWord_eq]
      rfl
    | cons first between =>
      obtain ⟨rfl, htail⟩ := List.cons.inj heq
      simpa using ih (hremembers.wait time) htail
  | @level held word origin time rest reps words hfits hreps hrest ih =>
    cases between with
    | nil =>
      obtain ⟨rfl, rfl⟩ := List.cons.inj heq
      refine ⟨_, rfl, ⟨by simp [hreps.isWait_eq_false word], rfl, fun _ next hnext => ?_, fun _ => hreps.eq_one⟩⟩
      rw [List.append_nil, ticksUntil, hremembers.wordOrigin_eq]
      exact hreps.eq_step next hnext
    | cons first between =>
      obtain ⟨rfl, htail⟩ := List.cons.inj heq
      simpa using ih (hremembers.level time word) htail

/-- A timeline has instructions if all of its words fit and are held for long enough, but not for too long. -/
private theorem exists_holds {before : Timeline} {held : UInt64} {origin : Option Float}
    (hremembers : Remembers before held origin) {timeline : Timeline}
    (hfits : ∀ time word, ⟨time, .level word⟩ ∈ timeline → layout.fits word = true)
    (hholds : HoldsInRange clockResolution before timeline) :
    ∃ words, Holds layout clockResolution held origin timeline words := by
  induction timeline generalizing before held origin with
  | nil => exact ⟨[], .nil held origin⟩
  | cons event rest ih =>
    obtain ⟨time, kind⟩ := event
    have hrestFits := fun later word hmem => hfits later word (List.mem_cons_of_mem _ hmem)
    cases kind with
    | wait =>
      obtain ⟨words, hwords⟩ := ih (hremembers.wait time) hrestFits (holdsInRange_tail hholds)
      exact ⟨_, .wait time hwords⟩
    | level word =>
      obtain ⟨words, hwords⟩ := ih (hremembers.level time word) hrestFits (holdsInRange_tail hholds)
      obtain ⟨reps, hreps⟩ : ∃ reps, IsHeldFor (bankPosition clockResolution (origin.getD time)) time rest reps := by
        refine exists_isHeldFor fun next hnext => ?_
        obtain ⟨after, rfl⟩ : ∃ after, rest = next :: after := by
          cases rest with
          | nil => cases hnext
          | cons first after => exact ⟨after, by rw [Option.some.inj hnext]⟩
        simpa [ticksUntil, hremembers.wordOrigin_eq] using hholds [] time word next after rfl
      exact ⟨_, .level (hfits time word List.mem_cons_self) hreps hwords⟩

/-- The words of a timeline are among those of its instructions. -/
private theorem Holds.fits_level {timeline : Timeline} {words : List Snapshot}
    (hholds : Holds layout clockResolution 0 none timeline words) {time : Float} {word : UInt64}
    (hmem : ⟨time, .level word⟩ ∈ timeline) : layout.fits word = true := by
  obtain ⟨before, after, heq⟩ := List.append_of_mem hmem
  obtain ⟨instruction, hinstruction, hof⟩ := hholds.isInstructionOf .nil heq
  have hfits := hholds.fits layout.fits_zero instruction (List.mem_of_getElem? hinstruction)
  rwa [hof.bits_eq] at hfits

/-- What a register has counted is in its range. -/
private theorem Holds.holdsInRange {timeline : Timeline} {words : List Snapshot}
    (hholds : Holds layout clockResolution 0 none timeline words) : HoldsInRange clockResolution [] timeline := by
  intro between time word next after heq
  obtain ⟨instruction, _, hinstruction⟩ := hholds.isInstructionOf .nil heq
  have hticks : (instruction.reps.toNat : Int) = ticksUntil clockResolution ([] ++ between) time next.time :=
    hinstruction.reps_eq_ticks (by simp) next rfl
  have hlt := instruction.reps.toNat_lt
  have hpos : instruction.reps.toNat ≠ 0 := by
    intro hzero
    have hwait : isWait instruction = true := beq_iff_eq.mpr (UInt32.toNat_inj.mp hzero)
    cases hinstruction.isWait_iff.mp hwait
  omega

theorem isWordLine_iff (timeline : Timeline) :
    timeline.IsWordLine layout clockResolution ↔
      timeline.IsChronological ∧ ∃ words, Holds layout clockResolution 0 none timeline words := by
  constructor
  · rintro ⟨hchronological, hfits, hholds⟩
    exact ⟨hchronological, exists_holds .nil hfits hholds⟩
  · rintro ⟨hchronological, words, hholds⟩
    exact ⟨hchronological, fun _ _ hmem => hholds.fits_level hmem, hholds.holdsInRange⟩

/-- Before it is known whether there is room for them, words are decided on. -/
private theorem decides_words (layout : Layout) (clockResolution : Float) (timeline : Timeline) :
    Decides (timeline.checkTimes >>= fun _ => timeline.bankWords layout clockResolution 0 none)
      (timeline.IsWordLine layout clockResolution) (Holds layout clockResolution 0 none timeline) := by
  refine (decides_checkTimes timeline).bind (fun hchronological _ _ => ?_) (·.isChronological)
  refine (decides_bankWords layout clockResolution 0 none timeline).imp ?_ fun _ hholds => hholds
  exact ⟨fun hwords => (isWordLine_iff timeline).mpr ⟨hchronological, hwords⟩,
    fun hline => ((isWordLine_iff timeline).mp hline).2⟩

variable {capabilities : Capabilities}

/-- An output bank has instructions, which are returned if the device has room for them. -/
theorem compileSnapshot_spec (hvalid : capabilities.validate = .ok ()) (hlayout : layout.validate = .ok ())
    (timeline : Timeline) :
    (timeline.IsWordLine layout capabilities.clockResolution ∧
      ∃ words, Holds layout capabilities.clockResolution 0 none timeline words ∧
        timeline.compileSnapshot layout capabilities =
          if capabilities.maxInstructions.toNat < timeline.length + 2 then
            .error (.capacityExceeded (timeline.length + 2) capabilities.maxInstructions.toNat)
          else .ok (Program.ofBody words)) ∨
    (¬ timeline.IsWordLine layout capabilities.clockResolution ∧
      ∃ fault, timeline.compileSnapshot layout capabilities = .error (.invalidTimeline fault)) := by
  have hcompile : timeline.compileSnapshot layout capabilities =
      (timeline.checkTimes >>= fun _ => timeline.bankWords layout capabilities.clockResolution 0 none) >>=
        fun words => capabilities.checkCapacity words.length >>= fun _ => .ok (Program.ofBody words) := by
    rw [compileSnapshot_eq, hvalid, hlayout]
    cases timeline.checkTimes <;> rfl
  rw [hcompile]
  rcases decides_words layout capabilities.clockResolution timeline with
    ⟨hline, words, hwords, hholds⟩ | ⟨hnot, fault, hrefused⟩
  · refine .inl ⟨hline, words, hholds, ?_⟩
    rw [hwords, ← hholds.length_eq]
    change (capabilities.checkCapacity words.length >>= _) = _
    rw [Capabilities.checkCapacity]
    unfold stopLength
    split <;> rfl
  · exact .inr ⟨hnot, fault, by rw [hrefused]; rfl⟩

/-- Timelines are refused as invalid exactly if they are not those of an output bank: if a time is not finite or
before an earlier one, if a word does not fit the layout, or if a word is held until the next event for no tick
or for more of them than a register can count. Otherwise there is one instruction for each event, unless the
device has no room for these and the stop sequence. -/
theorem compileSnapshot_accepts (hvalid : capabilities.validate = .ok ()) (hlayout : layout.validate = .ok ())
    (timeline : Timeline) :
    ((∃ fault, timeline.compileSnapshot layout capabilities = .error (.invalidTimeline fault)) ↔
      ¬ timeline.IsWordLine layout capabilities.clockResolution) ∧
    (timeline.IsWordLine layout capabilities.clockResolution →
      (capabilities.maxInstructions.toNat < timeline.length + 2 →
        timeline.compileSnapshot layout capabilities =
          .error (.capacityExceeded (timeline.length + 2) capabilities.maxInstructions.toNat)) ∧
      (timeline.length + 2 ≤ capabilities.maxInstructions.toNat →
        ∃ program, timeline.compileSnapshot layout capabilities = .ok program ∧
          program.body.length = timeline.length ∧
          ∀ before event after, timeline = before ++ event :: after →
            ∃ instruction, program.body[before.length]? = some instruction ∧
              IsInstructionOf capabilities.clockResolution before event after instruction)) := by
  rcases compileSnapshot_spec hvalid hlayout timeline with ⟨hline, words, hholds, heq⟩ | ⟨hnot, fault, heq⟩
  · refine ⟨iff_of_false ?_ (not_not_intro hline), fun _ => ⟨fun hfull => ?_, fun hroom => ?_⟩⟩
    · rintro ⟨fault, hrefused⟩
      rw [heq] at hrefused
      split at hrefused <;> cases hrefused
    · rw [heq, if_pos hfull]
    · refine ⟨Program.ofBody words, by rw [heq, if_neg (not_lt_of_ge hroom)], ?_⟩
      rw [Program.body_ofBody]
      exact ⟨hholds.length_eq, fun before event after hsplit => hholds.isInstructionOf .nil hsplit⟩
  · exact ⟨iff_of_true ⟨fault, heq⟩ hnot, fun hline => absurd hline hnot⟩

/-- Two words behind a wait, counted from the first of them, and a wait that keeps the second one. There is no room
for them in a memory of five instructions. Two words in one tick are refused. -/
theorem compileSnapshot_accepts_words :
    let timeline : Timeline := [⟨0, .wait⟩, ⟨0.5, .level 1⟩, ⟨2.5, .level 2⟩, ⟨5.5, .wait⟩]
    let layout : Layout := ⟨2, 8, .big⟩
    (⟨1, 6, 1⟩ : Capabilities).validate = .ok () ∧ (⟨1, 5, 1⟩ : Capabilities).validate = .ok () ∧
    layout.validate = .ok () ∧ timeline.IsWordLine layout 1 ∧
    (∃ program, timeline.compileSnapshot layout ⟨1, 6, 1⟩ = .ok program ∧ program.body.length = 4 ∧
      ∃ instruction, program.body[3]? = some instruction ∧ isWait instruction = true ∧ instruction.bits = 2) ∧
    timeline.compileSnapshot layout ⟨1, 5, 1⟩ = .error (.capacityExceeded 6 5) ∧
    ¬ IsWordLine layout 1 [⟨0, .level 1⟩, ⟨0.25, .level 2⟩] := by
  intro timeline layout
  have hvalid : (⟨1, 6, 1⟩ : Capabilities).validate = .ok () := rfl
  have hsmall : (⟨1, 5, 1⟩ : Capabilities).validate = .ok () := rfl
  have hlayout : layout.validate = .ok () := rfl
  have hcompile : timeline.compileSnapshot layout ⟨1, 6, 1⟩ =
      .ok (Program.ofBody [Snapshot.wait 0, ⟨2, 1⟩, ⟨3, 2⟩, Snapshot.wait 2]) := by decide +kernel
  have hline : timeline.IsWordLine layout 1 := by
    by_contra hnot
    obtain ⟨fault, hrefused⟩ := (compileSnapshot_accepts hvalid hlayout timeline).1.mpr hnot
    rw [hcompile] at hrefused
    cases hrefused
  obtain ⟨program, hprogram, hlength, hinstructions⟩ :=
    ((compileSnapshot_accepts hvalid hlayout timeline).2 hline).2 (by decide)
  obtain ⟨instruction, hlast, hinstruction⟩ :=
    hinstructions [⟨0, .wait⟩, ⟨0.5, .level 1⟩, ⟨2.5, .level 2⟩] ⟨5.5, .wait⟩ [] rfl
  refine ⟨hvalid, hsmall, hlayout, hline, ⟨program, hprogram, hlength, instruction, hlast, ?_, ?_⟩, ?_, ?_⟩
  · exact hinstruction.isWait_iff.mpr rfl
  · exact hinstruction.bits_eq
  · exact ((compileSnapshot_accepts hsmall hlayout timeline).2 hline).1 (by decide)
  · have hrefused : compileSnapshot [⟨0, .level 1⟩, ⟨0.25, .level 2⟩] layout ⟨1, 6, 1⟩ =
        .error (.invalidTimeline (.sameTick 0 0.25)) := by decide +kernel
    exact (compileSnapshot_accepts hvalid hlayout _).1.mp ⟨_, hrefused⟩

end Pseudoclock.Timeline
