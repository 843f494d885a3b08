import Mathlib
import Pseudoclock.Proofs.OutputBank.RoundTrip
import Pseudoclock.Proofs.OutputBank.StrayWords
import Pseudoclock.Proofs.Replay.SelfTimed

/-!
Programs that are written differently and replayed alike. A run of cycles may be cut anywhere, and a run of waits
is a single pause, however many markers it has.
-/

namespace Pseudoclock

namespace Instruction

variable {ι : Type} [Instruction ι]

/-- Some instructions without those waits that directly follow another wait. `isWaiting` says whether the
instruction in front of them is a wait. -/
def collapseAfter : Bool → List ι → List ι
  | _, [] => []
  | isWaiting, instruction :: rest =>
    let later := collapseAfter (isWait instruction) rest
    if isWait instruction && isWaiting then later else instruction :: later

/-- The instructions of a body, with only the first marker of each run of waits. -/
def collapse (body : List ι) : List ι :=
  collapseAfter false body

theorem collapseAfter_sublist (isWaiting : Bool) (body : List ι) : (collapseAfter isWaiting body).Sublist body := by
  induction body generalizing isWaiting with
  | nil => exact .slnil
  | cons instruction rest ih =>
    rw [collapseAfter]
    split
    · exact (ih _).cons instruction
    · exact (ih _).cons_cons instruction

theorem collapseAfter_of_waits {waits : List ι} (hwaits : ∀ wait ∈ waits, isWait wait = true) :
    collapseAfter true waits = [] := by
  induction waits with
  | nil => rfl
  | cons wait waits ih =>
    obtain ⟨hwait, hothers⟩ := List.forall_mem_cons.mp hwaits
    rw [collapseAfter, hwait]
    exact ih hothers

/-- Of a run of waits, the first one is left. -/
theorem collapse_waits {marker : ι} {others : List ι} (hwaits : ∀ wait ∈ marker :: others, isWait wait = true) :
    collapse (marker :: others) = [marker] := by
  obtain ⟨hmarker, hothers⟩ := List.forall_mem_cons.mp hwaits
  rw [collapse, collapseAfter, hmarker, collapseAfter_of_waits hothers]
  rfl

end Instruction

open Instruction (collapse collapseAfter collapseAfter_sublist collapse_waits)

namespace Replay

variable {calibration : Calibration}

/-- Two bodies do the same to a replay, wherever it stands, or fail with the same error. -/
def IsAlike (calibration : Calibration) (body other : List Toggle) : Prop :=
  ∀ replay, other.foldlM (stepToggle calibration) replay = body.foldlM (stepToggle calibration) replay

/-- Instructions in front of both bodies and behind them make no difference. -/
theorem IsAlike.within {body other : List Toggle} (halike : IsAlike calibration body other)
    (before after : List Toggle) : IsAlike calibration (before ++ body ++ after) (before ++ other ++ after) := by
  intro replay
  simp only [List.foldlM_append, bind_assoc]
  refine bind_congr fun next => ?_
  rw [halike next]

section Cuts

theorem cycles_add (half : Float) (a b : Nat) (replay : Replay UInt8) :
    cycles half (a + b) replay = cycles half b (cycles half a replay) := by
  induction a generalizing replay with
  | zero => rw [Nat.zero_add, cycles]
  | succ a ih => rw [Nat.succ_add, cycles, cycles, ih]

/-- Some cycles and then others of the same period are all of these cycles. A piece without any cycles ends a wait as
every other piece does. -/
theorem isAlike_cut {period : UInt32} (hperiod : period ≠ 0) {a b : UInt32}
    (hroom : a.toNat + b.toNat ≤ 0xffffffff) :
    IsAlike calibration [⟨period, a + b⟩] [⟨period, a⟩, ⟨period, b⟩] := by
  intro replay
  have hsum : (a + b).toNat = a.toNat + b.toNat := by
    rw [UInt32.toNat_add]
    exact Nat.mod_eq_of_lt (by omega)
  have hcycles := Toggle.isWait_eq_false hperiod
  simp only [List.foldlM_cons, List.foldlM_nil, stepToggle_of_cycles (hcycles _), bind_ok, hsum, cycles_add]
  rw [cycles_eq _ a.toNat]

/-- The levels of cycles alternate. -/
theorem values_samplesOf (shown : List (Float × Float)) :
    (samplesOf shown).map (·.2) = (List.replicate shown.length [1, 0]).flatten := by
  induction shown with
  | nil => rfl
  | cons cycle shown ih =>
    rw [samplesOf_cons, List.map_cons, List.map_cons, ih, List.length_cons, List.replicate_succ, List.flatten_cons]
    rfl

end Cuts

section Waits

/-- Whether a device waits is told by the instruction that it has just executed. -/
theorem isWaiting_of_stepToggle {replay next : Replay UInt8} {instruction : Toggle}
    (hstep : stepToggle calibration replay instruction = .ok next) : next.isWaiting = isWait instruction := by
  rcases stepToggle_eq_ok hstep with ⟨hwait, hwaiting, rfl⟩ | ⟨hwait, _, _, _, rfl⟩ | ⟨hcycles, rfl⟩
  · rw [hwait, hwaiting]
  · rw [hwait]
  · rw [hcycles, cycles_eq]

/-- Waits that are left out because they follow a wait do nothing. -/
theorem foldlM_collapseAfter {isWaiting : Bool} (body : List Toggle) {replay : Replay UInt8}
    (hwaiting : isWaiting = true → replay.isWaiting = true) :
    (collapseAfter isWaiting body).foldlM (stepToggle calibration) replay =
      body.foldlM (stepToggle calibration) replay := by
  induction body generalizing isWaiting replay with
  | nil => rfl
  | cons instruction rest ih =>
    rw [collapseAfter]
    split
    · next hskip =>
      obtain ⟨hwait, hafter⟩ := (Bool.and_eq_true _ _).mp hskip
      have hreplay := hwaiting hafter
      rw [List.foldlM_cons, stepToggle_of_isWait hwait, stepBeat_wait_of_isWaiting hreplay, bind_ok]
      exact ih fun _ => hreplay
    · rw [List.foldlM_cons, List.foldlM_cons]
      cases hstep : stepToggle calibration replay instruction with
      | error error => rfl
      | ok next => exact ih fun hwait => (isWaiting_of_stepToggle hstep).trans hwait

theorem isAlike_collapse (calibration : Calibration) (body : List Toggle) :
    IsAlike calibration body (collapse body) :=
  fun _ => foldlM_collapseAfter body (by simp)

/-- A run of waits takes a clock line to where it goes on, as a single wait does. -/
theorem foldlM_waits {replay : Replay UInt8} (hwaiting : replay.isWaiting = false) {marker : Toggle}
    {others : List Toggle} (hwaits : ∀ wait ∈ marker :: others, isWait wait = true) :
    (marker :: others).foldlM (stepToggle calibration) replay =
      (resume calibration replay.edges replay.clock).map fun resumed =>
        { replay with clock := resumed.1, edges := resumed.2, isWaiting := true } := by
  have hmarker : isWait marker = true := hwaits marker List.mem_cons_self
  rw [← isAlike_collapse calibration (marker :: others) replay, collapse_waits hwaits, List.foldlM_cons,
    stepToggle_of_isWait hmarker, stepBeat_wait hwaiting]
  cases resume calibration replay.edges replay.clock <;> rfl

theorem isWaiting_stepSnapshot (replay : Replay UInt64) (instruction : Snapshot) :
    (stepSnapshot calibration replay instruction).isWaiting = isWait instruction := by
  cases hwait : isWait instruction with
  | false => simp [stepSnapshot, hwait]
  | true =>
    cases hwaiting : replay.isWaiting with
    | false => rw [stepSnapshot_of_isWait hwaiting hwait]
    | true => rw [stepSnapshot_of_isWaiting hwaiting hwait, hwaiting]

/-- An output bank does nothing at a wait that follows a wait either. -/
theorem foldl_collapseAfter {isWaiting : Bool} (body : List Snapshot) {replay : Replay UInt64}
    (hwaiting : isWaiting = true → replay.isWaiting = true) :
    (collapseAfter isWaiting body).foldl (stepSnapshot calibration) replay =
      body.foldl (stepSnapshot calibration) replay := by
  induction body generalizing isWaiting replay with
  | nil => rfl
  | cons instruction rest ih =>
    rw [collapseAfter]
    split
    · next hskip =>
      obtain ⟨hwait, hafter⟩ := (Bool.and_eq_true _ _).mp hskip
      have hreplay := hwaiting hafter
      rw [List.foldl_cons, stepSnapshot_of_isWaiting hreplay hwait]
      exact ih fun _ => hreplay
    · rw [List.foldl_cons, List.foldl_cons]
      exact ih fun hwait => (isWaiting_stepSnapshot replay instruction).trans hwait

theorem foldl_collapse (body : List Snapshot) (replay : Replay UInt64) :
    (collapse body).foldl (stepSnapshot calibration) replay = body.foldl (stepSnapshot calibration) replay :=
  foldl_collapseAfter body (by simp)

/-- A run of waits shows the word of its first marker, for as long as a single wait takes. -/
theorem foldl_waits {replay : Replay UInt64} (hwaiting : replay.isWaiting = false) {marker : Snapshot}
    {others : List Snapshot} (hwaits : ∀ wait ∈ marker :: others, isWait wait = true) :
    (marker :: others).foldl (stepSnapshot calibration) replay =
      { replay.hold (replay.waitDuration calibration) marker.bits with isWaiting := true } := by
  rw [← foldl_collapse, collapse_waits hwaits, List.foldl_cons, List.foldl_nil,
    stepSnapshot_of_isWait hwaiting (hwaits marker List.mem_cons_self)]

end Waits

end Replay

namespace Program

open Replay (IsAlike cycleCount)

variable {calibration : Calibration}

/-- Programs with bodies that are alike show the same trace, or fail with the same error. -/
theorem map_trace_replayToggle {program other : Program Toggle}
    (halike : IsAlike calibration program.body other.body) (triggers : Option (List Float)) :
    (other.replayToggle calibration triggers).map (·.trace) =
      (program.replayToggle calibration triggers).map (·.trace) := by
  unfold replayToggle
  cases calibration.validate with
  | error error => rfl
  | ok _ =>
    cases Replay.startToggle calibration triggers with
    | error error => rfl
    | ok start =>
      simp only [bind_ok, halike start]
      cases program.body.foldlM (Replay.stepToggle calibration) start <;> rfl

theorem recorded_of_startToggle {triggers : Option (List Float)} {start : Replay UInt8}
    (hstart : Replay.startToggle calibration triggers = .ok start) : start.recorded = [] := by
  rcases triggers with _ | _ | ⟨edge, pending⟩ <;> cases hstart <;> rfl

/-- Whatever is replayed of a clock line, it is whole cycles, as many as the instructions count. -/
theorem exists_samplesOf_replayToggle {program : Program Toggle} {triggers : Option (List Float)}
    {replayed : Replayed UInt8} (hreplay : program.replayToggle calibration triggers = .ok replayed) :
    ∃ shown : List (Float × Float), shown.length = cycleCount program.body ∧
      replayed.trace = Trace.ofSamples (samplesOf shown) := by
  unfold replayToggle at hreplay
  rw [check_bind_eq_ok_iff, bind_eq_ok_iff] at hreplay
  obtain ⟨_, start, hstart, hreplay⟩ := hreplay
  obtain ⟨final, hfinal, hreplayed⟩ := bind_eq_ok_iff.mp hreplay
  obtain rfl := Except.ok.inj hreplayed
  obtain ⟨shown, hlength, hshown⟩ := Replay.exists_samplesOf_foldlM_stepToggle hfinal
  rw [recorded_of_startToggle hstart, List.reverse_nil, List.nil_append] at hshown
  exact ⟨shown, hlength, by rw [Replay.finish, hshown]⟩

/-- A run of cycles may be cut into two instructions anywhere, or put together from them, and the replay stays the
same, also if it fails. A trace has two samples for each cycle, and their levels alternate from the first to the
last one. -/
theorem replayToggle_cut (calibration : Calibration) (triggers : Option (List Float)) :
    (∀ (before after : List Toggle) (period a b : UInt32) (whole cut : Program Toggle), period ≠ 0 →
      a.toNat + b.toNat ≤ 0xffffffff → whole.body = before ++ ⟨period, a + b⟩ :: after →
      cut.body = before ++ ⟨period, a⟩ :: ⟨period, b⟩ :: after →
      (cut.replayToggle calibration triggers).map (·.trace) =
        (whole.replayToggle calibration triggers).map (·.trace)) ∧
    ∀ (program : Program Toggle) (replayed : Replayed UInt8),
      program.replayToggle calibration triggers = .ok replayed →
      replayed.trace.times.length = 2 * cycleCount program.body ∧
        replayed.trace.values = (List.replicate (cycleCount program.body) [1, 0]).flatten := by
  constructor
  · intro before after period a b whole cut hperiod hroom hwhole hcut
    refine map_trace_replayToggle ?_ triggers
    have halike : IsAlike calibration _ _ := (Replay.isAlike_cut hperiod hroom).within before after
    simpa [hwhole, hcut] using halike
  · intro program replayed hreplay
    obtain ⟨shown, hlength, htrace⟩ := exists_samplesOf_replayToggle hreplay
    rw [htrace, Trace.times_ofSamples, Trace.values_ofSamples, Replay.values_samplesOf, hlength]
    refine ⟨?_, rfl⟩
    have hvalues := congrArg List.length (Replay.values_samplesOf shown)
    simpa [hlength, Nat.mul_comm] using hvalues

/-- Three cycles are cut behind the first one. The instruction without any cycles, which parts two waits, is cut into
two of its kind, and the edges are still too few. -/
theorem replayToggle_cut_cycles :
    let calibration : Calibration := ⟨1, 0.5, 3⟩
    let line : Program Toggle := Program.ofBody [⟨4, 3⟩, Toggle.wait, ⟨2, 0⟩, Toggle.wait]
    let cut : Program Toggle := Program.ofBody [⟨4, 1⟩, ⟨4, 2⟩, Toggle.wait, ⟨2, 0⟩, Toggle.wait]
    let other : Program Toggle := Program.ofBody [⟨4, 3⟩, Toggle.wait, ⟨2, 0⟩, ⟨2, 0⟩, Toggle.wait]
    (∃ replayed, line.replayToggle calibration none = .ok replayed ∧
      (cut.replayToggle calibration none).map (·.trace) = .ok replayed.trace ∧
      replayed.trace.times.length = 6 ∧ replayed.trace.values = [1, 0, 1, 0, 1, 0]) ∧
    (other.replayToggle calibration (some [1, 5])).map (·.trace) = .error (.triggerExhausted 3 2) := by
  intro calibration line cut other
  have hreplay : line.replayToggle calibration none =
      .ok ⟨⟨[0, 2, 4, 6, 8, 10], [1, 0, 1, 0, 1, 0]⟩, ⟨4, 6, none⟩⟩ := by decide +kernel
  have hexhausted : line.replayToggle calibration (some [1, 5]) = .error (.triggerExhausted 3 2) := by decide +kernel
  have hcut := (replayToggle_cut calibration none).1 [] [Toggle.wait, ⟨2, 0⟩, Toggle.wait] 4 1 2 line cut
    (by decide) (by decide) rfl rfl
  have hother := (replayToggle_cut calibration (some [1, 5])).1 [⟨4, 3⟩, Toggle.wait] [Toggle.wait] 2 0 0 line other
    (by decide) (by decide) rfl rfl
  obtain ⟨hlength, hvalues⟩ := (replayToggle_cut calibration none).2 line _ hreplay
  refine ⟨⟨_, hreplay, ?_, hlength, hvalues⟩, ?_⟩
  · rw [hcut, hreplay]
    rfl
  · rw [hother, hexhausted]
    rfl

/-- If all words fit, the channels of a program are those of its words. -/
theorem replayChannels_of_fits {program : Program Snapshot} {layout : Layout}
    (hfits : ∀ instruction ∈ program.body, layout.fits instruction.bits = true) (triggers : Option (List Float)) :
    program.replayChannels calibration layout triggers = layout.validate >>= fun _ =>
      ((program.replayWords calibration triggers).map (·.trace)).map layout.demultiplex := by
  rw [replayChannels, replaySnapshot, checkWords_eq_ok_iff.mpr hfits]
  cases layout.validate with
  | error error => rfl
  | ok _ => cases program.replayWords calibration triggers <;> rfl

theorem map_trace_replayWords (calibration : Calibration) {program other : Program Snapshot}
    (hcollapse : other.body = collapse program.body) (triggers : Option (List Float)) :
    (other.replayWords calibration triggers).map (·.trace) =
      (program.replayWords calibration triggers).map (·.trace) := by
  unfold replayWords
  cases calibration.validate with
  | error error => rfl
  | ok _ =>
    cases Replay.startSnapshot calibration triggers with
    | error error => rfl
    | ok start =>
      rw [hcollapse]
      simp only [bind_ok, Replay.foldl_collapse]
      rfl

/-- Waits that directly follow another wait may be left out of a program, and the replay stays the same, also if it
fails. So does that of the channels, if all words fit the layout. A run of waits is a single pause: a clock line
takes one delay or one edge for it, and an output bank shows the word of its first marker for one delay. -/
theorem replay_collapse (calibration : Calibration) (triggers : Option (List Float)) :
    (∀ program other : Program Toggle, other.body = collapse program.body →
      (other.replayToggle calibration triggers).map (·.trace) =
        (program.replayToggle calibration triggers).map (·.trace)) ∧
    (∀ program other : Program Snapshot, other.body = collapse program.body →
      (other.replayWords calibration triggers).map (·.trace) =
        (program.replayWords calibration triggers).map (·.trace) ∧
      ∀ layout : Layout, (∀ instruction ∈ program.body, layout.fits instruction.bits = true) →
        other.replayChannels calibration layout triggers = program.replayChannels calibration layout triggers) ∧
    (∀ (replay : Replay UInt8) (marker : Toggle) (others : List Toggle), replay.isWaiting = false →
      (∀ wait ∈ marker :: others, isWait wait = true) →
      (marker :: others).foldlM (Replay.stepToggle calibration) replay =
        (Replay.resume calibration replay.edges replay.clock).map fun resumed =>
          { replay with clock := resumed.1, edges := resumed.2, isWaiting := true }) ∧
    ∀ (replay : Replay UInt64) (marker : Snapshot) (others : List Snapshot), replay.isWaiting = false →
      (∀ wait ∈ marker :: others, isWait wait = true) →
      (marker :: others).foldl (Replay.stepSnapshot calibration) replay =
        { replay.hold (replay.waitDuration calibration) marker.bits with isWaiting := true } := by
  refine ⟨fun program other hcollapse => ?_, fun program other hcollapse => ?_,
    fun _ _ _ hwaiting hwaits => Replay.foldlM_waits hwaiting hwaits,
    fun _ _ _ hwaiting hwaits => Replay.foldl_waits hwaiting hwaits⟩
  · refine map_trace_replayToggle ?_ triggers
    rw [hcollapse]
    exact Replay.isAlike_collapse calibration program.body
  · have hwords := map_trace_replayWords calibration hcollapse triggers
    refine ⟨hwords, fun layout hfits => ?_⟩
    have hothers : ∀ instruction ∈ other.body, layout.fits instruction.bits = true := by
      rw [hcollapse]
      exact fun instruction hmem => hfits instruction ((collapseAfter_sublist false program.body).subset hmem)
    rw [replayChannels_of_fits hfits, replayChannels_of_fits hothers, hwords]

/-- Two runs of two waits each. The second marker of a run is left out whatever its fields say, and the words of an
output bank are those of the first ones. -/
theorem replay_collapse_waits :
    let calibration : Calibration := ⟨1, 0.5, 3⟩
    let line : Program Toggle := Program.ofBody [⟨2, 1⟩, ⟨0, 7⟩, Toggle.wait, ⟨3, 1⟩]
    let bank : Program Snapshot := Program.ofBody [⟨1, 1⟩, Snapshot.wait 2, Snapshot.wait 3, ⟨1, 1⟩]
    let layout : Layout := ⟨2, 8, .big⟩
    ((Program.ofBody [⟨2, 1⟩, ⟨0, 7⟩, ⟨3, 1⟩]).replayToggle calibration (some [1, 5])).map (·.trace) =
      (line.replayToggle calibration (some [1, 5])).map (·.trace) ∧
    (line.replayToggle calibration (some [1, 5])).map (·.trace) = .ok ⟨[1.5, 2.5, 5.5, 7], [1, 0, 1, 0]⟩ ∧
    ((Program.ofBody [⟨1, 1⟩, Snapshot.wait 2, ⟨1, 1⟩]).replayWords calibration (some [1, 5])).map (·.trace) =
      (bank.replayWords calibration (some [1, 5])).map (·.trace) ∧
    (bank.replayWords calibration (some [1, 5])).map (·.trace) = .ok ⟨[1.5, 2.5, 3], [1, 2, 1]⟩ ∧
    (∀ instruction ∈ bank.body, layout.fits instruction.bits = true) ∧
    (Program.ofBody [⟨1, 1⟩, Snapshot.wait 2, ⟨1, 1⟩]).replayChannels calibration layout (some [1, 5]) =
      bank.replayChannels calibration layout (some [1, 5]) ∧
    [⟨0, 7⟩, Toggle.wait].foldlM (Replay.stepToggle calibration) ⟨2, some ⟨1, [5]⟩, false, []⟩ =
      .ok ⟨5.5, some ⟨2, []⟩, true, []⟩ ∧
    [Snapshot.wait 2, Snapshot.wait 3].foldl (Replay.stepSnapshot calibration) ⟨2, none, false, []⟩ =
      ⟨5, none, true, [(2, 2)]⟩ := by
  intro calibration line bank layout
  obtain ⟨hlines, hbanks, hlineWaits, hbankWaits⟩ := replay_collapse calibration (some [1, 5])
  have hfits : ∀ instruction ∈ bank.body, layout.fits instruction.bits = true := by decide
  obtain ⟨hwords, hchannels⟩ := hbanks bank (Program.ofBody [⟨1, 1⟩, Snapshot.wait 2, ⟨1, 1⟩]) rfl
  refine ⟨hlines line _ rfl, by decide +kernel, hwords, by decide +kernel, hfits, hchannels layout hfits, ?_, ?_⟩
  · rw [hlineWaits ⟨2, some ⟨1, [5]⟩, false, []⟩ _ _ rfl (by decide)]
    decide +kernel
  · rw [hbankWaits ⟨2, none, false, []⟩ _ _ rfl (by decide)]
    decide +kernel

end Program

end Pseudoclock
