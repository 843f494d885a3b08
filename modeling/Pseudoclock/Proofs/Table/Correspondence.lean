import Mathlib
import Pseudoclock.Proofs.ClockLine.Grammar
import Pseudoclock.Proofs.OutputBank.Holding
import Pseudoclock.Proofs.Table
import Pseudoclock.Replay.ClockLine
import Pseudoclock.Replay.OutputBank

/-!
Tables and programs stand for each other. What the last two rows of a table say has no influence on anything
that is decoded from it, but they have to be there.
-/

namespace Pseudoclock

variable {α β ι : Type}

namespace Program

/-- Behind the body of a program stand two instructions, whatever they are. -/
theorem exists_instructions_eq (program : Program ι) :
    ∃ penultimate last, program.instructions = program.body ++ [penultimate, last] := by
  have hstop : (program.instructions.drop (program.instructions.length - stopLength)).length = 2 := by
    have hlength := program.stopLength_le
    rw [List.length_drop, Nat.sub_sub_self hlength, stopLength]
  obtain ⟨penultimate, last, hlast⟩ := List.length_eq_two.mp hstop
  exact ⟨penultimate, last, by rw [body, ← hlast, List.take_append_drop]⟩

theorem map_body_ofInstructions (instructions : List ι) :
    (ofInstructions instructions).map (·.body) =
      if stopLength ≤ instructions.length then .ok (instructions.take (instructions.length - stopLength))
      else .error (.malformedProgram (.missingStop instructions.length)) := by
  rw [ofInstructions]
  split <;> rfl

variable {calibration : Calibration} {triggers : Option (List Float)}

theorem replayToggle_eq_of_body {program other : Program Toggle} (hbody : program.body = other.body) :
    program.replayToggle calibration triggers = other.replayToggle calibration triggers := by
  rw [replayToggle, replayToggle, hbody]

theorem replayChannels_eq_of_body {program other : Program Snapshot} (hbody : program.body = other.body)
    (layout : Layout) :
    program.replayChannels calibration layout triggers = other.replayChannels calibration layout triggers := by
  simp only [replayChannels, replaySnapshot, checkWords, replayWords, hbody]

end Program

namespace Timeline

variable {timeline : Timeline} {layout : Layout} {capabilities : Capabilities}

theorem eq_ofBody_of_compileToggle {program : Program Toggle}
    (hcompile : timeline.compileToggle capabilities = .ok program) : program = Program.ofBody program.body := by
  rw [compileToggle_eq, check_bind_eq_ok_iff, check_bind_eq_ok_iff, bind_eq_ok_iff] at hcompile
  obtain ⟨_, _, reversed, _, hcompile⟩ := hcompile
  obtain rfl := Except.ok.inj (check_bind_eq_ok_iff.mp hcompile).2
  rw [Program.body_ofBody]

theorem eq_ofBody_of_compileSnapshot {program : Program Snapshot}
    (hcompile : timeline.compileSnapshot layout capabilities = .ok program) :
    program = Program.ofBody program.body := by
  obtain ⟨_, _, _, words, _, _, rfl⟩ := compileSnapshot_eq_ok_iff.mp hcompile
  rw [Program.body_ofBody]

end Timeline

/-- Two columns of one length that differ in their last two rows at most. -/
structure AgreeBeforeStop (column other : List α) : Prop where
  length_eq : column.length = other.length
  getElem?_eq : ∀ index, index + 2 < column.length → column[index]? = other[index]?

theorem AgreeBeforeStop.take_eq {column other : List α} (hagree : AgreeBeforeStop column other) :
    column.take (column.length - stopLength) = other.take (other.length - stopLength) := by
  refine List.ext_getElem? fun index => ?_
  rw [← hagree.length_eq, List.getElem?_take, List.getElem?_take]
  split
  · next hindex => exact hagree.getElem?_eq index (by simp only [stopLength] at hindex; omega)
  · rfl

namespace Table

def toggleColumns? : Table → Option (List UInt32 × List UInt32)
  | .toggle period reps => some (period, reps)
  | .snapshot .. => none

def snapshotColumns? : Table → Option (List UInt32 × List UInt64)
  | .toggle .. => none
  | .snapshot reps bits => some (reps, bits)

/-- Tables of one shape and programs of one kind of instruction stand for each other. `columns?` are the columns of
a table of this shape. -/
structure Corresponds (columns? : Table → Option (List α × List β)) (fields : ι ≃ α × β)
    (read : Table → Except Error (Program ι)) (write : Program ι → Table) : Prop where
  /-- A table is read if it has this shape and two columns of one length that hold a stop sequence. -/
  exists_read_iff (table : Table) : (∃ program, read table = .ok program) ↔
    ∃ left right, columns? table = some (left, right) ∧ left.length = right.length ∧ 2 ≤ left.length
  refuses (table : Table) (error : Error) : read table = .error error → ∃ fault, error = .malformedProgram fault
  /-- Each row is the instruction in its place. -/
  rows (table : Table) (program : Program ι) : read table = .ok program →
    ∃ left right, columns? table = some (left, right) ∧ ∀ (index : Nat) (instruction : ι),
      program.instructions[index]? = some instruction ↔
        left[index]? = some (fields instruction).1 ∧ right[index]? = some (fields instruction).2
  write_read (table : Table) (program : Program ι) : read table = .ok program → write program = table
  read_write (program : Program ι) : read (write program) = .ok program

/-- Two tables of one shape that differ only in their last two rows. -/
inductive DiffersInStop : Table → Table → Prop
  | toggle {period reps period' reps' : List UInt32} (hperiod : AgreeBeforeStop period period')
      (hreps : AgreeBeforeStop reps reps') : DiffersInStop (.toggle period reps) (.toggle period' reps')
  | snapshot {reps reps' : List UInt32} {bits bits' : List UInt64} (hreps : AgreeBeforeStop reps reps')
      (hbits : AgreeBeforeStop bits bits') : DiffersInStop (.snapshot reps bits) (.snapshot reps' bits')

variable {fields : ι ≃ α × β} {leftName rightName : String} {left left' : List α} {right right' : List β}

/-- What the rows of two columns say apart from the last two of them. -/
theorem map_body_readRows : (readRows fields leftName rightName left right).map (·.body) =
    if left.length = right.length then
      if stopLength ≤ left.length then
        .ok (List.zipWith (fun a b => fields.symm (a, b)) (left.take (left.length - stopLength))
          (right.take (right.length - stopLength)))
      else .error (.malformedProgram (.missingStop left.length))
    else .error (.malformedProgram (.raggedColumns leftName left.length rightName right.length)) := by
  rw [readRows, checkColumns]
  split
  · next hsame =>
    rw [bind_ok, Program.map_body_ofInstructions, List.length_zipWith, hsame, min_self, List.take_zipWith]
  · rfl

theorem map_body_readRows_congr (hleft : AgreeBeforeStop left left') (hright : AgreeBeforeStop right right') :
    (readRows fields leftName rightName left right).map (·.body) =
      (readRows fields leftName rightName left' right').map (·.body) := by
  rw [map_body_readRows, map_body_readRows, hleft.take_eq, hright.take_eq, hleft.length_eq, hright.length_eq]

theorem malformed_of_readRows {error : Error}
    (hread : readRows fields leftName rightName left right = .error error) :
    ∃ fault, error = .malformedProgram fault := by
  have hbody : (readRows fields leftName rightName left right).map (·.body) = .error error :=
    map_eq_error_iff.mpr hread
  rw [map_body_readRows] at hbody
  split at hbody
  · split at hbody
    · cases hbody
    · exact ⟨_, (Except.error.inj hbody).symm⟩
  · exact ⟨_, (Except.error.inj hbody).symm⟩

/-- Reading that gives what is written back, from columns that tell tables apart, is exact. -/
private theorem corresponds {columns? : Table → Option (List α × List β)}
    {read : Table → Except Error (Program ι)} {write : Program ι → Table}
    (hread : ∀ table program, read table = .ok program ↔ write program = table)
    (hrefuses : ∀ table error, read table = .error error → ∃ fault, error = .malformedProgram fault)
    (hcolumns : ∀ program, columns? (write program) =
      some (program.instructions.map (fields · |>.1), program.instructions.map (fields · |>.2)))
    (hsame : ∀ table other columns,
      columns? table = some columns → columns? other = some columns → table = other) :
    Corresponds columns? fields read write where
  exists_read_iff table := by
    constructor
    · rintro ⟨program, hprogram⟩
      obtain rfl := (hread table program).mp hprogram
      refine ⟨_, _, hcolumns program, by rw [List.length_map, List.length_map], ?_⟩
      rw [List.length_map]
      exact program.stopLength_le
    · rintro ⟨left, right, htable, hlength, hrows⟩
      have hstop : stopLength ≤ (List.zipWith (fun a b => fields.symm (a, b)) left right).length := by
        rw [List.length_zipWith, ← hlength, min_self]
        exact hrows
      refine ⟨⟨_, hstop⟩, (hread _ _).mpr (hsame _ _ _ ?_ htable)⟩
      obtain ⟨hleft, hright⟩ := eq_zipWith_iff.mp ⟨hlength, rfl⟩
      rw [hcolumns, hleft, hright]
  refuses := hrefuses
  rows table program hprogram := by
    obtain rfl := (hread table program).mp hprogram
    refine ⟨_, _, hcolumns program, fun index instruction => ?_⟩
    rw [List.getElem?_map, List.getElem?_map, Option.map_eq_some_iff, Option.map_eq_some_iff]
    constructor
    · exact fun hindex => ⟨⟨_, hindex, rfl⟩, ⟨_, hindex, rfl⟩⟩
    · -- One row of one column may belong to several instructions, but both columns are those of one list.
      rintro ⟨⟨first, hfirst, hleft⟩, ⟨second, hsecond, hright⟩⟩
      obtain rfl := Option.some.inj (hfirst.symm.trans hsecond)
      rw [hfirst, fields.injective (Prod.ext hleft hright)]
  write_read table program := (hread table program).mp
  read_write program := (hread _ program).mpr rfl

theorem corresponds_toggle : Corresponds toggleColumns? Toggle.fields toToggleProgram ofToggleProgram := by
  refine corresponds (fun _ _ => toToggleProgram_eq_ok_iff) (fun table error hread => ?_) (fun _ => rfl) ?_
  · cases table with
    | toggle period reps => exact malformed_of_readRows (toToggleProgram_toggle period reps ▸ hread)
    | snapshot reps bits => exact ⟨_, (Except.error.inj hread).symm⟩
  · rintro (⟨period, reps⟩ | _) (⟨period', reps'⟩ | _) _ htable hother <;> cases htable <;> cases hother
    rfl

theorem corresponds_snapshot : Corresponds snapshotColumns? Snapshot.fields toSnapshotProgram ofSnapshotProgram := by
  refine corresponds (fun _ _ => toSnapshotProgram_eq_ok_iff) (fun table error hread => ?_) (fun _ => rfl) ?_
  · cases table with
    | toggle period reps => exact ⟨_, (Except.error.inj hread).symm⟩
    | snapshot reps bits => exact malformed_of_readRows (toSnapshotProgram_snapshot reps bits ▸ hread)
  · rintro (_ | ⟨reps, bits⟩) (_ | ⟨reps', bits'⟩) _ htable hother <;> cases htable <;> cases hother
    rfl

variable {table other : Table}

theorem DiffersInStop.map_body_toToggleProgram (hdiffers : table.DiffersInStop other) :
    table.toToggleProgram.map (·.body) = other.toToggleProgram.map (·.body) := by
  cases hdiffers with
  | toggle hperiod hreps =>
    rw [toToggleProgram_toggle, toToggleProgram_toggle, map_body_readRows_congr hperiod hreps]
  | snapshot hreps hbits => rfl

theorem DiffersInStop.map_body_toSnapshotProgram (hdiffers : table.DiffersInStop other) :
    table.toSnapshotProgram.map (·.body) = other.toSnapshotProgram.map (·.body) := by
  cases hdiffers with
  | toggle hperiod hreps => rfl
  | snapshot hreps hbits =>
    rw [toSnapshotProgram_snapshot, toSnapshotProgram_snapshot, map_body_readRows_congr hreps hbits]

/-- Tables are read as programs exactly if they have the right shape and columns of one length that hold a stop
sequence. Nothing is lost or added then: row for row the table is the program, in either direction. However a
program is come by, two instructions stand behind its body. Tables that differ only in these rows are decoded to
the same traces, or refused for the same reason. -/
theorem corresponds_programs :
    Corresponds toggleColumns? Toggle.fields toToggleProgram ofToggleProgram ∧
    Corresponds snapshotColumns? Snapshot.fields toSnapshotProgram ofSnapshotProgram ∧
    (∀ (ι : Type) (instructions : List ι),
      (2 ≤ instructions.length →
        ∃ program, Program.ofInstructions instructions = .ok program ∧ program.instructions = instructions) ∧
      (instructions.length < 2 → Program.ofInstructions instructions =
        .error (.malformedProgram (.missingStop instructions.length)))) ∧
    (∀ (ι : Type) [Instruction ι] (body : List ι),
      (Program.ofBody body).instructions = body ++ [Instruction.stop, Instruction.stop]) ∧
    (∀ (timeline : Timeline) (capabilities : Capabilities) (program : Program Toggle),
      timeline.compileToggle capabilities = .ok program → program = Program.ofBody program.body) ∧
    (∀ (timeline : Timeline) (layout : Layout) (capabilities : Capabilities) (program : Program Snapshot),
      timeline.compileSnapshot layout capabilities = .ok program → program = Program.ofBody program.body) ∧
    (∀ (ι : Type) (program : Program ι),
      ∃ penultimate last, program.instructions = program.body ++ [penultimate, last]) ∧
    ∀ table other : Table, table.DiffersInStop other →
      ∀ (calibration : Calibration) (triggers : Option (List Float)),
        (table.toToggleProgram >>= fun program => program.replayToggle calibration triggers) =
          (other.toToggleProgram >>= fun program => program.replayToggle calibration triggers) ∧
        ∀ layout : Layout,
          (table.toSnapshotProgram >>= fun program => program.replayChannels calibration layout triggers) =
            (other.toSnapshotProgram >>= fun program => program.replayChannels calibration layout triggers) := by
  refine ⟨corresponds_toggle, corresponds_snapshot,
    fun ι instructions => ⟨fun hlength => ?_, Program.ofInstructions_of_lt⟩, fun ι _ body => rfl,
    fun timeline capabilities program => Timeline.eq_ofBody_of_compileToggle,
    fun timeline layout capabilities program => Timeline.eq_ofBody_of_compileSnapshot,
    fun ι => Program.exists_instructions_eq,
    fun table other hdiffers calibration triggers => ⟨?_, fun layout => ?_⟩⟩
  · exact ⟨⟨instructions, hlength⟩, Program.ofInstructions_eq_ok_iff.mpr rfl, rfl⟩
  · exact bind_eq_of_map_eq hdiffers.map_body_toToggleProgram fun _ _ => Program.replayToggle_eq_of_body
  · exact bind_eq_of_map_eq hdiffers.map_body_toSnapshotProgram fun _ _ hbody =>
      Program.replayChannels_eq_of_body hbody layout

/-- One cycle with stop rows that look like cycles and waits. Both tables show that cycle, and one with a row
missing in one column is refused. -/
theorem corresponds_programs_stop :
    let table : Table := .toggle [2, 5, 7] [1, 3, 9]
    let other : Table := .toggle [2, 0, 4] [1, 8, 0]
    let program : Program Toggle := Program.ofBody [⟨2, 1⟩]
    table.DiffersInStop other ∧
    (∃ read, table.toToggleProgram = .ok read ∧ ofToggleProgram read = table ∧
      read.instructions[2]? = some ⟨7, 9⟩) ∧
    (¬ ∃ read, (Table.toggle [2, 0, 0] [1, 0]).toToggleProgram = .ok read) ∧
    Program.ofInstructions [Toggle.wait] = .error (.malformedProgram (.missingStop 1)) ∧
    Timeline.compileToggle [⟨0, .level 1⟩, ⟨1, .level 0⟩] ⟨1, 8, 1⟩ = .ok program ∧
    program = Program.ofBody program.body ∧
    (other.toToggleProgram >>= fun read => read.replayToggle ⟨1, 0, 0⟩ none) =
      .ok ⟨⟨[0, 1], [1, 0]⟩, 1, 2, none⟩ := by
  intro table other program
  obtain ⟨htoggle, _, hshort, _, hcompiled, _, _, hdecode⟩ := corresponds_programs
  have hdiffers : table.DiffersInStop other := by
    have hfirst : ∀ index : Nat, index + 2 < 3 → index = 0 := fun index hindex => by omega
    refine .toggle ⟨rfl, fun index hindex => ?_⟩ ⟨rfl, fun index hindex => ?_⟩
    · obtain rfl := hfirst index hindex
      rfl
    · obtain rfl := hfirst index hindex
      rfl
  have hcompile : Timeline.compileToggle [⟨0, .level 1⟩, ⟨1, .level 0⟩] ⟨1, 8, 1⟩ = .ok program := rfl
  obtain ⟨read, hread⟩ := (htoggle.exists_read_iff table).mpr ⟨_, _, rfl, rfl, by decide⟩
  obtain ⟨_, _, hcolumns, hrows⟩ := htoggle.rows table read hread
  cases hcolumns
  refine ⟨hdiffers, ⟨read, hread, htoggle.write_read table read hread, (hrows 2 ⟨7, 9⟩).mpr ⟨rfl, rfl⟩⟩,
    fun hragged => ?_, (hshort Toggle [Toggle.wait]).2 (by decide), hcompile, hcompiled _ _ _ hcompile, ?_⟩
  · obtain ⟨_, _, hcolumns, hlength, _⟩ := (htoggle.exists_read_iff _).mp hragged
    cases hcolumns
    cases hlength
  · rw [← (hdecode table other hdiffers ⟨1, 0, 0⟩ none).1]
    rfl

end Table

end Pseudoclock
