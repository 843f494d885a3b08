import Mathlib
import Pseudoclock.Proofs.Except
import Pseudoclock.Table

/-!
Programs as the rows of tables. A table is read as a program exactly if it is what the program is written as,
so that nothing is lost between the two in either direction.
-/

namespace Pseudoclock

def Toggle.fields : Toggle ≃ UInt32 × UInt32 where
  toFun instruction := (instruction.period, instruction.reps)
  invFun columns := ⟨columns.1, columns.2⟩
  left_inv _ := rfl
  right_inv _ := rfl

def Snapshot.fields : Snapshot ≃ UInt32 × UInt64 where
  toFun instruction := (instruction.reps, instruction.bits)
  invFun columns := ⟨columns.1, columns.2⟩
  left_inv _ := rfl
  right_inv _ := rfl

variable {α β ι : Type}

namespace Program

/-- Instructions are taken for a program as they are. -/
theorem ofInstructions_eq_ok_iff {instructions : List ι} {program : Program ι} :
    ofInstructions instructions = .ok program ↔ program.instructions = instructions := by
  rw [ofInstructions]
  split
  · rw [Except.ok.injEq]
    constructor
    · rintro rfl
      rfl
    · rintro rfl
      rfl
  · next hshort =>
    refine iff_of_false (by simp) ?_
    rintro rfl
    exact hshort program.stopLength_le

theorem ofInstructions_of_lt {instructions : List ι} (hshort : instructions.length < stopLength) :
    ofInstructions instructions = .error (.malformedProgram (.missingStop instructions.length)) :=
  dif_neg (not_le_of_gt hshort)

end Program

namespace Table

/-- The program whose instructions have the rows of two columns for their fields. -/
def readRows (fields : ι ≃ α × β) (leftName rightName : String) (left : List α) (right : List β) :
    Except Error (Program ι) := do
  checkColumns leftName left.length rightName right.length
  Program.ofInstructions (List.zipWith (fun a b => fields.symm (a, b)) left right)

variable {fields : ι ≃ α × β} {leftName rightName : String} {left : List α} {right : List β}

theorem checkColumns_eq_ok_iff {leftRows rightRows : Nat} :
    checkColumns leftName leftRows rightName rightRows = .ok () ↔ leftRows = rightRows := by
  rw [checkColumns]
  split <;> simp [*]

/-- Columns of equal length are those of the instructions that are put together from them. -/
theorem eq_zipWith_iff {instructions : List ι} :
    left.length = right.length ∧ instructions = List.zipWith (fun a b => fields.symm (a, b)) left right ↔
      instructions.map (fields · |>.1) = left ∧ instructions.map (fields · |>.2) = right := by
  constructor
  · rintro ⟨hsame, rfl⟩
    have hrows : (List.zipWith (fun a b => fields.symm (a, b)) left right).map fields = left.zip right := by
      simp [List.map_zipWith, List.zip]
    constructor
    · calc _ = (left.zip right).map (·.1) := by rw [← hrows, List.map_map]; rfl
        _ = left := List.map_fst_zip hsame.le
    · calc _ = (left.zip right).map (·.2) := by rw [← hrows, List.map_map]; rfl
        _ = right := List.map_snd_zip hsame.ge
  · rintro ⟨rfl, rfl⟩
    simp [List.zipWith_map]

/-- Columns are read as the program that has them. -/
theorem readRows_eq_ok_iff {program : Program ι} : readRows fields leftName rightName left right = .ok program ↔
    program.instructions.map (fields · |>.1) = left ∧ program.instructions.map (fields · |>.2) = right := by
  rw [readRows, check_bind_eq_ok_iff, checkColumns_eq_ok_iff, Program.ofInstructions_eq_ok_iff, eq_zipWith_iff]

theorem toToggleProgram_toggle (period reps : List UInt32) :
    (toggle period reps).toToggleProgram = readRows Toggle.fields "period" "reps" period reps :=
  rfl

theorem toSnapshotProgram_snapshot (reps : List UInt32) (bits : List UInt64) :
    (snapshot reps bits).toSnapshotProgram = readRows Snapshot.fields "reps" "bits" reps bits :=
  rfl

theorem toToggleProgram_eq_ok_iff {table : Table} {program : Program Toggle} :
    table.toToggleProgram = .ok program ↔ ofToggleProgram program = table := by
  cases table with
  | toggle period reps =>
    rw [toToggleProgram_toggle, readRows_eq_ok_iff, ofToggleProgram, toggle.injEq]
    rfl
  | snapshot reps bits => simp [toToggleProgram, ofToggleProgram]

theorem toSnapshotProgram_eq_ok_iff {table : Table} {program : Program Snapshot} :
    table.toSnapshotProgram = .ok program ↔ ofSnapshotProgram program = table := by
  cases table with
  | toggle period reps => simp [toSnapshotProgram, ofSnapshotProgram]
  | snapshot reps bits =>
    rw [toSnapshotProgram_snapshot, readRows_eq_ok_iff, ofSnapshotProgram, snapshot.injEq]
    rfl

theorem toToggleProgram_ofToggleProgram (program : Program Toggle) :
    (ofToggleProgram program).toToggleProgram = .ok program :=
  toToggleProgram_eq_ok_iff.mpr rfl

theorem toSnapshotProgram_ofSnapshotProgram (program : Program Snapshot) :
    (ofSnapshotProgram program).toSnapshotProgram = .ok program :=
  toSnapshotProgram_eq_ok_iff.mpr rfl

end Table

end Pseudoclock
