import Mathlib
import Pseudoclock.Format.Dataset
import Pseudoclock.Proofs.Json.Decoding

/-!
Datasets survive their file format, whatever is in their tables: also columns of unequal length, and names
that need escapes.
-/

namespace Pseudoclock

open Json (Decoder Reading Value)

theorem decode_columnToJson (column : List UInt32) :
    Json.Decode.list Json.Decode.uint32 (columnToJson column).reading = .ok column :=
  Json.Decode.list_map fun n _ => Json.Decode.uint32_toNat n

theorem decode_wordColumnToJson (column : List UInt64) :
    Json.Decode.list Json.Decode.uint64 (wordColumnToJson column).reading = .ok column :=
  Json.Decode.list_map fun n _ => Json.Decode.uint64_toNat n

/-- A column can be kept until the kind of its table is known. -/
theorem isKept_columnToJson (column : List UInt32) {depth : Nat} (hdepth : depth ≠ 0) :
    (columnToJson column).reading.isKept depth = true := by
  have hitems : ∀ n ∈ column, (Json.Numeral.ofNat n.toNat).toFloat?.isSome = true :=
    fun n _ => Json.isSome_toFloat?_ofNat (lt_trans n.toNat_lt (by decide))
  simpa [columnToJson, Value.reading, Reading.isKept, hdepth] using hitems

theorem isKept_wordColumnToJson (column : List UInt64) {depth : Nat} (hdepth : depth ≠ 0) :
    (wordColumnToJson column).reading.isKept depth = true := by
  have hitems : ∀ n ∈ column, (Json.Numeral.ofNat n.toNat).toFloat?.isSome = true :=
    fun n _ => Json.isSome_toFloat?_ofNat n.toNat_lt
  simpa [wordColumnToJson, Value.reading, Reading.isKept, hdepth] using hitems

namespace Table

private theorem toggleOfColumns_toggle (period reps : List UInt32) :
    toggleOfColumns [("period", (columnToJson period).reading), ("reps", (columnToJson reps).reading)] =
      .ok (.toggle period reps) := by
  have hrecord := @Json.Record.ofNamed_of_known ["period", "reps"]
    [("period", columnToJson period), ("reps", columnToJson reps)] (by simp) (by simp)
  rw [List.map_cons, List.map_cons, List.map_nil] at hrecord
  rw [toggleOfColumns, hrecord]
  change (Json.Decode.list Json.Decode.uint32 (columnToJson period).reading >>= fun period =>
    Json.Decode.list Json.Decode.uint32 (columnToJson reps).reading >>= fun reps =>
      (.ok (.toggle period reps) : Except DocumentFault Table)) = _
  rw [decode_columnToJson, decode_columnToJson]
  rfl

private theorem snapshotOfColumns_snapshot (reps : List UInt32) (bits : List UInt64) :
    snapshotOfColumns [("reps", (columnToJson reps).reading), ("bits", (wordColumnToJson bits).reading)] =
      .ok (.snapshot reps bits) := by
  have hrecord := @Json.Record.ofNamed_of_known ["reps", "bits"]
    [("reps", columnToJson reps), ("bits", wordColumnToJson bits)] (by simp) (by simp)
  rw [List.map_cons, List.map_cons, List.map_nil] at hrecord
  rw [snapshotOfColumns, hrecord]
  change (Json.Decode.list Json.Decode.uint32 (columnToJson reps).reading >>= fun reps =>
    Json.Decode.list Json.Decode.uint64 (wordColumnToJson bits).reading >>= fun bits =>
      (.ok (.snapshot reps bits) : Except DocumentFault Table)) = _
  rw [decode_columnToJson, decode_wordColumnToJson]
  rfl

/-- Without a column of periods there is no toggle table. -/
private theorem toggleOfColumns_snapshot (reps bits : Reading) :
    ∃ fault, toggleOfColumns [("reps", reps), ("bits", bits)] = .error fault := by
  cases hbits : bits.isComplete with
  | false =>
    have hrecord : Json.Record.ofNamed ["period", "reps"] [("reps", reps), ("bits", bits)] = Json.malformed := by
      simp [Json.Record.ofNamed, hbits]
    exact ⟨_, by rw [toggleOfColumns, hrecord]; rfl⟩
  | true =>
    have hrecord : Json.Record.ofNamed ["period", "reps"] [("reps", reps), ("bits", bits)] =
        .ok ⟨[("reps", reps)]⟩ := by
      simp [Json.Record.ofNamed, hbits]
    exact ⟨_, by rw [toggleOfColumns, hrecord]; rfl⟩

private theorem ofJson_object {fields : List (Option String × Reading)} {columns : List (String × Reading)}
    (hkept : (Reading.object fields).isKept (Json.greatestDepth - 2) = true)
    (hnamed : fields.mapM Json.Record.named = .ok columns) :
    Table.ofJson 2 (.object fields) =
      match toggleOfColumns columns with
      | .ok table => .ok table
      | .error _ => snapshotOfColumns columns := by
  rw [ofJson, if_pos hkept, hnamed]
  rfl

/-- A table is read back as one of its own kind. -/
theorem ofJson_toJson (table : Table) : Table.ofJson 2 table.toJson.reading = .ok table := by
  have hkept : table.toJson.reading.isKept (Json.greatestDepth - 2) = true := by
    cases table <;> simp [toJson, Value.reading, Reading.isKept, Json.fieldsKept, isKept_columnToJson,
      isKept_wordColumnToJson, Json.greatestDepth]
  cases table with
  | toggle period reps =>
    simp only [toJson, Value.reading, Json.fieldReadings] at hkept ⊢
    rw [ofJson_object hkept rfl]
    change (match toggleOfColumns [("period", (columnToJson period).reading),
      ("reps", (columnToJson reps).reading)] with | .ok table => _ | .error _ => _) = _
    rw [toggleOfColumns_toggle]
  | snapshot reps bits =>
    simp only [toJson, Value.reading, Json.fieldReadings] at hkept ⊢
    rw [ofJson_object hkept rfl]
    obtain ⟨fault, htoggle⟩ := toggleOfColumns_snapshot (columnToJson reps).reading (wordColumnToJson bits).reading
    change (match toggleOfColumns [("reps", (columnToJson reps).reading),
      ("bits", (wordColumnToJson bits).reading)] with | .ok table => _ | .error _ => _) = _
    rw [htoggle]
    exact snapshotOfColumns_snapshot reps bits

end Table

namespace Dataset

private theorem decode_tables (tables : OrderedMap Table) :
    Json.Decode.map (Table.ofJson 2)
      (Value.object (tables.entries.map fun entry => (entry.1, entry.2.toJson))).reading = .ok tables :=
  Json.Decode.map_entries fun entry _ => Table.ofJson_toJson entry.2

/-- A dataset is read back from its text: the device, and all tables with their entries in their order. -/
theorem ofText_toText (dataset : Dataset) : ofText dataset.toText = .ok dataset := by
  rw [ofText, toText, Json.decode_text ofJson, ofJson, toJson,
    Json.Record.ofReading_object (by simp) (by simp)]
  change Except.mapError Error.unreadable (Json.Decode.map (Table.ofJson 2) (Value.object
    (dataset.tables.entries.map fun entry => (entry.1, entry.2.toJson))).reading >>= fun tables =>
      (.ok ⟨dataset.device, tables⟩ : Except DocumentFault Dataset)) = _
  rw [decode_tables]
  rfl

/-- Tables with different names are read back as they were put into a dataset. They may be of any size and
have columns of unequal length, and their names and that of the device may be any text. -/
theorem ofText_toText_ofEntries (device : String) {tables : List (String × Table)}
    (hnames : (tables.map (·.1)).Nodup) :
    ∃ stored, ofText (toText ⟨device, .ofEntries tables⟩) = .ok stored ∧
      stored.device = device ∧ stored.tables.entries = tables := by
  have hread := ofText_toText ⟨device, .ofEntries tables⟩
  have hentries := OrderedMap.entries_ofEntries tables hnames
  exact ⟨_, hread, rfl, hentries⟩

/-- Names of quotes and control characters, columns of unequal length, and the greatest register values. -/
theorem ofText_toText_ofEntries_ragged :
    ([("\"", .toggle [0xffffffff, 0] [1]), ("\\u\n\x01", .snapshot [] [0xffffffffffffffff])].map
      (Prod.fst : String × Table → String)).Nodup ∧
    ∃ stored, ofText (toText ⟨"\t✓", .ofEntries
        [("\"", .toggle [0xffffffff, 0] [1]), ("\\u\n\x01", .snapshot [] [0xffffffffffffffff])]⟩) = .ok stored ∧
      stored.tables.entries =
        [("\"", .toggle [0xffffffff, 0] [1]), ("\\u\n\x01", .snapshot [] [0xffffffffffffffff])] := by
  have hnames : ([("\"", .toggle [0xffffffff, 0] [1]), ("\\u\n\x01", .snapshot [] [0xffffffffffffffff])].map
      (Prod.fst : String × Table → String)).Nodup := by decide
  obtain ⟨stored, hread, _, hentries⟩ := ofText_toText_ofEntries "\t✓" hnames
  exact ⟨hnames, stored, hread, hentries⟩

end Dataset

end Pseudoclock
