import Mathlib
import Pseudoclock.Proofs.Decimal.Document
import Pseudoclock.Proofs.Except
import Pseudoclock.Proofs.Json.Writing
import Pseudoclock.Proofs.OrderedMap

/-!
Decoders on what their values are written as: numbers, texts, lists and objects with fixed fields.
-/

namespace Pseudoclock.Json

@[simp] theorem itemsKept_eq_all (depth : Nat) (items : List Reading) :
    itemsKept depth items = items.all (Reading.isKept depth) := by
  induction items with
  | nil => rfl
  | cons item items ih => rw [itemsKept, ih, List.all_cons]

/-- A number comes back from its literal in a document. Reading rounds once for the digits and once for the
power of ten, so that not all numbers do. -/
def IsStable (x : Float) : Prop :=
  decode Decode.float ((Value.float x).text .compact) = .ok x

instance (x : Float) : Decidable (IsStable x) :=
  inferInstanceAs (Decidable (decode Decode.float ((Value.float x).text .compact) = .ok x))

/-- What is not finite is written as `null`, which is no number. -/
theorem IsStable.isFinite {x : Float} (hstable : IsStable x) : x.isFinite = true := by
  by_contra hnot
  rw [IsStable, decode_text Decode.float, Value.reading, if_neg hnot] at hstable
  cases hstable

namespace Decode

/-- A number that is in range is decoded from its literal. -/
theorem natural_ofNat {n greatest : Nat} (hn : n ≤ greatest) :
    natural greatest (.number (Numeral.ofNat n)) = .ok n := by
  simp [natural, hn]

theorem uint8_toNat (n : UInt8) : uint8 (Value.natural n.toNat).reading = .ok n := by
  have hn : n.toNat ≤ UInt8.size - 1 := Nat.le_pred_of_lt n.toNat_lt
  simp only [Value.reading, uint8, natural_ofNat hn]
  simp [bind, Except.bind, pure, Except.pure]

theorem uint32_toNat (n : UInt32) : uint32 (Value.natural n.toNat).reading = .ok n := by
  have hn : n.toNat ≤ UInt32.size - 1 := Nat.le_pred_of_lt n.toNat_lt
  simp only [Value.reading, uint32, natural_ofNat hn]
  simp [bind, Except.bind, pure, Except.pure]

theorem uint64_toNat (n : UInt64) : uint64 (Value.natural n.toNat).reading = .ok n := by
  have hn : n.toNat ≤ UInt64.size - 1 := Nat.le_pred_of_lt n.toNat_lt
  simp only [Value.reading, uint64, natural_ofNat hn]
  simp [bind, Except.bind, pure, Except.pure]

theorem float_of_isStable {x : Float} (hstable : IsStable x) : float (Value.float x).reading = .ok x := by
  exact (decode_text float (.float x) .compact).symm.trans hstable

example : IsStable 25e-9 ∧ ¬IsStable (1 / 11) := by decide +kernel

/-- A list is decoded if all of its items are. -/
theorem list_map {α : Type} {write : α → Value} {decoder : Decoder α} {items : List α}
    (hitems : ∀ item ∈ items, decoder (write item).reading = .ok item) :
    list decoder (Value.array (items.map write)).reading = .ok items := by
  simp only [Value.reading, itemReadings_eq_map, List.map_map, list]
  exact mapM_map_eq_ok hitems

theorem list_string (texts : List String) : list string (Value.array (texts.map .string)).reading = .ok texts :=
  list_map fun _ _ => rfl

/-- A map is decoded if all of its values are. -/
theorem map_entries {α : Type} {write : α → Value} {decoder : Decoder α} {entries : OrderedMap α}
    (hentries : ∀ entry ∈ entries.entries, decoder (write entry.2).reading = .ok entry.2) :
    map decoder (Value.object (entries.entries.map fun entry => (entry.1, write entry.2))).reading = .ok entries := by
  have hfields : (entries.entries.map fun entry => (some entry.1, (write entry.2).reading)).mapM
      (entry decoder) = .ok entries.entries := by
    refine mapM_map_eq_ok fun field hfield => ?_
    simp only [entry, hentries field hfield]
    rfl
  simp only [Value.reading, fieldReadings_eq_map, List.map_map, Function.comp_def, map, hfields]
  change Except.ok (OrderedMap.ofEntries entries.entries) = _
  rw [OrderedMap.ofEntries_entries]

end Decode

namespace Record

variable {known : List String} {fields : List (String × Value)}

/-- The parts of an object, by name. -/
theorem mapM_named (fields : List (String × Value)) :
    (fieldReadings fields).mapM named = .ok (fields.map fun field => (field.1, field.2.reading)) := by
  induction fields with
  | nil => rfl
  | cons field fields ih =>
    simp only [fieldReadings, List.mapM_cons, ih]
    rfl

/-- Parts with different known names make a record. -/
theorem ofNamed_of_known (hknown : ∀ field ∈ fields, field.1 ∈ known) (hnodup : (fields.map (·.1)).Nodup) :
    ofNamed known (fields.map fun field => (field.1, field.2.reading)) =
      .ok ⟨fields.map fun field => (field.1, field.2.reading)⟩ := by
  have hparts : ∀ part ∈ fields.map fun field => (field.1, field.2.reading), known.contains part.1 = true := by
    intro part hpart
    obtain ⟨field, hfield, rfl⟩ := List.mem_map.mp hpart
    simpa using hknown field hfield
  have hpartition : (fields.map fun field => (field.1, field.2.reading)).partition (known.contains ·.1) =
      (fields.map fun field => (field.1, field.2.reading), []) := by
    rw [List.partition_eq_filter_filter, List.filter_eq_self.mpr hparts,
      List.filter_eq_nil_iff.mpr fun part hpart => by simpa using hparts part hpart]
  rw [ofNamed, hpartition]
  simp [List.map_map, Function.comp_def, hnodup]

/-- An object that was written with different known names is read with its parts. -/
theorem ofReading_object (hknown : ∀ field ∈ fields, field.1 ∈ known) (hnodup : (fields.map (·.1)).Nodup) :
    ofReading known (Value.object fields).reading = .ok ⟨fields.map fun field => (field.1, field.2.reading)⟩ := by
  rw [Value.reading, ofReading, mapM_named]
  exact ofNamed_of_known hknown hnodup

end Record

end Pseudoclock.Json
