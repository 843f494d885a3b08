import Mathlib
import Pseudoclock.OrderedMap

/-!
What becomes of a map when entries are put into it: other names keep their places and what is under them, and new
names come behind them in the order of the entries.
-/

namespace Pseudoclock

variable {α : Type}

/-- What is under other names stays where it is. -/
theorem getElem?_putEntry {name : String} {entries : List (String × α)} {index : Nat} {entry : String × α}
    (hentry : entries[index]? = some entry) (hother : entry.1 ≠ name) (value : α) :
    (putEntry name value entries)[index]? = some entry := by
  induction entries generalizing index with
  | nil => simp at hentry
  | cons first rest ih =>
    rw [putEntry]
    cases index with
    | zero =>
      obtain rfl : first = entry := by simpa using hentry
      simp [hother]
    | succ index =>
      rw [List.getElem?_cons_succ] at hentry
      split
      · exact hentry
      · exact ih hentry

/-- What a list of entries has behind a value that was put in is that value, or it was there before. -/
theorem mem_of_mem_putEntry {name : String} {value : α} {entries : List (String × α)} {entry : String × α}
    (hentry : entry ∈ putEntry name value entries) : entry = (name, value) ∨ entry ∈ entries := by
  induction entries with
  | nil => exact .inl (List.mem_singleton.mp hentry)
  | cons first rest ih =>
    rw [putEntry] at hentry
    split at hentry <;> rcases List.mem_cons.mp hentry with hfirst | hrest
    · exact .inl hfirst
    · exact .inr (List.mem_cons_of_mem first hrest)
    · exact .inr (hfirst ▸ List.mem_cons_self)
    · exact (ih hrest).imp_right (List.mem_cons_of_mem first)

namespace OrderedMap

theorem ext {map other : OrderedMap α} (hentries : map.entries = other.entries) : map = other := by
  cases map
  cases other
  cases hentries
  rfl

/-- A map is made again of its own entries. -/
theorem ofEntries_entries (map : OrderedMap α) : ofEntries map.entries = map :=
  OrderedMap.ext (entries_ofEntries map.entries map.nodup)

/-- Entries that are put in leave everything under other names in its place. -/
theorem getElem?_insertAll {map : OrderedMap α} {entries : List (String × α)} {index : Nat} {entry : String × α}
    (hentry : map.entries[index]? = some entry) (hother : entry.1 ∉ entries.map (·.1)) :
    (map.insertAll entries).entries[index]? = some entry := by
  induction entries generalizing map with
  | nil => exact hentry
  | cons first rest ih =>
    rw [List.map_cons, List.mem_cons, not_or] at hother
    exact ih (getElem?_putEntry hentry hother.1 first.2) hother.2

/-- The names that a map has keep their order, and the new ones come behind them. -/
theorem names_insertAll (map : OrderedMap α) {entries : List (String × α)} (hnodup : (entries.map (·.1)).Nodup) :
    (map.insertAll entries).names = map.names ++ (entries.map (·.1)).filter (· ∉ map.names) := by
  induction entries generalizing map with
  | nil => simp [insertAll]
  | cons entry rest ih =>
    obtain ⟨hnew, hrest⟩ := List.nodup_cons.mp hnodup
    have hstep : (map.insertAll (entry :: rest)).names = _ := ih (map.insert entry.1 entry.2) hrest
    rw [hstep, names_insert, List.map_cons, List.filter_cons]
    by_cases hmem : entry.1 ∈ map.names
    · simp [hmem]
    · have hsame : ∀ name ∈ rest.map (·.1), decide (name ∉ map.names ++ [entry.1]) = decide (name ∉ map.names) := by
        intro name hname
        have hne : name ≠ entry.1 := fun heq => hnew (by simpa [heq] using hname)
        simp [hne]
      simp only [hmem, if_false, not_false_eq_true, decide_true, if_true]
      rw [List.filter_congr hsame, List.append_assoc, List.singleton_append]

/-- Entries that are put in are found under their names, and nothing else changes. -/
theorem get?_insertAll (map : OrderedMap α) {entries : List (String × α)} (hnodup : (entries.map (·.1)).Nodup)
    (name : String) : (map.insertAll entries).get? name = (entries.lookup name).or (map.get? name) := by
  induction entries generalizing map with
  | nil => rfl
  | cons entry rest ih =>
    obtain ⟨hnew, hrest⟩ := List.nodup_cons.mp hnodup
    have hstep : (map.insertAll (entry :: rest)).get? name = _ := ih (map.insert entry.1 entry.2) hrest
    rw [hstep, get?_insert, List.lookup_cons]
    by_cases hname : name = entry.1
    · subst hname
      have hnone : rest.lookup entry.1 = none := by
        refine List.lookup_eq_none_iff.mpr fun other hother => bne_iff_ne.mpr fun heq => hnew ?_
        exact List.mem_map.mpr ⟨other, hother, heq.symm⟩
      simp [hnone]
    · have hbeq : (name == entry.1) = false := beq_eq_false_iff_ne.mpr hname
      simp [hname, hbeq]

/-- A map has nothing but what it had before and what was put in. -/
theorem mem_of_mem_insertAll {map : OrderedMap α} {entries : List (String × α)} {entry : String × α}
    (hentry : entry ∈ (map.insertAll entries).entries) : entry ∈ map.entries ∨ entry ∈ entries := by
  induction entries generalizing map with
  | nil => exact .inl hentry
  | cons first rest ih =>
    rcases ih hentry with hinsert | hrest
    · rcases mem_of_mem_putEntry hinsert with rfl | hbefore
      · exact .inr List.mem_cons_self
      · exact .inl hbefore
    · exact .inr (List.mem_cons_of_mem first hrest)

/-- What a map becomes when another one is put into it. The names that it has keep their places, and so does what is
under them unless the other map has it too. -/
structure IsUpdate (updated map other : OrderedMap α) : Prop where
  names_eq : updated.names = map.names ++ other.names.filter (· ∉ map.names)
  get?_eq (name : String) : updated.get? name = (other.get? name).or (map.get? name)
  getElem?_eq {index : Nat} {entry : String × α} (hentry : map.entries[index]? = some entry)
    (hother : entry.1 ∉ other.names) : updated.entries[index]? = some entry

theorem isUpdate_insertAll (map : OrderedMap α) {entries : List (String × α)} (hnodup : (entries.map (·.1)).Nodup) :
    (map.insertAll entries).IsUpdate map (ofEntries entries) := by
  have hentries := entries_ofEntries entries hnodup
  have hnames : (ofEntries entries).names = entries.map (·.1) := by rw [names, hentries]
  refine ⟨?_, fun name => ?_, fun hentry hother => getElem?_insertAll hentry (hnames ▸ hother)⟩
  · rw [names_insertAll map hnodup, hnames]
  · rw [get?_insertAll map hnodup, get?.eq_def (ofEntries entries), hentries]

end OrderedMap

end Pseudoclock
