/-!
Maps from names in the order in which the names were first put in. A name that is put in again
keeps its place and takes the new value.
-/

namespace Pseudoclock

variable {α : Type}

/-- Puts a value under a name, in place of the value there or behind all others. -/
def putEntry (name : String) (value : α) : List (String × α) → List (String × α)
  | [] => [(name, value)]
  | entry :: rest =>
    if entry.1 = name then (name, value) :: rest else entry :: putEntry name value rest

theorem names_putEntry (name : String) (value : α) (entries : List (String × α)) :
    (putEntry name value entries).map (·.1) =
      if name ∈ entries.map (·.1) then entries.map (·.1) else entries.map (·.1) ++ [name] := by
  induction entries with
  | nil => simp [putEntry]
  | cons entry rest ih =>
    by_cases h : entry.1 = name
    · simp [putEntry, h]
    · have h' : ¬name = entry.1 := fun e => h e.symm
      by_cases hmem : name ∈ rest.map (·.1) <;>
        simp_all [putEntry]

theorem lookup_putEntry (name other : String) (value : α) (entries : List (String × α)) :
    (putEntry name value entries).lookup other =
      if other = name then some value else entries.lookup other := by
  induction entries with
  | nil =>
    by_cases hother : other = name
    · simp [putEntry, hother]
    · have hbeq : (other == name) = false := by simpa using hother
      simp [putEntry, List.lookup_cons, hother, hbeq]
  | cons entry rest ih =>
    obtain ⟨first, content⟩ := entry
    by_cases hother : other = name
    · subst hother
      by_cases hfirst : first = other
      · simp [putEntry, hfirst]
      · have hbeq : (other == first) = false := beq_eq_false_iff_ne.2 fun h => hfirst h.symm
        simpa [putEntry, List.lookup_cons, hfirst, hbeq] using ih
    · have hbeq : (other == name) = false := by simpa using hother
      by_cases hfirst : first = name
      · simp [putEntry, List.lookup_cons, hfirst, hother, hbeq]
      · simp_all [putEntry, List.lookup_cons]

theorem putEntry_of_not_mem {name : String} {entries : List (String × α)} (value : α)
    (hnew : name ∉ entries.map (·.1)) : putEntry name value entries = entries ++ [(name, value)] := by
  induction entries with
  | nil => rfl
  | cons entry rest ih =>
    have hne : ¬entry.1 = name := fun h => hnew (by simp [h])
    have hrest : name ∉ rest.map (·.1) := fun h => hnew (by simp_all)
    simp [putEntry, hne, ih hrest]

/-- Entries under pairwise different names. -/
structure OrderedMap (α : Type) where
  entries : List (String × α)
  nodup : (entries.map (·.1)).Nodup
deriving DecidableEq

namespace OrderedMap

def empty : OrderedMap α := ⟨[], by simp⟩

def names (map : OrderedMap α) : List String :=
  map.entries.map (·.1)

def values (map : OrderedMap α) : List α :=
  map.entries.map (·.2)

def get? (map : OrderedMap α) (name : String) : Option α :=
  map.entries.lookup name

def insert (map : OrderedMap α) (name : String) (value : α) : OrderedMap α where
  entries := putEntry name value map.entries
  nodup := by
    rw [names_putEntry]
    split
    · exact map.nodup
    · next hnew =>
      refine List.nodup_append.2 ⟨map.nodup, by simp, fun a ha b hb hab => hnew ?_⟩
      have hname : a = name := hab.trans (by simpa using hb)
      exact hname ▸ ha

/-- Takes a name out; the others keep their order. -/
def erase (map : OrderedMap α) (name : String) : OrderedMap α where
  entries := map.entries.filter (·.1 ≠ name)
  nodup := map.nodup.sublist ((List.filter_sublist).map _)

def insertAll (map : OrderedMap α) (entries : List (String × α)) : OrderedMap α :=
  entries.foldl (fun map entry => map.insert entry.1 entry.2) map

def ofEntries (entries : List (String × α)) : OrderedMap α :=
  empty.insertAll entries

theorem names_insert (map : OrderedMap α) (name : String) (value : α) :
    (map.insert name value).names =
      if name ∈ map.names then map.names else map.names ++ [name] :=
  names_putEntry name value map.entries

/-- Putting a value in changes what is under its name and nothing else. -/
theorem get?_insert (map : OrderedMap α) (name other : String) (value : α) :
    (map.insert name value).get? other = if other = name then some value else map.get? other :=
  lookup_putEntry name other value map.entries

/-- What is under a name is the entry with that name. -/
theorem get?_eq_some_iff {map : OrderedMap α} {name : String} {value : α} :
    map.get? name = some value ↔ (name, value) ∈ map.entries := by
  rw [get?, List.lookup_eq_some_iff]
  refine ⟨fun ⟨before, after, hentries, _⟩ => by simp [hentries], fun hmem => ?_⟩
  obtain ⟨before, after, hentries⟩ := List.append_of_mem hmem
  refine ⟨before, after, hentries, fun other hother => ?_⟩
  have hnodup := map.nodup
  rw [hentries, List.map_append, List.map_cons, List.nodup_append] at hnodup
  have hne : other.1 ≠ name :=
    hnodup.2.2 other.1 (List.mem_map_of_mem hother) name List.mem_cons_self
  exact bne_iff_ne.2 hne.symm

theorem get?_eq_none_iff {map : OrderedMap α} {name : String} :
    map.get? name = none ↔ name ∉ map.names := by
  rw [get?, List.lookup_eq_none_iff, names, List.mem_map]
  refine ⟨fun hne ⟨entry, hentry, hname⟩ => bne_iff_ne.1 (hne entry hentry) hname.symm,
    fun hnot entry hentry => bne_iff_ne.2 fun hname => hnot ⟨entry, hentry, hname.symm⟩⟩

/-- The order of the entries has no influence on what is under a name. -/
theorem get?_eq_of_perm {map other : OrderedMap α} (hperm : map.entries.Perm other.entries)
    (name : String) : map.get? name = other.get? name :=
  Option.ext fun value => by rw [get?_eq_some_iff, get?_eq_some_iff, hperm.mem_iff]

/-- Entries under new and different names are appended as they are. -/
theorem entries_insertAll (map : OrderedMap α) (entries : List (String × α))
    (hnodup : ((map.entries ++ entries).map (·.1)).Nodup) :
    (map.insertAll entries).entries = map.entries ++ entries := by
  induction entries generalizing map with
  | nil => simp [insertAll]
  | cons entry rest ih =>
    have hnew : entry.1 ∉ map.entries.map (·.1) := by
      intro hmem
      rw [List.map_append, List.nodup_append] at hnodup
      exact hnodup.2.2 _ hmem entry.1 (by simp) rfl
    have hinsert : (map.insert entry.1 entry.2).entries = map.entries ++ [entry] :=
      putEntry_of_not_mem entry.2 hnew
    have hstep := ih (map.insert entry.1 entry.2) (by rw [hinsert]; simpa using hnodup)
    rw [hinsert] at hstep
    simpa [insertAll] using hstep

/-- A list of entries under different names is the content of its map. -/
theorem entries_ofEntries (entries : List (String × α)) (hnodup : (entries.map (·.1)).Nodup) :
    (ofEntries entries).entries = entries := by
  simpa [ofEntries, empty] using entries_insertAll empty entries (by simpa [empty] using hnodup)

end OrderedMap

end Pseudoclock
