import Mathlib
import Pseudoclock.CommandLine.FileSystem
import Pseudoclock.Proofs.Except

/-!
What a write to one file changes. A path leads through directories only, so that a file at its end makes no
directory and takes none away: other paths lead where they led, and to the same contents.
-/

namespace Pseudoclock.CommandLine.FileSystem

variable {fs before after : FileSystem} {location : Location}

/-- Whatever stands in front of a location is a directory. -/
def IsReached (fs : FileSystem) (location : Location) : Prop :=
  ∀ ancestor, ancestor <+: location → ancestor ≠ location → fs.isDirectory ancestor = true

theorem enter_eq_ok_iff : fs.enter location = .ok () ↔ fs.isDirectory location = true := by
  rw [enter]
  split
  · simp_all
  · split <;> simp_all

section Reaching

theorem isDirectory_nil (fs : FileSystem) : fs.isDirectory [] = true := by
  simp [isDirectory, isGiven]

theorem isReached_singleton (fs : FileSystem) (name : String) : fs.IsReached [name] := by
  intro ancestor hancestor hne
  rcases List.prefix_concat_iff.mp (show ancestor <+: [] ++ [name] from hancestor) with rfl | hnil
  · exact absurd rfl hne
  · rw [List.prefix_nil.mp hnil]
    exact fs.isDirectory_nil

theorem IsReached.append (hreached : fs.IsReached location) (hdirectory : fs.isDirectory location = true)
    (name : String) : fs.IsReached (location ++ [name]) := by
  intro ancestor hancestor hne
  rcases List.prefix_concat_iff.mp hancestor with rfl | hancestor
  · exact absurd rfl hne
  · by_cases hsame : ancestor = location
    · rw [hsame]
      exact hdirectory
    · exact hreached ancestor hancestor hsame

theorem IsReached.parent (hreached : fs.IsReached location) (hdirectory : fs.isDirectory location = true) :
    fs.IsReached location.parent := by
  rw [Location.parent]
  split
  · exact fs.isReached_singleton ".."
  · exact hreached.append hdirectory ".."
  · exact hreached
  · next hlast =>
    intro ancestor hancestor _
    refine hreached ancestor (hancestor.trans (List.dropLast_prefix location)) ?_
    rintro rfl
    have hne : ancestor ≠ [] := by
      rintro rfl
      cases hlast
    have hshorter := hancestor.length_le
    rw [List.length_dropLast] at hshorter
    have hpos := List.length_pos_iff.mpr hne
    omega

/-- Where a component leads from a directory; the files have no say in it. -/
def next (location : Location) (component : String) : Except FileFault Location :=
  match component with
  | "" => .ok location
  | "." => .ok location
  | ".." => .ok location.parent
  | name => if nameLimit < name.utf8ByteSize then .error .nameTooLong else .ok (location ++ [name])

theorem step_eq_ok_iff {component : String} {target : Location} :
    fs.step location component = .ok target ↔ fs.isDirectory location = true ∧ next location component = .ok target := by
  have hstep : fs.step location component = (fs.enter location >>= fun _ => next location component) := by
    rw [step.eq_def, next.eq_def]
    cases fs.enter location with
    | error fault => rfl
    | ok _ =>
      change (match component with | "" => _ | "." => _ | ".." => _ | name => _) = _
      split
      · rfl
      · rfl
      · rfl
      · split <;> rfl
  rw [hstep, check_bind_eq_ok_iff, enter_eq_ok_iff]

theorem IsReached.step (hreached : fs.IsReached location) {component : String} {target : Location}
    (hstep : fs.step location component = .ok target) : fs.IsReached target := by
  obtain ⟨hdirectory, hnext⟩ := step_eq_ok_iff.mp hstep
  rw [next.eq_def] at hnext
  split at hnext
  · exact Except.ok.inj hnext ▸ hreached
  · exact Except.ok.inj hnext ▸ hreached
  · exact Except.ok.inj hnext ▸ hreached.parent hdirectory
  · split at hnext
    · cases hnext
    · exact Except.ok.inj hnext ▸ hreached.append hdirectory _

theorem IsReached.walk (hreached : fs.IsReached location) {components : List String} {target : Location}
    (hwalk : fs.walk location components = .ok target) : fs.IsReached target := by
  induction components generalizing location with
  | nil => exact Except.ok.inj hwalk ▸ hreached
  | cons component components ih =>
    rw [FileSystem.walk, List.foldlM_cons, bind_eq_ok_iff] at hwalk
    obtain ⟨middle, hstep, hwalk⟩ := hwalk
    exact ih (hreached.step hstep) hwalk

theorem locate_eq_ok_iff {path : String} : fs.locate path = .ok location ↔
    path.utf8ByteSize ≤ pathLimit ∧ fs.walk (components path).1 (components path).2 = .ok location := by
  rw [locate]
  by_cases hlong : pathLimit < path.utf8ByteSize
  · rw [if_pos hlong]
    exact iff_of_false (fun hok => by cases hok) fun hlocated => absurd hlocated.1 (not_le.mpr hlong)
  · rw [if_neg hlong, and_iff_right (not_lt.mp hlong)]

/-- What a path leads to is reached through directories. -/
theorem isReached_of_locate {path : String} (hlocate : fs.locate path = .ok location) : fs.IsReached location := by
  refine IsReached.walk ?_ (locate_eq_ok_iff.mp hlocate).2
  rw [components]
  split
  · exact fs.isReached_singleton "/"
  · exact fun ancestor hancestor hne => absurd (List.prefix_nil.mp hancestor) hne

/-- With the same directories, paths lead to the same locations. -/
theorem locate_iff_of_isDirectory (hdirectories : ∀ location, after.isDirectory location = before.isDirectory location)
    {path : String} : after.locate path = .ok location ↔ before.locate path = .ok location := by
  have hwalk : ∀ (components : List String) (start : Location),
      after.walk start components = .ok location ↔ before.walk start components = .ok location := by
    intro components
    induction components with
    | nil => exact fun start => Iff.rfl
    | cons component components ih =>
      intro start
      simp only [FileSystem.walk, List.foldlM_cons, bind_eq_ok_iff, step_eq_ok_iff, hdirectories] at ih ⊢
      simp only [ih]
  rw [locate_eq_ok_iff, locate_eq_ok_iff, hwalk]

end Reaching

section Putting

/-- Putting a file changes what is at its location and nothing else. -/
theorem content?_put (fs : FileSystem) (location other : Location) (content : Content) :
    (fs.put location content).content? other = if other = location then some content else fs.content? other := by
  by_cases hother : other = location
  · simp [content?, put, hother]
  have hlookup : ∀ files : List (Location × Content),
      (files.filter (·.1 != location)).lookup other = files.lookup other := by
    intro files
    induction files with
    | nil => rfl
    | cons file files ih =>
      obtain ⟨own, kept⟩ := file
      by_cases hown : own = location
      · have hne : (other == own) = false := by simpa [hown] using hother
        simpa [hown, List.lookup_cons, hown ▸ hne] using ih
      · simp [hown, List.lookup_cons, ih]
  have hne : (other == location) = false := by simpa using hother
  rw [if_neg hother, content?, put, List.lookup_cons, hne]
  exact hlookup fs.files

theorem isDirectory_iff : fs.isDirectory location = true ↔ isGiven location = true ∨
    ∃ file ∈ fs.files, location <+: file.1 ∧ location.length < file.1.length := by
  simp [isDirectory, List.any_eq_true]

/-- A file at the end of a path makes no directory and takes none away. -/
theorem IsReached.isDirectory_put (hreached : fs.IsReached location) (content : Content) (other : Location) :
    (fs.put location content).isDirectory other = fs.isDirectory other := by
  rw [Bool.eq_iff_iff]
  constructor
  · intro hdirectory
    rcases isDirectory_iff.mp hdirectory with hgiven | ⟨file, hfile, hfront, hshorter⟩
    · exact isDirectory_iff.mpr (.inl hgiven)
    · rcases List.mem_cons.mp hfile with rfl | hfile
      · exact hreached other hfront fun hsame => by simp [hsame] at hshorter
      · exact isDirectory_iff.mpr (.inr ⟨file, List.mem_of_mem_filter hfile, hfront, hshorter⟩)
  · intro hdirectory
    rcases isDirectory_iff.mp hdirectory with hgiven | ⟨file, hfile, hfront, hshorter⟩
    · exact isDirectory_iff.mpr (.inl hgiven)
    · by_cases hsame : file.1 = location
      · exact isDirectory_iff.mpr (.inr ⟨(location, content), List.mem_cons_self, hsame ▸ hfront, hsame ▸ hshorter⟩)
      · have hkept : file ∈ fs.files.filter (·.1 != location) := List.mem_filter.mpr ⟨hfile, by simpa using hsame⟩
        exact isDirectory_iff.mpr (.inr ⟨file, List.mem_cons_of_mem _ hkept, hfront, hshorter⟩)

end Putting

section Writing

variable {path text : String}

theorem read_eq_ok_iff : fs.read path = .ok text ↔ ∃ location, fs.locate path = .ok location ∧
    (fs.content? location = some (.text text) ∨
      text = "" ∧ ∃ kind, fs.content? location = some (.stream kind)) := by
  rw [read, bind_eq_ok_iff]
  refine exists_congr fun location => and_congr_right fun _ => ?_
  cases hcontent : fs.content? location with
  | none =>
    simp only
    split <;> simp
  | some content =>
    cases content with
    | text characters => simp [pure, Except.pure]
    | binary bytes => simp
    | stream kind => simp [pure, Except.pure, eq_comm]

/-- A text is taken by the stream that the path leads to, or by a file there that is made if need be. -/
theorem write_eq_ok {written : Written} (hwrite : fs.write path text = .ok written) :
    ∃ location, fs.locate path = .ok location ∧
      ((∃ kind, fs.content? location = some (.stream kind) ∧ written = .passed kind) ∨
        (∀ kind, fs.content? location ≠ some (.stream kind)) ∧ written = .kept (fs.put location (.text text))) := by
  rw [write] at hwrite
  cases hslash : unslash? path with
  | some shorter =>
    -- a path with a slash at its end is refused in any case
    rw [hslash] at hwrite
    by_cases hlong : pathLimit < path.utf8ByteSize
    · simp only [if_pos hlong] at hwrite
      cases hwrite
    · simp only [if_neg hlong] at hwrite
      obtain ⟨_, _, hwrite⟩ := bind_eq_ok_iff.mp hwrite
      obtain ⟨_, hwrite⟩ := check_bind_eq_ok_iff.mp hwrite
      cases hwrite
  | none =>
    rw [hslash] at hwrite
    obtain ⟨location, hlocate, hwrite⟩ := bind_eq_ok_iff.mp hwrite
    refine ⟨location, hlocate, ?_⟩
    by_cases hdirectory : fs.isDirectory location = true
    · rw [if_pos hdirectory] at hwrite
      cases hwrite
    rw [if_neg hdirectory] at hwrite
    cases hcontent : fs.content? location with
    | none =>
      rw [hcontent] at hwrite
      exact .inr ⟨by simp, (Except.ok.inj hwrite).symm⟩
    | some content =>
      rw [hcontent] at hwrite
      cases content with
      | text characters => exact .inr ⟨by simp, (Except.ok.inj hwrite).symm⟩
      | binary bytes => exact .inr ⟨by simp, (Except.ok.inj hwrite).symm⟩
      | stream kind =>
        cases kind with
        | full => cases hwrite
        | _ => exact .inl ⟨_, rfl, (Except.ok.inj hwrite).symm⟩

/-- Files before and after one of them was written: the path leads to the text, and no directory and no other
file has changed. -/
structure IsWrite (before : FileSystem) (path text : String) (after : FileSystem) : Prop where
  read_eq : after.read path = .ok text
  isDirectory_eq (location : Location) : after.isDirectory location = before.isDirectory location
  content?_eq (location : Location) (hother : before.locate path ≠ .ok location) :
    after.content? location = before.content? location

/-- Paths lead where they led before. -/
theorem IsWrite.locate_iff (hwritten : before.IsWrite path text after) {other : String} :
    after.locate other = .ok location ↔ before.locate other = .ok location :=
  locate_iff_of_isDirectory hwritten.isDirectory_eq

/-- A path that leads elsewhere leads to the same text as before. -/
theorem IsWrite.read_iff (hwritten : before.IsWrite path text after) {other content : String}
    (hother : before.locate other ≠ before.locate path) :
    after.read other = .ok content ↔ before.read other = .ok content := by
  rw [read_eq_ok_iff, read_eq_ok_iff]
  refine exists_congr fun location => ?_
  rw [hwritten.locate_iff]
  refine and_congr_right fun hlocate => ?_
  rw [hwritten.content?_eq location fun hsame => hother (hlocate.trans hsame.symm)]

/-- The path leads to a stream, which keeps nothing. -/
def LeadsToStream (fs : FileSystem) (path : String) : Prop :=
  ∃ location kind, fs.locate path = .ok location ∧ fs.content? location = some (.stream kind)

/-- A path to a file that does not exist yet, in a directory that does. -/
structure IsNew (fs : FileSystem) (path : String) : Prop where
  not_slash : unslash? path = none
  place : ∃ location, fs.locate path = .ok location ∧ fs.content? location = none ∧ fs.isDirectory location = false

theorem IsNew.not_leadsToStream (hnew : fs.IsNew path) : ¬fs.LeadsToStream path := by
  obtain ⟨_, location, hlocate, hcontent, _⟩ := hnew
  rintro ⟨_, kind, hsame, hstream⟩
  obtain rfl := Except.ok.inj (hlocate.symm.trans hsame)
  simp [hcontent] at hstream

/-- Any text can be written there. -/
theorem IsNew.write (hnew : fs.IsNew path) (text : String) : ∃ written, fs.write path text = .ok written := by
  obtain ⟨hslash, location, hlocate, hcontent, hdirectory⟩ := hnew
  refine ⟨.kept (fs.put location (.text text)), ?_⟩
  simp only [FileSystem.write, hslash, hlocate, bind_ok, hdirectory, hcontent]
  rfl

/-- It stays new when another file is written. -/
theorem IsNew.of_isWrite (hnew : before.IsNew path) {other : String} (hwritten : before.IsWrite other text after)
    (hother : before.locate other ≠ before.locate path) : after.IsNew path := by
  obtain ⟨hslash, location, hlocate, hcontent, hdirectory⟩ := hnew
  refine ⟨hslash, location, hwritten.locate_iff.mpr hlocate, ?_, by rw [hwritten.isDirectory_eq, hdirectory]⟩
  rw [hwritten.content?_eq location fun hsame => hother (hsame.trans hlocate.symm), hcontent]

/-- Files before and after a text was accepted: only the file at the path changes, if it is a file. -/
structure IsDelivery (before : FileSystem) (path text : String) (after : FileSystem) : Prop where
  file : ¬before.LeadsToStream path → before.IsWrite path text after
  stream : before.LeadsToStream path → after = before

/-- The files behind a successful write. -/
def behind (before : FileSystem) : Written → FileSystem
  | .kept after => after
  | .passed _ => before

theorem isDelivery_of_write {written : Written} (hwrite : before.write path text = .ok written) :
    before.IsDelivery path text (before.behind written) := by
  obtain ⟨location, hlocate, ⟨kind, hstream, rfl⟩ | ⟨hfile, rfl⟩⟩ := write_eq_ok hwrite
  · exact ⟨fun hnot => absurd ⟨location, kind, hlocate, hstream⟩ hnot, fun _ => rfl⟩
  · have hdirectories := (isReached_of_locate hlocate).isDirectory_put (.text text)
    have hcontents := before.content?_put location
    refine ⟨fun _ => ⟨?_, hdirectories, fun other hother => ?_⟩, ?_⟩
    · refine read_eq_ok_iff.mpr ⟨location, (locate_iff_of_isDirectory hdirectories).mpr hlocate, .inl ?_⟩
      rw [behind, hcontents, if_pos rfl]
    · rw [behind, hcontents, if_neg]
      rintro rfl
      exact hother hlocate
    · rintro ⟨other, kind, hother, hstream⟩
      obtain rfl := Except.ok.inj (hlocate.symm.trans hother)
      exact absurd hstream (hfile kind)

end Writing

end Pseudoclock.CommandLine.FileSystem
