import Mathlib

/-!
Computations that may fail, stage by stage.
-/

namespace Pseudoclock

variable {α β ε : Type}

theorem bind_ok (value : α) (second : α → Except ε β) : (Except.ok value >>= second) = second value :=
  rfl

/-- Two stages succeed if the first one does and the second one does on its result. -/
theorem bind_eq_ok_iff {first : Except ε α} {second : α → Except ε β} {result : β} :
    (first >>= second) = .ok result ↔ ∃ value, first = .ok value ∧ second value = .ok result := by
  cases first with
  | error error => simp [bind, Except.bind]
  | ok value => simp [bind, Except.bind]

/-- A stage that only checks leaves the result to the next one. -/
theorem check_bind_eq_ok_iff {check : Except ε Unit} {second : Unit → Except ε β} {result : β} :
    (check >>= second) = .ok result ↔ check = .ok () ∧ second () = .ok result := by
  rw [bind_eq_ok_iff]
  exact ⟨fun ⟨_, hcheck, hsecond⟩ => ⟨hcheck, hsecond⟩, fun ⟨hcheck, hsecond⟩ => ⟨(), hcheck, hsecond⟩⟩

/-- Two stages fail if the first one does, or if the second one does on its result. -/
theorem bind_eq_error_iff {first : Except ε α} {second : α → Except ε β} {error : ε} :
    (first >>= second) = .error error ↔
      first = .error error ∨ ∃ value, first = .ok value ∧ second value = .error error := by
  cases first with
  | error error => simp [bind, Except.bind]
  | ok value => simp [bind, Except.bind]

theorem check_bind_eq_error_iff {check : Except ε Unit} {second : Unit → Except ε β} {error : ε} :
    (check >>= second) = .error error ↔ check = .error error ∨ check = .ok () ∧ second () = .error error := by
  rw [bind_eq_error_iff]
  exact or_congr_right ⟨fun ⟨_, hcheck, hsecond⟩ => ⟨hcheck, hsecond⟩, fun ⟨hcheck, hsecond⟩ => ⟨(), hcheck, hsecond⟩⟩

theorem map_eq_ok_iff {computation : Except ε α} {f : α → β} {result : β} :
    computation.map f = .ok result ↔ ∃ value, computation = .ok value ∧ f value = result := by
  cases computation with
  | error error => simp [Except.map]
  | ok value => simp [Except.map]

theorem map_eq_error_iff {computation : Except ε α} {f : α → β} {error : ε} :
    computation.map f = .error error ↔ computation = .error error := by
  cases computation <;> simp [Except.map]

/-- What comes behind a stage is the same if it is the same for all that the stage lets it see. -/
theorem bind_eq_of_map_eq {γ : Type} {first other : Except ε α} {view : α → γ} {second : α → Except ε β}
    (hview : first.map view = other.map view) (hsecond : ∀ a b, view a = view b → second a = second b) :
    (first >>= second) = (other >>= second) := by
  cases first with
  | error error =>
    rw [map_eq_error_iff.mp hview.symm]
  | ok a =>
    obtain ⟨b, rfl, hb⟩ := map_eq_ok_iff.mp hview.symm
    exact hsecond a b hb.symm

theorem mapError_eq_ok_iff {ε' : Type} {computation : Except ε α} {f : ε → ε'} {result : α} :
    computation.mapError f = .ok result ↔ computation = .ok result := by
  cases computation <;> simp [Except.mapError]

theorem mapError_eq_error_iff {ε' : Type} {computation : Except ε α} {f : ε → ε'} {error : ε'} :
    computation.mapError f = .error error ↔ ∃ cause, computation = .error cause ∧ f cause = error := by
  cases computation <;> simp [Except.mapError]

/-- There are results for a list if there is one for each item. -/
theorem mapM_eq_ok_iff {f : α → Except ε β} {items : List α} {results : List β} :
    items.mapM f = .ok results ↔ List.Forall₂ (fun item result => f item = .ok result) items results := by
  induction items generalizing results with
  | nil => simp [pure, Except.pure, eq_comm]
  | cons item items ih =>
    simp only [List.mapM_cons, bind_eq_ok_iff, ih, pure, Except.pure, Except.ok.injEq,
      List.forall₂_cons_left_iff]
    constructor
    · rintro ⟨result, hresult, results, hresults, rfl⟩
      exact ⟨result, results, hresult, hresults, rfl⟩
    · rintro ⟨result, results, hresult, hresults, rfl⟩
      exact ⟨result, hresult, results, hresults, rfl⟩

theorem exists_mapM_eq_ok_iff {f : α → Except ε β} {items : List α} :
    (∃ results, items.mapM f = .ok results) ↔ ∀ item ∈ items, ∃ result, f item = .ok result := by
  induction items with
  | nil => simp [pure, Except.pure]
  | cons item items ih =>
    simp only [List.mapM_cons, bind_eq_ok_iff, pure, Except.pure, Except.ok.injEq, List.forall_mem_cons, ← ih]
    constructor
    · rintro ⟨_, result, hresult, results, hresults, rfl⟩
      exact ⟨⟨result, hresult⟩, results, hresults⟩
    · rintro ⟨⟨result, hresult⟩, results, hresults⟩
      exact ⟨_, result, hresult, results, hresults, rfl⟩

/-- A list fails with the error of the first item that does. The items behind it have no influence. -/
theorem mapM_eq_error_iff {f : α → Except ε β} {items : List α} {error : ε} :
    items.mapM f = .error error ↔ ∃ before item after, items = before ++ item :: after ∧
      (∀ earlier ∈ before, ∃ result, f earlier = .ok result) ∧ f item = .error error := by
  induction items with
  | nil => simp [pure, Except.pure]
  | cons item items ih =>
    simp only [List.mapM_cons, bind_eq_error_iff, ih, pure, Except.pure, reduceCtorEq, and_false, exists_false,
      or_false]
    constructor
    · rintro (herror | ⟨result, hresult, before, failing, after, rfl, hbefore, herror⟩)
      · exact ⟨[], item, items, rfl, by simp, herror⟩
      · refine ⟨item :: before, failing, after, rfl, fun earlier hmem => ?_, herror⟩
        rcases List.mem_cons.mp hmem with rfl | hmem
        · exact ⟨result, hresult⟩
        · exact hbefore earlier hmem
    · rintro ⟨_ | ⟨first, before⟩, failing, after, hitems, hbefore, herror⟩
      · obtain ⟨rfl, rfl⟩ := List.cons.inj hitems
        exact .inl herror
      · obtain ⟨rfl, rfl⟩ := List.cons.inj hitems
        obtain ⟨result, hresult⟩ := hbefore item List.mem_cons_self
        exact .inr ⟨result, hresult, before, failing, after, rfl,
          fun earlier hmem => hbefore earlier (List.mem_cons_of_mem _ hmem), herror⟩

/-- A list that was written item by item is read back if every item is. -/
theorem mapM_map_eq_ok {write : α → β} {read : β → Except ε α} {items : List α}
    (hitems : ∀ item ∈ items, read (write item) = .ok item) : (items.map write).mapM read = .ok items := by
  induction items with
  | nil => rfl
  | cons item items ih =>
    rw [List.map_cons, List.mapM_cons, hitems item (by simp), ih fun other hother => hitems other (by simp [hother])]
    rfl

end Pseudoclock
