import Mathlib
import Pseudoclock.Error

/-!
Computations that accept or refuse a timeline, stage by stage.
-/

namespace Pseudoclock

variable {α β : Type} {accepted narrower : Prop} {result : α → Prop} {final : β → Prop}

/-- A computation gives a value with a property if a timeline is acceptable, and refuses it as invalid
otherwise. -/
def Decides (computation : Except Error α) (accepted : Prop) (result : α → Prop) : Prop :=
  (accepted ∧ ∃ value, computation = .ok value ∧ result value) ∨
    (¬ accepted ∧ ∃ fault, computation = .error (.invalidTimeline fault))

namespace Decides

theorem accept {value : α} (haccepted : accepted) (hresult : result value) :
    Decides (.ok value) accepted result :=
  .inl ⟨haccepted, value, rfl, hresult⟩

theorem refuse (hnot : ¬ accepted) (fault : TimelineFault) :
    Decides (.error (.invalidTimeline fault)) accepted result :=
  .inr ⟨hnot, fault, rfl⟩

/-- Two stages decide what the second one does, if nothing that the first one refuses is acceptable. -/
theorem bind {first : Except Error α} {second : α → Except Error β} (hfirst : Decides first accepted result)
    (hsecond : accepted → ∀ value, result value → Decides (second value) narrower final)
    (hnarrower : narrower → accepted) : Decides (first >>= second) narrower final := by
  rcases hfirst with ⟨haccepted, value, rfl, hresult⟩ | ⟨hnot, fault, rfl⟩
  · exact hsecond haccepted value hresult
  · exact refuse (fun h => hnot (hnarrower h)) fault

/-- What is accepted and what is known of the value may be put differently. -/
theorem imp {computation : Except Error α} {other : Prop} {weaker : α → Prop}
    (hdecides : Decides computation accepted result) (haccepted : accepted ↔ other)
    (hresult : ∀ value, result value → weaker value) : Decides computation other weaker := by
  rcases hdecides with ⟨h, value, hvalue, hproperty⟩ | ⟨hnot, hfault⟩
  · exact .inl ⟨haccepted.mp h, value, hvalue, hresult value hproperty⟩
  · exact .inr ⟨fun h => hnot (haccepted.mpr h), hfault⟩

/-- For what is acceptable, there is a value. -/
theorem exists_ok {computation : Except Error α} (hdecides : Decides computation accepted result)
    (haccepted : accepted) : ∃ value, computation = .ok value ∧ result value := by
  rcases hdecides with ⟨_, hvalue⟩ | ⟨hnot, _⟩
  · exact hvalue
  · exact absurd haccepted hnot

/-- A value is only given for what is acceptable. -/
theorem of_eq_ok {computation : Except Error α} (hdecides : Decides computation accepted result) {value : α}
    (hok : computation = .ok value) : accepted ∧ result value := by
  rcases hdecides with ⟨haccepted, other, hother, hresult⟩ | ⟨_, fault, herror⟩
  · rw [hok] at hother
    cases hother
    exact ⟨haccepted, hresult⟩
  · rw [hok] at herror
    cases herror

end Decides

end Pseudoclock
