import Mathlib
import Pseudoclock.Device
import Pseudoclock.Proofs.Except

/-!
What a description without contradictions gives: different names for its tables, and timing constants that
can be used as soon as both delays are there.
-/

namespace Pseudoclock.Device

variable {device : Device}

/-- All parts of a description are checked. -/
theorem validate_eq_ok_iff (device : Device) :
    device.validate = .ok () ↔ device.capabilities.validate = .ok () ∧
      checkDelay device.name .trigger device.delays.triggerDelay = .ok () ∧
      checkDelay device.name .wait device.delays.waitDelay = .ok () ∧
      checkVariant device.name device.variant = .ok () := by
  rw [validate, check_bind_eq_ok_iff, check_bind_eq_ok_iff, check_bind_eq_ok_iff]

/-- Names pass if none of them is empty, repeated or among those before them. -/
theorem checkNames_eq_ok_iff {seen names : List String} {owner : String} :
    checkNames owner seen names = .ok () ↔ names.Nodup ∧ ∀ name ∈ names, name ≠ "" ∧ name ∉ seen := by
  induction names generalizing seen with
  | nil => simp [checkNames]
  | cons name rest ih =>
    rw [checkNames, List.nodup_cons, List.forall_mem_cons]
    by_cases hempty : name = ""
    · simp [hempty]
    by_cases hseen : name ∈ seen
    · simp [hempty, hseen]
    rw [if_neg (by simpa using hempty), if_neg hseen, ih]
    simp only [List.mem_cons, not_or]
    constructor
    · rintro ⟨hnodup, hrest⟩
      refine ⟨⟨fun hmem => (hrest name hmem).2.1 rfl, hnodup⟩, ⟨hempty, hseen⟩, fun other hother => ?_⟩
      exact ⟨(hrest other hother).1, (hrest other hother).2.2⟩
    · rintro ⟨⟨hnew, hnodup⟩, _, hrest⟩
      refine ⟨hnodup, fun other hother => ⟨(hrest other hother).1, ?_, (hrest other hother).2⟩⟩
      rintro rfl
      exact hnew hother

theorem nodup_tableNames (hvalid : device.validate = .ok ()) : device.tableNames.Nodup := by
  obtain ⟨_, _, _, hvariant⟩ := (validate_eq_ok_iff device).mp hvalid
  rw [tableNames]
  cases hkind : device.variant with
  | toggle pseudoclocks =>
    rw [hkind, checkVariant] at hvariant
    split at hvariant
    · cases hvariant
    · exact (checkNames_eq_ok_iff.mp hvariant).1
  | snapshot table layout channelNames => exact List.nodup_singleton table

/-- The checks of an output bank. -/
theorem checkVariant_snapshot_eq_ok {owner table : String} {layout : Layout} {channelNames : List String}
    (hcheck : checkVariant owner (.snapshot table layout channelNames) = .ok ()) :
    layout.validate = .ok () ∧ (channelNames = [] ∨ channelNames.length = layout.channels) ∧
      checkNames owner [] channelNames = .ok () := by
  simp only [checkVariant] at hcheck
  by_cases htable : table.isEmpty = true
  · rw [if_pos htable] at hcheck
    cases hcheck
  rw [if_neg htable, check_bind_eq_ok_iff] at hcheck
  obtain ⟨hlayout, hcheck⟩ := hcheck
  by_cases hcount : (!channelNames.isEmpty && channelNames.length != layout.channels) = true
  · rw [if_pos hcount] at hcheck
    cases hcheck
  rw [if_neg hcount] at hcheck
  refine ⟨hlayout, ?_, hcheck⟩
  by_contra hother
  rw [not_or] at hother
  exact hcount (by simpa using hother)

/-- How many traces a device has when all of its tables are replayed. -/
def channelCount (device : Device) : Nat :=
  match device.variant with
  | .toggle pseudoclocks => pseudoclocks.length
  | .snapshot _ layout _ => layout.channels

/-- Default names of different channels are different. -/
private theorem defaultName_injective : Function.Injective fun channel : Nat => s!"channel{channel}" := by
  intro channel other hsame
  have hdigits : Nat.toDigits 10 channel = Nat.toDigits 10 other := by
    simpa [toString, Nat.repr] using congrArg String.toList hsame
  have hvalues := congrArg (Nat.ofDigitChars 10 · 0) hdigits
  simpa only [Nat.ofDigitChars_ten_toDigits] using hvalues

/-- There is a name for each channel, and no two channels have the same one. -/
theorem channelNames_of_validate (hvalid : device.validate = .ok ()) :
    device.channelNames.Nodup ∧ "" ∉ device.channelNames ∧ device.channelNames.length = device.channelCount := by
  obtain ⟨_, _, _, hvariant⟩ := (validate_eq_ok_iff device).mp hvalid
  rw [channelNames, channelCount]
  cases hkind : device.variant with
  | toggle pseudoclocks =>
    rw [hkind, checkVariant] at hvariant
    split at hvariant
    · cases hvariant
    · obtain ⟨hnodup, hnames⟩ := checkNames_eq_ok_iff.mp hvariant
      exact ⟨hnodup, fun hmem => (hnames "" hmem).1 rfl, rfl⟩
  | snapshot table layout channelNames =>
    rw [hkind, checkVariant] at hvariant
    simp only
    split
    · refine ⟨List.nodup_range.map defaultName_injective, fun hmem => ?_, by simp⟩
      obtain ⟨channel, _, hempty⟩ := List.mem_map.mp hmem
      have hlength := congrArg String.length hempty
      simp at hlength
    · next hnamed =>
      obtain ⟨_, hcount, hcheck⟩ := checkVariant_snapshot_eq_ok hvariant
      obtain ⟨hnodup, hnames⟩ := checkNames_eq_ok_iff.mp hcheck
      exact ⟨hnodup, fun hmem => (hnames "" hmem).1 rfl, hcount.resolve_left (by simpa using hnamed)⟩

private theorem isUsableDelay_of_checkDelay {owner : String} {which : Delay} {delay : Float}
    (hcheck : checkDelay owner which (some delay) = .ok ()) : isUsableDelay delay = true := by
  rw [checkDelay] at hcheck
  split at hcheck
  · assumption
  · cases hcheck

/-- With both delays, the constants of a description can be used for a replay. -/
theorem exists_calibration (hvalid : device.validate = .ok ()) (htrigger : device.delays.triggerDelay.isSome)
    (hwait : device.delays.waitDelay.isSome) :
    ∃ calibration, device.calibration = .ok calibration ∧ calibration.validate = .ok () := by
  obtain ⟨hcapabilities, hchecked, hchecked', _⟩ := (validate_eq_ok_iff device).mp hvalid
  obtain ⟨triggerDelay, htrigger⟩ := Option.isSome_iff_exists.mp htrigger
  obtain ⟨waitDelay, hwait⟩ := Option.isSome_iff_exists.mp hwait
  rw [htrigger] at hchecked
  rw [hwait] at hchecked'
  rw [Capabilities.validate, check_bind_eq_ok_iff] at hcapabilities
  have hconstants : (Calibration.mk device.capabilities.clockResolution triggerDelay waitDelay).validate = .ok () := by
    rw [Calibration.validate, check_bind_eq_ok_iff, check_bind_eq_ok_iff]
    exact ⟨hcapabilities.1, if_pos (isUsableDelay_of_checkDelay hchecked),
      if_pos (isUsableDelay_of_checkDelay hchecked')⟩
  refine ⟨_, ?_, hconstants⟩
  rw [calibration, htrigger, hwait]
  change Calibration.ofConstants _ triggerDelay waitDelay = _
  rw [Calibration.ofConstants, hconstants]
  rfl

/-- The constants of a description are checked before they are used. -/
theorem validate_of_calibration {constants : Calibration} (hcalibration : device.calibration = .ok constants) :
    constants.validate = .ok () := by
  obtain ⟨triggerDelay, _, hstages⟩ := bind_eq_ok_iff.mp hcalibration
  obtain ⟨waitDelay, _, hconstants⟩ := bind_eq_ok_iff.mp hstages
  obtain ⟨husable, ⟨⟩⟩ := check_bind_eq_ok_iff.mp hconstants
  exact husable

end Pseudoclock.Device
