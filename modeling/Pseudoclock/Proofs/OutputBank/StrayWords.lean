import Mathlib
import Pseudoclock.Proofs.Layout.Unpacking
import Pseudoclock.Proofs.OutputBank.Holding
import Pseudoclock.Replay.OutputBank

/-!
Words that are refused because they drive too many channels. The check counts bits from the lowest one on, and
the channels may read other bits: only in some layouts do the two agree.
-/

namespace Pseudoclock

namespace Layout

/-- All bits of a word that are set are read by channels. -/
def DrivesOnlyChannels (layout : Layout) (word : UInt64) : Prop :=
  ∀ bit, word.toNat.testBit bit = true → ∃ channel < layout.channels, layout.bitOf channel = bit

/-- The channels read the lowest bits: they are numbered like the bits, or none of the bits is left over. -/
def UsesLowestBits (layout : Layout) : Prop :=
  layout.byteOrder = .big ∨ layout.wordBits = 8 ∨ layout.channels = layout.wordBits.toNat

variable {layout : Layout}

/-- A word passes if all of its bits that are set are below the number of channels. -/
theorem fits_iff (layout : Layout) (word : UInt64) :
    layout.fits word = true ↔ ∀ bit, word.toNat.testBit bit = true → bit < layout.channels := by
  have hbound : (∀ bit, word.toNat.testBit bit = true → bit < layout.channels) ↔
      word.toNat < 2 ^ layout.channels := by
    constructor
    · intro hbits
      refine Nat.lt_pow_two_of_testBit _ fun bit hbit => ?_
      by_contra hset
      have hlt := hbits bit (by simpa using hset)
      omega
    · intro hlt bit hset
      by_contra hbit
      have hle := Nat.pow_le_pow_right (by decide : 0 < 2) (not_lt.mp hbit)
      rw [Nat.testBit_lt_two_pow (lt_of_lt_of_le hlt hle)] at hset
      cases hset
  rw [hbound, fits, Bool.or_eq_true, decide_eq_true_eq, beq_iff_eq, Nat.shiftRight_eq_div_pow,
    Nat.div_eq_zero_iff_lt (by positivity)]
  refine or_iff_right_of_imp fun hall => lt_of_lt_of_le word.toNat_lt ?_
  exact Nat.pow_le_pow_right (by decide) hall

/-- If no bit is left over or the channels are numbered like the bits, then a channel reads a bit exactly if the
bit is below the number of channels. -/
theorem UsesLowestBits.exists_bitOf_eq_iff (hlowest : layout.UsesLowestBits) (hvalid : layout.validate = .ok ())
    (bit : Nat) : (∃ channel < layout.channels, layout.bitOf channel = bit) ↔ bit < layout.channels := by
  have hmaps : ∀ channel < layout.channels, layout.bitOf channel < layout.channels := by
    intro channel hchannel
    rcases hlowest with horder | hbyte | hfull
    · simpa [bitOf, horder] using hchannel
    · have hwidth : layout.wordBits.toNat = 8 := by rw [hbyte]; rfl
      obtain ⟨_, _, hchannels⟩ := validate_eq_ok_iff.mp hvalid
      rw [bitOf]
      cases layout.byteOrder <;> simp only <;> omega
    · rw [hfull]
      exact bitOf_lt hvalid hchannel
  constructor
  · rintro ⟨channel, hchannel, rfl⟩
    exact hmaps channel hchannel
  · intro hbit
    -- Different channels read different bits, so that none of the lowest bits is missed.
    have hmapsTo : Set.MapsTo layout.bitOf (Finset.range layout.channels) (Finset.range layout.channels) := by
      simpa [Set.MapsTo] using hmaps
    have hinjective : Set.InjOn layout.bitOf (Finset.range layout.channels) := by
      simpa [Set.Iio_def] using bitOf_injOn hvalid
    have hsurjective := Finset.surjOn_of_injOn_of_card_le layout.bitOf hmapsTo hinjective le_rfl
    obtain ⟨channel, hchannel, heq⟩ := hsurjective (Finset.mem_coe.mpr (Finset.mem_range.mpr hbit))
    exact ⟨channel, by simpa using hchannel, heq⟩

/-- Otherwise some channel reads a bit that is too high. -/
theorem exists_le_bitOf (hvalid : layout.validate = .ok ()) (hother : ¬ layout.UsesLowestBits) :
    ∃ channel < layout.channels, layout.channels ≤ layout.bitOf channel := by
  obtain ⟨bytes, hbytes, _, _⟩ := exists_bytes hvalid
  obtain ⟨_, hsome, hchannels⟩ := validate_eq_ok_iff.mp hvalid
  rw [UsesLowestBits, not_or, not_or] at hother
  obtain ⟨horder, hbyte, hrest⟩ := hother
  have hlittle : layout.byteOrder = .little := by
    cases hcase : layout.byteOrder with
    | big => exact absurd hcase horder
    | little => rfl
  have hwide : layout.wordBits.toNat ≠ 8 := fun h => hbyte (UInt32.toNat_inj.mp h)
  refine ⟨min (layout.channels - 1) 7, by omega, ?_⟩
  simp only [bitOf, hlittle]
  omega

/-- And then some bit that is low enough is read by no channel, as there are not enough of them left. -/
theorem exists_unread (hvalid : layout.validate = .ok ()) (hother : ¬ layout.UsesLowestBits) :
    ∃ bit < layout.channels, ∀ channel < layout.channels, layout.bitOf channel ≠ bit := by
  obtain ⟨high, hhigh, hle⟩ := exists_le_bitOf hvalid hother
  by_contra hread
  push Not at hread
  let read := (Finset.range layout.channels).image layout.bitOf
  have hcount : read.card ≤ layout.channels := Finset.card_image_le.trans_eq (Finset.card_range _)
  have hsubset : Finset.range layout.channels ⊆ read.erase (layout.bitOf high) := by
    intro bit hbit
    obtain ⟨channel, hchannel, heq⟩ := hread bit (Finset.mem_range.mp hbit)
    refine Finset.mem_erase.mpr ⟨?_, Finset.mem_image.mpr ⟨channel, Finset.mem_range.mpr hchannel, heq⟩⟩
    have hlt := Finset.mem_range.mp hbit
    omega
  have hmem : layout.bitOf high ∈ read := Finset.mem_image_of_mem _ (Finset.mem_range.mpr hhigh)
  have hcard := Finset.card_le_card hsubset
  rw [Finset.card_range, Finset.card_erase_of_mem hmem] at hcard
  have hpos := Finset.card_pos.mpr ⟨_, hmem⟩
  omega

/-- The word with a single bit set. -/
def oneBit (bit : Nat) : UInt64 :=
  UInt64.ofNat (2 ^ bit)

theorem testBit_oneBit {bit : Nat} (hbit : bit < 64) (other : Nat) :
    (oneBit bit).toNat.testBit other = decide (bit = other) := by
  have hlt : 2 ^ bit < UInt64.size := Nat.pow_lt_pow_right (by decide) hbit
  rw [oneBit, UInt64.toNat_ofNat_of_lt' hlt, Nat.testBit_two_pow]

theorem wordBits_le (hvalid : layout.validate = .ok ()) : layout.wordBits.toNat ≤ 64 := by
  obtain ⟨bytes, hbytes, _, _⟩ := exists_bytes hvalid
  omega

/-- In other layouts, a word that drives a single channel is refused. -/
theorem exists_refused (hvalid : layout.validate = .ok ()) (hother : ¬ layout.UsesLowestBits) :
    ∃ word, layout.DrivesOnlyChannels word ∧ layout.fits word = false := by
  obtain ⟨channel, hchannel, hle⟩ := exists_le_bitOf hvalid hother
  have hbit := lt_of_lt_of_le (bitOf_lt hvalid hchannel) (wordBits_le hvalid)
  refine ⟨oneBit (layout.bitOf channel), fun bit hset => ⟨channel, hchannel, ?_⟩, ?_⟩
  · simpa [testBit_oneBit hbit] using hset
  · refine Bool.eq_false_iff.mpr fun hfits => ?_
    have hlt := (fits_iff layout _).mp hfits (layout.bitOf channel) (by simp [testBit_oneBit hbit])
    omega

theorem fits_iff_drivesOnlyChannels (hlowest : layout.UsesLowestBits) (hvalid : layout.validate = .ok ())
    (word : UInt64) : layout.fits word = true ↔ layout.DrivesOnlyChannels word := by
  simp only [fits_iff, DrivesOnlyChannels, hlowest.exists_bitOf_eq_iff hvalid]

/-- Words are unpacked to the same levels if their channels read the same bits. -/
theorem unpack_eq_unpack_iff (hvalid : layout.validate = .ok ()) (word other : UInt64) :
    layout.unpack word = layout.unpack other ↔ ∀ channel < layout.channels,
      word.toNat.testBit (layout.bitOf channel) = other.toNat.testBit (layout.bitOf channel) := by
  rw [unpack_eq hvalid, unpack_eq hvalid, List.map_inj_left]
  simp only [List.mem_range]

/-- Words that pass can be told apart by their channels exactly in the layouts that use the lowest bits. -/
theorem unpack_injective_iff (hvalid : layout.validate = .ok ()) :
    (∀ word other, layout.fits word = true → layout.fits other = true →
      layout.unpack word = layout.unpack other → word = other) ↔ layout.UsesLowestBits := by
  constructor
  · intro hinjective
    by_contra hother
    obtain ⟨bit, hbit, hunread⟩ := exists_unread hvalid hother
    obtain ⟨_, _, hchannels⟩ := validate_eq_ok_iff.mp hvalid
    have hlt : bit < 64 := lt_of_lt_of_le hbit (hchannels.trans (wordBits_le hvalid))
    have hfits : layout.fits (oneBit bit) = true := by
      refine (fits_iff layout _).mpr fun other hset => ?_
      rw [testBit_oneBit hlt, decide_eq_true_eq] at hset
      exact hset ▸ hbit
    have hsame : layout.unpack (oneBit bit) = layout.unpack 0 := by
      refine (unpack_eq_unpack_iff hvalid _ _).mpr fun channel hchannel => ?_
      simpa [testBit_oneBit hlt] using (hunread channel hchannel).symm
    have heq := hinjective _ _ hfits (fits_zero layout) hsame
    have hset := testBit_oneBit hlt bit
    rw [heq] at hset
    simp at hset
  · intro hlowest word other hword hfits hsame
    rw [unpack_eq_unpack_iff hvalid] at hsame
    refine UInt64.toNat_inj.mp (Nat.eq_of_testBit_eq fun bit => ?_)
    by_cases hbit : bit < layout.channels
    · obtain ⟨channel, hchannel, rfl⟩ := (hlowest.exists_bitOf_eq_iff hvalid bit).mpr hbit
      exact hsame channel hchannel
    · have hclear : ∀ w, layout.fits w = true → w.toNat.testBit bit = false := fun w hw =>
        Bool.eq_false_iff.mpr fun hset => hbit ((fits_iff layout w).mp hw bit hset)
      rw [hclear word hword, hclear other hfits]

end Layout

private theorem Capabilities.validate_ne_invalidTimeline (capabilities : Capabilities) (fault : TimelineFault) :
    capabilities.validate ≠ .error (.invalidTimeline fault) := by
  intro herror
  rw [validate, check_bind_eq_error_iff] at herror
  rcases herror with herror | ⟨_, herror⟩
  · unfold checkResolution at herror
    split at herror <;> cases herror
  · simp only at herror
    split_ifs at herror <;> cases herror

private theorem Layout.validate_ne_invalidTimeline (layout : Layout) (fault : TimelineFault) :
    layout.validate ≠ .error (.invalidTimeline fault) := by
  intro herror
  simp only [validate] at herror
  split_ifs at herror <;> cases herror

namespace Timeline

variable {layout : Layout} {clockResolution : Float}

private theorem holdTicks_ne_strayWord (position : Float → Int) (start : Float) (rest : Timeline) (word : UInt64)
    (time : Float) (channels : Nat) :
    holdTicks position start rest ≠ .error (.invalidTimeline (.strayWord word time channels)) := by
  cases rest with
  | nil => nofun
  | cons next rest =>
    simp only [holdTicks_cons]
    split
    · nofun
    · split <;> nofun

/-- A timeline whose words all pass is not refused for a word. -/
theorem bankWords_ne_strayWord {held : UInt64} {origin : Option Float} {timeline : Timeline}
    (hfits : ∀ event ∈ timeline, ∀ word, event.kind = .level word → layout.fits word = true) (word : UInt64)
    (time : Float) (channels : Nat) :
    timeline.bankWords layout clockResolution held origin ≠ .error (.invalidTimeline (.strayWord word time channels)) := by
  induction timeline generalizing held origin with
  | nil => nofun
  | cons event rest ih =>
    obtain ⟨start, kind⟩ := event
    have hrest := fun event hevent => hfits event (List.mem_cons_of_mem _ hevent)
    intro herror
    cases kind with
    | wait =>
      simp only [bankWords_cons] at herror
      rcases bind_eq_error_iff.mp herror with herror | ⟨_, _, herror⟩
      · exact ih hrest herror
      · cases herror
    | level level =>
      simp only [bankWords_cons, hfits _ List.mem_cons_self level rfl, if_true] at herror
      rcases bind_eq_error_iff.mp herror with herror | ⟨reps, _, herror⟩
      · exact holdTicks_ne_strayWord _ _ rest word time channels herror
      · rcases bind_eq_error_iff.mp herror with herror | ⟨_, _, herror⟩
        · exact ih hrest herror
        · cases herror

/-- A timeline is only refused for a word that does not pass. -/
theorem compileSnapshot_ne_strayWord {capabilities : Capabilities} {timeline : Timeline}
    (hfits : ∀ event ∈ timeline, ∀ word, event.kind = .level word → layout.fits word = true) (word : UInt64)
    (time : Float) (channels : Nat) :
    timeline.compileSnapshot layout capabilities ≠ .error (.invalidTimeline (.strayWord word time channels)) := by
  intro herror
  rw [compileSnapshot_eq, check_bind_eq_error_iff, check_bind_eq_error_iff, check_bind_eq_error_iff,
    bind_eq_error_iff] at herror
  simp only [check_bind_eq_error_iff, pure, Except.pure, reduceCtorEq, and_false, or_false] at herror
  rcases herror with herror | ⟨_, herror | ⟨_, herror | ⟨_, herror | ⟨_, _, herror⟩⟩⟩⟩
  · exact Capabilities.validate_ne_invalidTimeline _ _ herror
  · exact Layout.validate_ne_invalidTimeline _ _ herror
  · unfold checkTimes at herror
    split at herror
    · cases herror
    · split at herror <;> cases herror
  · exact bankWords_ne_strayWord hfits word time channels herror
  · unfold Capabilities.checkCapacity at herror
    simp only at herror
    split at herror <;> cases herror

end Timeline

theorem Program.checkWords_eq_ok_iff {program : Program Snapshot} {layout : Layout} :
    program.checkWords layout = .ok () ↔ ∀ instruction ∈ program.body, layout.fits instruction.bits = true := by
  have hfind : (program.body.zipIdx.find? fun entry => !layout.fits entry.1.bits) = none ↔
      ∀ instruction ∈ program.body, layout.fits instruction.bits = true := by
    rw [List.find?_eq_none]
    constructor
    · intro hall instruction hmem
      obtain ⟨index, hindex⟩ := List.getElem?_of_mem hmem
      simpa using hall (instruction, index) (List.mk_mem_zipIdx_iff_getElem?.mpr hindex)
    · intro hall entry hentry
      simpa using hall entry.1 (List.fst_mem_of_mem_zipIdx hentry)
  rw [checkWords, ← hfind]
  cases program.body.zipIdx.find? fun entry => !layout.fits entry.1.bits <;> simp

namespace Layout

/-- No timeline is refused for a word if all its words drive only existing channels. -/
def CompilesDriven (layout : Layout) : Prop :=
  ∀ (timeline : Timeline) (capabilities : Capabilities),
    (∀ event ∈ timeline, ∀ word, event.kind = .level word → layout.DrivesOnlyChannels word) →
    ∀ word time channels,
      timeline.compileSnapshot layout capabilities ≠ .error (.invalidTimeline (.strayWord word time channels))

/-- No program is refused for a word if all its words drive only existing channels. -/
def ReplaysDriven (layout : Layout) : Prop :=
  ∀ (program : Program Snapshot) (calibration : Calibration) (triggers : Option (List Float)),
    (∀ instruction ∈ program.body, layout.DrivesOnlyChannels instruction.bits) →
    program.replaySnapshot calibration layout triggers = program.replayWords calibration triggers

variable {layout : Layout}

theorem agrees_iff (hvalid : layout.validate = .ok ()) :
    (∀ word, layout.fits word = true ↔ layout.DrivesOnlyChannels word) ↔ layout.UsesLowestBits := by
  refine ⟨fun hagrees => ?_, fun hlowest => fits_iff_drivesOnlyChannels hlowest hvalid⟩
  by_contra hother
  obtain ⟨word, hdrives, hstray⟩ := exists_refused hvalid hother
  rw [(hagrees word).mpr hdrives] at hstray
  cases hstray

theorem compilesDriven_iff (hvalid : layout.validate = .ok ()) : layout.CompilesDriven ↔ layout.UsesLowestBits := by
  constructor
  · intro hcompiles
    by_contra hother
    obtain ⟨word, hdrives, hstray⟩ := exists_refused hvalid hother
    refine hcompiles [⟨0, .level word⟩] ⟨1, 8, 1⟩ ?_ word 0 layout.channels ?_
    · rintro _ hevent _ hlevel
      obtain rfl := List.mem_singleton.mp hevent
      cases hlevel
      exact hdrives
    · have hwords : Timeline.bankWords layout 1 0 none [⟨0, .level word⟩] =
          .error (.invalidTimeline (.strayWord word 0 layout.channels)) := by
        simp [Timeline.bankWords_cons, hstray]
      have hfinite : (0 : Float).isFinite = true := rfl
      have htimes : Timeline.checkTimes [⟨0, .level word⟩] = .ok () := by
        simp [Timeline.checkTimes, Timeline.firstDescent?, hfinite]
      have hcapabilities : (⟨1, 8, 1⟩ : Capabilities).validate = .ok () := rfl
      rw [Timeline.compileSnapshot_eq, hcapabilities, hvalid, htimes, hwords]
      rfl
  · intro hlowest timeline capabilities hdrives
    exact Timeline.compileSnapshot_ne_strayWord fun event hevent word hlevel =>
      (fits_iff_drivesOnlyChannels hlowest hvalid word).mpr (hdrives event hevent word hlevel)

theorem replaysDriven_iff (hvalid : layout.validate = .ok ()) : layout.ReplaysDriven ↔ layout.UsesLowestBits := by
  constructor
  · intro hreplays
    by_contra hother
    obtain ⟨word, hdrives, hstray⟩ := exists_refused hvalid hother
    have hreplay := hreplays (Program.ofBody [⟨1, word⟩]) ⟨1, 0, 0⟩ none (by simpa using hdrives)
    have hcheck : (Program.ofBody [⟨1, word⟩]).checkWords layout ≠ .ok () := fun hok => by
      have hfits := Program.checkWords_eq_ok_iff.mp hok ⟨1, word⟩ (by simp)
      rw [hstray] at hfits
      cases hfits
    have hwords : ∃ replayed, (Program.ofBody [⟨1, word⟩]).replayWords ⟨1, 0, 0⟩ none = .ok replayed := ⟨_, rfl⟩
    obtain ⟨replayed, hwords⟩ := hwords
    rw [hwords, Program.replaySnapshot, check_bind_eq_ok_iff, check_bind_eq_ok_iff] at hreplay
    exact hcheck hreplay.2.1
  · intro hlowest program calibration triggers hdrives
    have hcheck : program.checkWords layout = .ok () := Program.checkWords_eq_ok_iff.mpr fun instruction hmem =>
      (fits_iff_drivesOnlyChannels hlowest hvalid _).mpr (hdrives instruction hmem)
    rw [Program.replaySnapshot, hvalid, hcheck]
    rfl

/-- The check of a word counts the bits of the number, and unpacking follows the byte order. They agree exactly if
the channels read the lowest bits: with the most significant byte in front, with a single byte, or if there is a
channel for each bit. In all other layouts some word that drives only existing channels is refused, both when it
is compiled and when it is replayed, and two words that pass show the same levels. -/
theorem fits_agrees_iff_usesLowestBits (hvalid : layout.validate = .ok ()) :
    (∀ word, layout.unpack word =
      (List.range layout.channels).map fun channel => word.toNat.testBit (layout.bitOf channel)) ∧
    (∀ word, layout.fits word = true ↔ ∀ bit, word.toNat.testBit bit = true → bit < layout.channels) ∧
    ((∀ word, layout.fits word = true ↔ layout.DrivesOnlyChannels word) ↔ layout.UsesLowestBits) ∧
    ((∀ word other, layout.fits word = true → layout.fits other = true →
      layout.unpack word = layout.unpack other → word = other) ↔ layout.UsesLowestBits) ∧
    (layout.CompilesDriven ↔ layout.UsesLowestBits) ∧ (layout.ReplaysDriven ↔ layout.UsesLowestBits) :=
  ⟨unpack_eq hvalid, fits_iff layout, agrees_iff hvalid, unpack_injective_iff hvalid, compilesDriven_iff hvalid,
    replaysDriven_iff hvalid⟩

/-- With the least significant byte in front, twelve channels of sixteen bits do not read the lowest bits, and
sixteen channels do. -/
theorem fits_agrees_iff_usesLowestBits_little :
    (⟨12, 16, .little⟩ : Layout).validate = .ok () ∧
    (¬ ∀ word, (⟨12, 16, .little⟩ : Layout).fits word = true ↔
      (⟨12, 16, .little⟩ : Layout).DrivesOnlyChannels word) ∧
    ¬ (⟨12, 16, .little⟩ : Layout).ReplaysDriven ∧
    (⟨16, 16, .little⟩ : Layout).validate = .ok () ∧
    (∀ word, (⟨16, 16, .little⟩ : Layout).fits word = true ↔
      (⟨16, 16, .little⟩ : Layout).DrivesOnlyChannels word) ∧
    (⟨16, 16, .little⟩ : Layout).CompilesDriven := by
  have hpartly : (⟨12, 16, .little⟩ : Layout).validate = .ok () := rfl
  have hfull : (⟨16, 16, .little⟩ : Layout).validate = .ok () := rfl
  obtain ⟨_, _, hagrees, _, _, hreplays⟩ := fits_agrees_iff_usesLowestBits hpartly
  obtain ⟨_, _, hagrees', _, hcompiles', _⟩ := fits_agrees_iff_usesLowestBits hfull
  have hother : ¬ (⟨12, 16, .little⟩ : Layout).UsesLowestBits := by
    unfold UsesLowestBits
    decide
  have hlowest : (⟨16, 16, .little⟩ : Layout).UsesLowestBits := .inr (.inr rfl)
  exact ⟨hpartly, mt hagrees.mp hother, mt hreplays.mp hother, hfull, hagrees'.mpr hlowest, hcompiles'.mpr hlowest⟩

/-- Of four channels with the least significant byte in front, channel 0 reads bit 8. The word that drives it alone
is refused, and the words 0 and 1 pass and show the same levels. -/
theorem fits_refuses_driven :
    (⟨4, 16, .little⟩ : Layout).validate = .ok () ∧
    (⟨4, 16, .little⟩ : Layout).unpack 0x100 = [true, false, false, false] ∧
    (⟨4, 16, .little⟩ : Layout).DrivesOnlyChannels 0x100 ∧
    (⟨4, 16, .little⟩ : Layout).fits 0x100 = false ∧
    Timeline.compileSnapshot [⟨0, .level 0x100⟩] ⟨4, 16, .little⟩ ⟨1, 8, 1⟩ =
      .error (.invalidTimeline (.strayWord 0x100 0 4)) ∧
    (Program.ofBody [⟨1, 0x100⟩]).replayChannels ⟨1, 0, 0⟩ ⟨4, 16, .little⟩ none =
      .error (.malformedProgram (.strayWord 0 0x100 4)) ∧
    (⟨4, 16, .little⟩ : Layout).fits 0 = true ∧ (⟨4, 16, .little⟩ : Layout).fits 1 = true ∧
    (⟨4, 16, .little⟩ : Layout).unpack 0 = (⟨4, 16, .little⟩ : Layout).unpack 1 := by
  refine ⟨rfl, by decide, fun bit hset => ⟨0, by decide, ?_⟩, by decide, rfl, rfl, by decide, by decide, by decide⟩
  have hword : (0x100 : UInt64).toNat = 2 ^ 8 := rfl
  rw [hword, Nat.testBit_two_pow, decide_eq_true_eq] at hset
  exact hset ▸ rfl

end Layout

end Pseudoclock
