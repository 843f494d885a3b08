import Mathlib
import Pseudoclock.Proofs.Layout.Unpacking

/-!
Traces of words, split into one trace for each channel. A channel shows the bit that it reads, at the times at
which the words come. What a word holds above its width is not shown by any channel.
-/

namespace Pseudoclock.Layout

/-- A trace shows one bit of a trace of words: a level for each word, and at the same time. Of columns of unequal
length, what the longer one has left over is not shown. -/
structure ShowsBit (words : Trace UInt64) (bit : Nat) (plane : Trace UInt8) : Prop where
  times_eq : plane.times = words.times.take words.values.length
  length_eq : plane.values.length = plane.times.length
  level_eq : ∀ index word, index < plane.times.length → words.values[index]? = some word →
    plane.values[index]? = some (if word.toNat.testBit bit then 1 else 0)

/-- Words that are the same up to the width of a stored word. -/
def IsSameBelow (layout : Layout) (word other : UInt64) : Prop :=
  ∀ bit < layout.wordBits.toNat, word.toNat.testBit bit = other.toNat.testBit bit

variable {layout : Layout}

/-- The level of a channel is the bit that it reads. -/
theorem levelOf_eq (hvalid : layout.validate = .ok ()) {channel : Nat} (hchannel : channel < layout.channels)
    (word : UInt64) :
    layout.levelOf word channel = if word.toNat.testBit (layout.bitOf channel) then 1 else 0 := by
  have hbit : (layout.unpack word).getD channel false = word.toNat.testBit (layout.bitOf channel) := by
    rw [unpack_eq hvalid, List.getD_eq_getElem?_getD, List.getElem?_map, List.getElem?_range hchannel]
    rfl
  rw [levelOf, hbit]

/-- The trace of a channel has the times of the words, and a level for each word. -/
theorem getElem?_demultiplex (words : Trace UInt64) {channel : Nat} (hchannel : channel < layout.channels) :
    (layout.demultiplex words)[channel]? =
      some (Trace.ofSamples (words.times.zip (words.values.map (layout.levelOf · channel)))) := by
  rw [demultiplex, List.getElem?_map, List.getElem?_range hchannel, List.zip_map_right]
  rfl

/-- The trace of a channel shows the bit that the channel reads. -/
theorem exists_showsBit (hvalid : layout.validate = .ok ()) (words : Trace UInt64) {channel : Nat}
    (hchannel : channel < layout.channels) :
    ∃ plane, (layout.demultiplex words)[channel]? = some plane ∧
      ShowsBit words (layout.bitOf channel) plane := by
  refine ⟨_, getElem?_demultiplex words hchannel, ?_⟩
  have htimes : (words.times.zip (words.values.map (layout.levelOf · channel))).map (·.1) =
      words.times.take words.values.length := by
    rw [List.zip_eq_zip_take_min, List.map_fst_zip (by simp), List.length_map, List.take_eq_take_iff]
    omega
  refine ⟨htimes, by simp, fun index word hindex hword => ?_⟩
  have hlt : index < words.times.length := by
    rw [Trace.times_ofSamples, htimes, List.length_take] at hindex
    omega
  have hsample : (words.times.zip (words.values.map (layout.levelOf · channel)))[index]? =
      some (words.times[index], layout.levelOf word channel) := by
    rw [List.getElem?_zip_eq_some, List.getElem?_map, hword]
    exact ⟨List.getElem?_eq_getElem hlt, rfl⟩
  rw [Trace.values_ofSamples, List.getElem?_map, hsample, ← levelOf_eq hvalid hchannel word]
  rfl

/-- Bits above the width of a stored word do not matter on any channel. -/
theorem demultiplex_congr (hvalid : layout.validate = .ok ()) {words other : Trace UInt64}
    (htimes : words.times = other.times) (hsame : List.Forall₂ layout.IsSameBelow words.values other.values) :
    layout.demultiplex words = layout.demultiplex other := by
  refine List.ext_getElem? fun channel => ?_
  rcases Nat.lt_or_ge channel layout.channels with hchannel | hchannel
  · have hlevels : words.values.map (layout.levelOf · channel) = other.values.map (layout.levelOf · channel) := by
      generalize words.values = values at hsame ⊢
      generalize other.values = values' at hsame ⊢
      induction hsame with
      | nil => rfl
      | cons hword _ ih =>
        rw [List.map_cons, List.map_cons, ih, levelOf_eq hvalid hchannel, levelOf_eq hvalid hchannel,
          hword _ (bitOf_lt hvalid hchannel)]
    rw [getElem?_demultiplex words hchannel, getElem?_demultiplex other hchannel, htimes, hlevels]
  · rw [List.getElem?_eq_none (by simpa [demultiplex] using hchannel),
      List.getElem?_eq_none (by simpa [demultiplex] using hchannel)]

/-- A trace of words is split into one trace for each channel, and nothing but the bit that a channel reads is on
it. Channels read the bits of their own number, or, with the least significant byte in front, those of their number
with the bytes counted from the other end. The bits above the width of a word have no influence. -/
theorem demultiplex_showsBits (hvalid : layout.validate = .ok ()) (words : Trace UInt64) :
    (layout.demultiplex words).length = layout.channels ∧
    (∀ channel < layout.channels, ∃ plane, (layout.demultiplex words)[channel]? = some plane ∧
      ShowsBit words (layout.bitOf channel) plane ∧
      (words.times.length = words.values.length → plane.times = words.times)) ∧
    ∀ other, words.times = other.times → List.Forall₂ layout.IsSameBelow words.values other.values →
      layout.demultiplex words = layout.demultiplex other := by
  refine ⟨by simp [demultiplex], fun channel hchannel => ?_, fun other => demultiplex_congr hvalid⟩
  obtain ⟨plane, hplane, hshows⟩ := exists_showsBit hvalid words hchannel
  refine ⟨plane, hplane, hshows, fun hlength => ?_⟩
  rw [hshows.times_eq, ← hlength, List.take_length]

/-- Of twelve channels with the least significant byte in front, channel 11 reads bit 3. Bit 16 is beyond the width
of a word. -/
theorem demultiplex_showsBits_little :
    (⟨12, 16, .little⟩ : Layout).validate = .ok () ∧
    (∃ plane, (Layout.demultiplex ⟨12, 16, .little⟩ ⟨[0, 1], [0x8, 0x100]⟩)[11]? = some plane ∧
      plane.times = [0, 1] ∧ plane.values[0]? = some 1 ∧ plane.values[1]? = some 0) ∧
    Layout.demultiplex ⟨12, 16, .little⟩ ⟨[0, 1], [0x8, 0x100]⟩ =
      Layout.demultiplex ⟨12, 16, .little⟩ ⟨[0, 1], [0x10008, 0x100]⟩ := by
  have hvalid : (⟨12, 16, .little⟩ : Layout).validate = .ok () := rfl
  obtain ⟨_, hplanes, hcongr⟩ := demultiplex_showsBits hvalid ⟨[0, 1], [0x8, 0x100]⟩
  refine ⟨hvalid, ?_, hcongr ⟨[0, 1], [0x10008, 0x100]⟩ rfl ?_⟩
  · obtain ⟨plane, hplane, hshows, htimes⟩ := hplanes 11 (by decide)
    have htimes := htimes rfl
    exact ⟨plane, hplane, htimes, hshows.level_eq 0 0x8 (by rw [htimes]; decide) rfl,
      hshows.level_eq 1 0x100 (by rw [htimes]; decide) rfl⟩
  · refine .cons (fun bit hbit => ?_) (.cons (fun _ _ => rfl) .nil)
    have hlt : bit < 16 := hbit
    interval_cases bit <;> rfl

end Pseudoclock.Layout
