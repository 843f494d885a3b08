import Mathlib
import Pseudoclock.Layout
import Pseudoclock.Proofs.Except

/-!
Which bit of a word each channel reads. With the most significant byte in front, channels are numbered like
bits. With the least significant byte in front, the bytes are numbered backwards, and the bits in each byte are
not.
-/

namespace Pseudoclock.Layout

/-- A layout is accepted if its width is one of four and there are as many bits as channels. -/
theorem validate_eq_ok_iff {layout : Layout} :
    layout.validate = .ok () ↔ layout.wordBits ∈ [8, 16, 32, 64] ∧ layout.channels ≠ 0 ∧
      layout.channels ≤ layout.wordBits.toNat := by
  rw [validate]
  split
  · next hwidth =>
    have hother : layout.wordBits ∉ [8, 16, 32, 64] := by simpa using hwidth
    exact iff_of_false (fun hok => by cases hok) fun hvalid => hother hvalid.1
  · next hwidth =>
    have hknown : layout.wordBits ∈ [8, 16, 32, 64] := by
      by_contra hother
      exact hwidth (by simpa using hother)
    rw [and_iff_right hknown]
    change (if (layout.channels == 0 || decide (layout.wordBits.toNat < layout.channels)) = true then
      Except.error _ else Except.ok ()) = _ ↔ _
    split
    · next hcount =>
      simp only [Bool.or_eq_true, beq_iff_eq, decide_eq_true_eq] at hcount
      exact iff_of_false (fun hok => by cases hok) (by omega)
    · next hcount =>
      simp only [Bool.or_eq_true, beq_iff_eq, decide_eq_true_eq] at hcount
      exact iff_of_true rfl (by omega)

/-- The width of a word in bytes, of which there are at most eight. -/
theorem exists_bytes {layout : Layout} (hvalid : layout.validate = .ok ()) :
    ∃ bytes, layout.wordBits.toNat = 8 * bytes ∧ 1 ≤ bytes ∧ bytes ≤ 8 := by
  have hwidth := (validate_eq_ok_iff.mp hvalid).1
  simp only [List.mem_cons, List.not_mem_nil, or_false] at hwidth
  rcases hwidth with h | h | h | h <;> rw [h]
  · exact ⟨1, rfl, by omega, by omega⟩
  · exact ⟨2, rfl, by omega, by omega⟩
  · exact ⟨4, rfl, by omega, by omega⟩
  · exact ⟨8, rfl, by omega, by omega⟩

/-- The bit of a word that a channel reads. -/
def bitOf (layout : Layout) (channel : Nat) : Nat :=
  match layout.byteOrder with
  | .big => channel
  | .little => layout.wordBits.toNat - 8 * (channel / 8 + 1) + channel % 8

theorem testBit_byteAt (word : UInt64) (index : Nat) {bit : Nat} (hbit : bit < 8) :
    (byteAt word index).toNat.testBit bit = word.toNat.testBit (8 * index + bit) := by
  rw [byteAt, UInt8.toNat_ofNat', Nat.testBit_mod_two_pow, Nat.testBit_shiftRight]
  simp [hbit]

theorem reverse_byteBits (byte : UInt8) : (byteBits byte).reverse = (List.range 8).map byte.toNat.testBit := by
  rw [byteBits, ← List.map_reverse, List.reverse_reverse]

/-- Blocks of eight, one after the other, are a single list. -/
private theorem flatMap_range_eight {α : Type} (entry : Nat → Nat → α) (blocks : Nat) :
    (List.range blocks).flatMap (fun block => (List.range 8).map (entry block)) =
      (List.range (8 * blocks)).map fun index => entry (index / 8) (index % 8) := by
  induction blocks with
  | zero => rfl
  | succ blocks ih =>
    have hblock : ∀ index ∈ List.range 8, entry blocks index =
        entry ((8 * blocks + index) / 8) ((8 * blocks + index) % 8) := by
      intro index hindex
      have hlt := List.mem_range.mp hindex
      rw [show (8 * blocks + index) / 8 = blocks by omega, show (8 * blocks + index) % 8 = index by omega]
    rw [List.range_succ (n := blocks), List.flatMap_append, ih, Nat.mul_succ, List.range_add, List.map_append,
      List.flatMap_singleton, List.map_map, List.map_congr_left hblock]
    rfl

/-- The byte that holds the bits of the eight channels from `8 * block` on. -/
private def byteOfBlock (layout : Layout) (bytes block : Nat) : Nat :=
  match layout.byteOrder with
  | .big => block
  | .little => bytes - 1 - block

private theorem reverse_wordBytes {layout : Layout} {bytes : Nat} (hbytes : layout.wordBits.toNat = 8 * bytes)
    (word : UInt64) : (layout.wordBytes word).reverse =
      (List.range bytes).map fun block => byteAt word (layout.byteOfBlock bytes block) := by
  have hwidth : layout.wordBits.toNat / 8 = bytes := by omega
  rw [wordBytes, hwidth]
  cases horder : layout.byteOrder with
  | big => simp [byteOfBlock, horder]
  | little =>
    simp only [byteOfBlock, horder, ← List.map_reverse]
    refine List.ext_getElem (by simp) fun block hblock _ => ?_
    simp

/-- A word is unpacked to the bits that its channels read. -/
theorem unpack_eq {layout : Layout} (hvalid : layout.validate = .ok ()) (word : UInt64) :
    layout.unpack word = (List.range layout.channels).map fun channel => word.toNat.testBit (layout.bitOf channel) := by
  obtain ⟨bytes, hbytes, _, _⟩ := exists_bytes hvalid
  obtain ⟨_, _, hchannels⟩ := validate_eq_ok_iff.mp hvalid
  have hbits : ((layout.wordBytes word).flatMap byteBits).reverse =
      (List.range (8 * bytes)).map fun channel =>
        (byteAt word (layout.byteOfBlock bytes (channel / 8))).toNat.testBit (channel % 8) := by
    rw [List.reverse_flatMap, reverse_wordBytes hbytes, List.flatMap_map]
    simp only [Function.comp_def, reverse_byteBits]
    exact flatMap_range_eight _ bytes
  rw [unpack, hbits, ← List.map_take, List.take_range, min_eq_left (by omega)]
  refine List.map_congr_left fun channel hchannel => ?_
  have hlt := List.mem_range.mp hchannel
  rw [testBit_byteAt _ _ (Nat.mod_lt _ (by omega))]
  congr 1
  cases horder : layout.byteOrder with
  | big =>
    simp only [byteOfBlock, bitOf, horder]
    omega
  | little =>
    simp only [byteOfBlock, bitOf, horder]
    omega

theorem bitOf_lt {layout : Layout} (hvalid : layout.validate = .ok ()) {channel : Nat}
    (hchannel : channel < layout.channels) : layout.bitOf channel < layout.wordBits.toNat := by
  obtain ⟨bytes, hbytes, _, _⟩ := exists_bytes hvalid
  obtain ⟨_, _, hchannels⟩ := validate_eq_ok_iff.mp hvalid
  rw [bitOf]
  cases layout.byteOrder <;> simp only <;> omega

/-- No two channels read the same bit. -/
theorem bitOf_injOn {layout : Layout} (hvalid : layout.validate = .ok ()) :
    Set.InjOn layout.bitOf (Set.Iio layout.channels) := by
  obtain ⟨bytes, hbytes, _, _⟩ := exists_bytes hvalid
  obtain ⟨_, _, hchannels⟩ := validate_eq_ok_iff.mp hvalid
  intro channel hchannel other hother hsame
  rw [Set.mem_Iio] at hchannel hother
  rw [bitOf, bitOf] at hsame
  cases horder : layout.byteOrder with
  | big => simpa [horder] using hsame
  | little =>
    simp only [horder] at hsame
    omega

end Pseudoclock.Layout
