import Pseudoclock.Error
import Pseudoclock.Trace

/-!
Layouts of packed words: which bit of a word drives which output channel. The bytes of a word are
laid out in the layout's byte order and their bits listed from the most significant one on; read
backwards, that list has the bit of channel 0 first.
-/

namespace Pseudoclock

/-- The order in which the bytes of a word are laid out. -/
inductive ByteOrder where
  | big
  | little
deriving DecidableEq, Repr

/-- How the levels of an output bank are packed into a word. -/
structure Layout where
  channels : Nat
  /-- The width of a stored word: 8, 16, 32 or 64. -/
  wordBits : UInt32
  byteOrder : ByteOrder := .big
deriving DecidableEq, Repr

namespace Layout

def validate (layout : Layout) : Except Error Unit := do
  if !([8, 16, 32, 64].contains layout.wordBits) then
    throw (.invalidLayout (.width layout.wordBits))
  if layout.channels == 0 || layout.wordBits.toNat < layout.channels then
    throw (.invalidLayout (.channelCount layout.channels layout.wordBits))

def ofParts (channels : Nat) (wordBits : UInt32) (byteOrder : ByteOrder) : Except Error Layout := do
  let layout := Layout.mk channels wordBits byteOrder
  layout.validate
  return layout

/-- Whether a word drives only existing channels. -/
def fits (layout : Layout) (word : UInt64) : Bool :=
  decide (64 ≤ layout.channels) || word.toNat >>> layout.channels == 0

@[simp] theorem fits_zero (layout : Layout) : layout.fits 0 = true := by
  simp [fits]

/-- The byte of a word that is worth `256 ^ index`. -/
def byteAt (word : UInt64) (index : Nat) : UInt8 :=
  UInt8.ofNat (word.toNat >>> (8 * index))

def wordBytes (layout : Layout) (word : UInt64) : List UInt8 :=
  let ascending := (List.range (layout.wordBits.toNat / 8)).map (byteAt word)
  match layout.byteOrder with
  | .big => ascending.reverse
  | .little => ascending

/-- The bits of a byte, the most significant one first. -/
def byteBits (byte : UInt8) : List Bool :=
  (List.range 8).reverse.map byte.toNat.testBit

/-- The levels that a word drives, channel 0 first. -/
def unpack (layout : Layout) (word : UInt64) : List Bool :=
  ((layout.wordBytes word).flatMap byteBits).reverse.take layout.channels

def levelOf (layout : Layout) (word : UInt64) (channel : Nat) : UInt8 :=
  if (layout.unpack word).getD channel false then 1 else 0

theorem levelOf_eq_zero_or_one (layout : Layout) (word : UInt64) (channel : Nat) :
    layout.levelOf word channel = 0 ∨ layout.levelOf word channel = 1 := by
  rw [levelOf]
  split
  · exact .inr rfl
  · exact .inl rfl

/-- Splits a trace of words into one trace of levels for each channel, channel 0 first. -/
def demultiplex (layout : Layout) (words : Trace UInt64) : List (Trace UInt8) :=
  (List.range layout.channels).map fun channel =>
    Trace.ofSamples (words.samples.map fun sample => (sample.1, layout.levelOf sample.2 channel))

end Layout

end Pseudoclock
