import LogicAnalyzer.Pieces
import LogicAnalyzer.Wire.Response

/-!
# Sample records

A sample is one word, bit `i` being the level of channel `i`.  In the stream it takes as
many bytes as the model's channels need, and as many records share a frame as its length
field allows.

## Main definitions

* `Record.pack`, `Record.unpack`: a sample as bytes, and back
* `Record.encode`: the frames of a list of samples
-/

namespace LogicAnalyzer

namespace Record

/-- The most bytes that a sample can take. -/
def maxWidth : Nat := 8

/-- The lowest `width` bytes of a sample. -/
def pack (width : Nat) (sample : UInt64) : List UInt8 := littleEndian width sample.toNat

/-- The sample of a record.  Bytes beyond a word do not count. -/
def unpack (record : List UInt8) : UInt64 := UInt64.ofNat (ofLittleEndian (record.take maxWidth))

/-- How many records of this width share a frame. -/
def perFrame (width : Nat) : Nat := max (Frame.maxPayload / width) 1

/-- The frames of a list of samples. -/
def frames (width : Nat) (samples : List UInt64) : List Frame :=
  (pieces (perFrame width) samples).map fun piece =>
    ⟨Response.samplesOpcode, piece.flatMap (pack width)⟩

/-- **The stream of a list of samples.**  There is none for records without bytes, nor for
samples that would take more bytes than a word has. -/
def encode (width : Nat) (samples : List UInt64) : Option (List UInt8) :=
  if width = 0 ∨ (maxWidth < width ∧ samples ≠ []) then none
  else some ((frames width samples).flatMap Frame.toBytes)

end Record

end LogicAnalyzer
