import LogicAnalyzer.Bytes

/-!
# Frames

Both directions of the conversation with the device are made of frames: an operation code
and the length of the payload, two bytes each, and then the payload.

## Main definitions

* `Frame`: an operation code with a payload
* `Frame.toBytes`: the frame as it is sent
-/

namespace LogicAnalyzer

/-- An operation code with its payload. -/
structure Frame where
  /-- What the frame is about. -/
  opcode : UInt16
  payload : List UInt8 := []
deriving DecidableEq, Repr, Inhabited

namespace Frame

/-- Bytes in front of the payload. -/
def headerLength : Nat := 4

/-- The longest payload that the length field can announce. -/
def maxPayload : Nat := 65535

/-- The frame as it is sent. -/
def toBytes (f : Frame) : List UInt8 :=
  littleEndian 2 f.opcode.toNat ++ littleEndian 2 f.payload.length ++ f.payload

@[simp]
theorem length_toBytes (f : Frame) : f.toBytes.length = headerLength + f.payload.length := by
  simp only [toBytes, List.length_append, length_littleEndian, headerLength]

end Frame

end LogicAnalyzer
