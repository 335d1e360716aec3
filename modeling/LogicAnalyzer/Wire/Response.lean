import LogicAnalyzer.Text.Quoted
import LogicAnalyzer.Wire.Frame

/-!
# Responses

The device streams three kinds of frames: packed samples, a notice that the trigger fired,
and a notice that the capture is complete.  The notices carry no payload.  A reader that
has only the beginning of a frame waits for the rest, but refuses at once what can no
longer become a frame.

## Main definitions

* `Response`: what the device streams
* `Response.decode`: the response at the start of a string of bytes
* `Response.frame`, `Response.wireLength`: its frame, and the bytes the frame takes
* `Corruption`: what is wrong with bytes that no frame starts with
* `ResponseError`: a frame that is incomplete or corrupt
-/

namespace LogicAnalyzer

/-- What is wrong with a frame of the stream. -/
inductive Corruption where
  /-- No response has this operation code. -/
  | unknownOpcode (opcode : UInt16)
  /-- A notice announces a payload. -/
  | unexpectedPayload (opcode : UInt16)
  /-- A payload of samples ends in the middle of a record. -/
  | partialRecord
deriving DecidableEq, Repr

/-- Why no response could be read. -/
inductive ResponseError where
  /-- More bytes are needed: so many in all, of which so many are there. -/
  | truncated (needed available : Nat)
  /-- The bytes do not start with a frame of the stream. -/
  | corrupt (cause : Corruption)
deriving DecidableEq, Repr

/-- What the device streams. -/
inductive Response where
  /-- Packed sample records, oldest first. -/
  | samples (payload : List UInt8)
  | triggered
  | captureDone
deriving DecidableEq, Repr

namespace Response

/-- The operation code of sample frames. -/
def samplesOpcode : UInt16 := 0x8001

/-- The operation code of trigger notices. -/
def triggeredOpcode : UInt16 := 0x8002

/-- The operation code of completion notices. -/
def captureDoneOpcode : UInt16 := 0x8003

/-- The frame of a response. -/
def frame : Response → Frame
  | samples payload => ⟨samplesOpcode, payload⟩
  | triggered => ⟨triggeredOpcode, []⟩
  | captureDone => ⟨captureDoneOpcode, []⟩

/-- The bytes that the response takes in the stream, header included. -/
def wireLength : Response → Nat
  | samples payload => Frame.headerLength + payload.length
  | triggered | captureDone => Frame.headerLength

/-- What a header with this operation code and length announces: a frame of samples, a
notice, or nothing that belongs to the stream. -/
def ofHeader (opcode : UInt16) (length : Nat) : Except Corruption (List UInt8 → Response) :=
  if opcode = samplesOpcode then .ok samples
  else if opcode = triggeredOpcode ∨ opcode = captureDoneOpcode then
    if length = 0 then
      .ok fun _ => if opcode = triggeredOpcode then triggered else captureDone
    else .error (.unexpectedPayload opcode)
  else .error (.unknownOpcode opcode)

/-- **The response at the start of `bytes`.**  The header is judged as soon as it is there,
before the payload is waited for. -/
def decode (bytes : List UInt8) : Except ResponseError Response :=
  match bytes with
  | b₀ :: b₁ :: b₂ :: b₃ :: rest =>
    let opcode := UInt16.ofNat (ofLittleEndian [b₀, b₁])
    let length := ofLittleEndian [b₂, b₃]
    match ofHeader opcode length with
    | .error cause => .error (.corrupt cause)
    | .ok response =>
      let payload := rest.take length
      if payload.length = length then .ok (response payload)
      else .error (.truncated (Frame.headerLength + length) (Frame.headerLength + rest.length))
  | _ => .error (.truncated Frame.headerLength bytes.length)

theorem headerLength_le_wireLength (r : Response) : Frame.headerLength ≤ r.wireLength := by
  cases r <;> simp [wireLength]

end Response

/-- How an operation code is written in messages. -/
def renderOpcode (opcode : UInt16) : String := "0x" ++ String.ofList (Text.hex 4 opcode.toNat)

/-- What a corrupt frame is reported as. -/
def Corruption.message : Corruption → String
  | unknownOpcode opcode => "Unknown response opcode " ++ renderOpcode opcode
  | unexpectedPayload opcode =>
    "Malformed frame with opcode " ++ renderOpcode opcode ++ ": unexpected payload"
  | partialRecord =>
    "Malformed frame with opcode " ++ renderOpcode Response.samplesOpcode ++
      ": payload is not a whole number of sample records"

/-- What an unread frame is reported as. -/
def ResponseError.message : ResponseError → String
  | truncated needed available => s!"Frame truncated: need {needed} bytes, have {available}"
  | corrupt cause => cause.message

end LogicAnalyzer
