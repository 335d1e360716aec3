import LogicAnalyzer.Channel.Set
import LogicAnalyzer.Wire.Record

/-!
# Decoding the stream

The stream reaches the host in chunks that do not line up with its frames.  A decoder takes
the chunks in the order of their arrival, reads every frame that is complete, and keeps the
bytes of the one that is not until the next chunk.  It forgets the levels of channels that
are not recorded, and once the sample limit is reached it drops further samples and triggers
while still following the frames.

A corrupt frame ends decoding: it stays in front of the undecoded bytes, so every later
chunk meets it again.

## Main definitions

* `StreamDecoder`: what a decoder remembers between chunks
* `Decoded`: what a chunk brought
* `StreamDecoder.receive`: what one response does
* `StreamDecoder.feed`: what one chunk does
-/

namespace LogicAnalyzer

/-- What a decoder remembers between chunks. -/
structure StreamDecoder where
  /-- Bytes of a record, at least one. -/
  recordWidth : Nat
  /-- The channels that are recorded. -/
  channels : ChannelSet
  /-- How many samples are wanted; zero if there is no limit. -/
  sampleLimit : UInt64
  /-- Bytes that are not decoded yet. -/
  residue : List UInt8 := []
  /-- How many samples have been handed out. -/
  emitted : Nat := 0
deriving DecidableEq, Repr

/-- What a chunk brought. -/
@[ext]
structure Decoded where
  /-- The samples, in order, without the levels of channels that are not recorded. -/
  samples : List UInt64 := []
  /-- For each trigger the number of samples since the start of the capture before it. -/
  triggers : List Nat := []
  /-- Whether this chunk completed the wanted number of samples. -/
  limitReached : Bool := false
  /-- Whether the device reported the end of the capture. -/
  captureDone : Bool := false
  /-- What is wrong with the frame at which decoding stopped. -/
  corruption : Option Corruption := none
deriving DecidableEq, Repr

namespace StreamDecoder

/-- A decoder at the start of a capture. -/
def start (recordWidth : Nat) (channels : ChannelSet) (sampleLimit : UInt64) : StreamDecoder where
  recordWidth := max recordWidth 1
  channels := channels
  sampleLimit := sampleLimit

/-- Whether all wanted samples have been handed out. -/
def limitReached (d : StreamDecoder) : Bool :=
  d.sampleLimit != 0 && decide (d.sampleLimit.toNat ≤ d.emitted)

/-- How many of `count` further samples are wanted. -/
def wanted (d : StreamDecoder) (count : Nat) : Nat :=
  if d.sampleLimit = 0 then count else min count (d.sampleLimit.toNat - d.emitted)

/-- The samples to hand out for a payload. -/
def accept (d : StreamDecoder) (payload : List UInt8) : List UInt64 :=
  let records := pieces d.recordWidth payload
  (records.take (d.wanted records.length)).map fun record =>
    Record.unpack record &&& d.channels.bits

/-- **What one response does.**  Samples must be whole records; a trigger behind the limit is
dropped like a sample. -/
def receive (d : StreamDecoder) (out : Decoded) :
    Response → Except Corruption (StreamDecoder × Decoded)
  | .samples payload =>
    if payload.length % d.recordWidth = 0 then
      let samples := d.accept payload
      .ok ({ d with emitted := d.emitted + samples.length },
        { out with samples := out.samples ++ samples })
    else .error .partialRecord
  | .triggered =>
    if d.limitReached then .ok (d, out)
    else .ok (d, { out with triggers := out.triggers ++ [d.emitted] })
  | .captureDone => .ok (d, { out with captureDone := true })

/-- Decodes the frames at the start of `bytes`.  What is left over, an incomplete or a corrupt
frame with all that follows it, becomes the residue. -/
def decodeFrames (d : StreamDecoder) (out : Decoded) (bytes : List UInt8) :
    StreamDecoder × Decoded :=
  match bytes with
  | [] => ({ d with residue := [] }, out)
  | first :: rest =>
    match Response.decode (first :: rest) with
    | .error (.truncated _ _) => ({ d with residue := first :: rest }, out)
    | .error (.corrupt cause) =>
      ({ d with residue := first :: rest }, { out with corruption := some cause })
    | .ok response =>
      match d.receive out response with
      | .error cause => ({ d with residue := first :: rest }, { out with corruption := some cause })
      | .ok (d, out) => d.decodeFrames out (rest.drop (response.wireLength - 1))
termination_by bytes.length
decreasing_by simp only [List.length_drop, List.length_cons]; omega

/-- **What one chunk does**: it is appended to the bytes that were left over, and all complete
frames are decoded. -/
def feed (d : StreamDecoder) (bytes : List UInt8) : Decoded × StreamDecoder :=
  let (after, out) := d.decodeFrames {} (d.residue ++ bytes)
  ({ out with limitReached := !d.limitReached && after.limitReached }, after)

/-- What a list of chunks does, chunk by chunk. -/
def feedAll (d : StreamDecoder) : List (List UInt8) → List Decoded × StreamDecoder
  | [] => ([], d)
  | chunk :: rest =>
    let (out, d) := d.feed chunk
    let (outs, d) := d.feedAll rest
    (out :: outs, d)

end StreamDecoder

end LogicAnalyzer
