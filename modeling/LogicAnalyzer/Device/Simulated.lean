import LogicAnalyzer.Channel.Model
import LogicAnalyzer.Transfer.Transport
import LogicAnalyzer.Wire.Record

/-!
# A simulated device

The device that the analyzer can be tried with when none is at hand.  It streams the bytes
it is given, answers reads in the order in which they were submitted, and fails where it is
told to.  A read with nothing to deliver stays pending, as it would on the bus.

## Main definitions

* `SimulatedDevice`: the state of the device
* `SimulatedDevice.queue`, `queueSamples`, `queueTrigger`, `queueCaptureDone`: its stream
* `SimulatedDevice.failCommand`, `failCompletion`, `failSubmission`, `clearFailures`: its faults
* `SimulatedDevice.complete`: what becomes of the oldest read
-/

namespace LogicAnalyzer

/-- A read that has been submitted and not reported. -/
structure PendingRead where
  /-- The slot it was submitted for. -/
  slot : Nat
  buffer : Buffer
  /-- Whether it is to be cancelled. -/
  cancelled : Bool := false
deriving DecidableEq

/-- The state of a simulated device. -/
structure SimulatedDevice where
  model : Model
  /-- The bytes it still has to stream. -/
  stream : List UInt8 := []
  /-- The reads that are out, oldest first. -/
  pending : List PendingRead := []
  /-- The commands it accepted, oldest first. -/
  commands : List Frame := []
  /-- How many commands it refused. -/
  refusedCommands : Nat := 0
  /-- Commands with this operation code are refused, with this error. -/
  commandFailure : Option (UInt16 × TransferError) := none
  /-- The report with this number fails, with this error. -/
  completionFailure : Option (Nat × TransferError) := none
  /-- The submission with this number is refused. -/
  submissionFailure : Option Nat := none
  /-- Whether cancelled reads stay pending. -/
  holdsCancellations : Bool := false
  /-- How many reads have been reported. -/
  completions : Nat := 0
  /-- How many reads have been submitted, refused ones included. -/
  submissions : Nat := 0
  /-- How often it was asked to cancel. -/
  cancelRequests : Nat := 0
  /-- How many reads were given up on. -/
  forgotten : Nat := 0
deriving DecidableEq

namespace SimulatedDevice

/-- Adds bytes at the end of the stream. -/
def queue (d : SimulatedDevice) (bytes : List UInt8) : SimulatedDevice :=
  { d with stream := d.stream ++ bytes }

/-- Adds samples to the stream, if the model's records can hold them. -/
def queueSamples (d : SimulatedDevice) (samples : List UInt64) : Option SimulatedDevice :=
  (Record.encode d.model.recordWidth samples).map d.queue

/-- Adds the notice that the trigger fired. -/
def queueTrigger (d : SimulatedDevice) : SimulatedDevice :=
  d.queue Response.triggered.frame.toBytes

/-- Adds the notice that the capture is complete. -/
def queueCaptureDone (d : SimulatedDevice) : SimulatedDevice :=
  d.queue Response.captureDone.frame.toBytes

/-- From now on every command with this operation code is refused. -/
def failCommand (d : SimulatedDevice) (opcode : UInt16) (error : TransferError) :
    SimulatedDevice :=
  { d with commandFailure := some (opcode, error) }

/-- The report number `index`, counted from zero, fails. -/
def failCompletion (d : SimulatedDevice) (index : Nat) (error : TransferError) :
    SimulatedDevice :=
  { d with completionFailure := some (index, error) }

/-- The submission number `index`, counted from zero, is refused. -/
def failSubmission (d : SimulatedDevice) (index : Nat) : SimulatedDevice :=
  { d with submissionFailure := some index }

/-- Whether cancelled reads stay pending from now on. -/
def holdCancellations (d : SimulatedDevice) (hold : Bool) : SimulatedDevice :=
  { d with holdsCancellations := hold }

/-- Forgets every fault that was asked for. -/
def clearFailures (d : SimulatedDevice) : SimulatedDevice :=
  { d with commandFailure := none, completionFailure := none, submissionFailure := none }

/-- The error with which a command with this operation code is refused. -/
def refusal? (d : SimulatedDevice) (opcode : UInt16) : Option TransferError :=
  match d.commandFailure with
  | some (failing, error) => if failing = opcode then some error else none
  | none => none

/-- Takes a command, or refuses it. -/
def send (d : SimulatedDevice) (frame : Frame) : Except TransferError Unit × SimulatedDevice :=
  match d.refusal? frame.opcode with
  | some error => (.error error, { d with refusedCommands := d.refusedCommands + 1 })
  | none => (.ok (), { d with commands := d.commands ++ [frame] })

/-- Takes a buffer to fill, or refuses it. -/
def submit (d : SimulatedDevice) (slot : Nat) (buffer : Buffer) :
    Except TransferError Unit × SimulatedDevice :=
  let next := { d with submissions := d.submissions + 1 }
  if d.submissionFailure = some d.submissions then (.error .fault, next)
  else (.ok (), { next with pending := d.pending ++ [{ slot, buffer }] })

/-- Marks every pending read as cancelled. -/
def cancelAll (d : SimulatedDevice) : SimulatedDevice :=
  { d with
    cancelRequests := d.cancelRequests + 1
    pending := d.pending.map fun read => { read with cancelled := true } }

/-- The error with which the next report fails, if it is the report of a read that was not
cancelled. -/
def failure? (d : SimulatedDevice) : Option TransferError :=
  match d.completionFailure with
  | some (index, error) => if index = d.completions then some error else none
  | none => none

/-- **What becomes of the oldest read**, and the stream after it.  A cancelled read is confirmed
unless confirmations are held.  Any other read fails if the device is told to fail, and else
takes as many bytes of the stream as its buffer has room for, one at least; on an empty
stream it stays pending. -/
def complete (d : SimulatedDevice) (read : PendingRead) : Option (ReadEvent × List UInt8) :=
  if read.cancelled then
    if d.holdsCancellations then none
    else some (⟨read.slot, read.buffer, .cancelled⟩, d.stream)
  else
    match d.failure? with
    | some error => some (⟨read.slot, read.buffer, .failed error⟩, d.stream)
    | none =>
      if d.stream.isEmpty then none
      else
        let room := max read.buffer.capacity 1
        some (⟨read.slot, read.buffer.append (d.stream.take room), .received⟩, d.stream.drop room)

/-- The report of the oldest read, if it is ready. -/
def next (d : SimulatedDevice) : Option ReadEvent × SimulatedDevice :=
  match d.pending with
  | [] => (none, d)
  | read :: rest =>
    match d.complete read with
    | none => (none, d)
    | some (event, stream) =>
      (some event, { d with stream, pending := rest, completions := d.completions + 1 })

/-- Drops every pending read. -/
def forget (d : SimulatedDevice) : SimulatedDevice :=
  { d with forgotten := d.forgotten + d.pending.length, pending := [] }

/-- Every report takes a read off the pending ones, or a read and some of the stream. -/
def backlog (d : SimulatedDevice) : Nat := d.pending.length + d.stream.length

theorem length_stream_complete {d : SimulatedDevice} {read : PendingRead} {event : ReadEvent}
    {stream : List UInt8} (h : d.complete read = some (event, stream)) :
    stream.length ≤ d.stream.length := by
  unfold complete at h
  split at h
  · split at h
    · cases h
    · cases h; exact Nat.le_refl _
  · split at h
    · cases h; exact Nat.le_refl _
    · split at h
      · cases h
      · cases h; simp

theorem backlog_next {d d' : SimulatedDevice} {event : ReadEvent} (h : d.next = (some event, d')) :
    d'.backlog < d.backlog := by
  unfold next at h
  split at h
  · cases h
  · rename_i read rest hpending
    split at h
    · cases h
    · rename_i event' stream hcomplete
      cases h
      have := length_stream_complete hcomplete
      simp only [backlog, hpending, List.length_cons]
      omega

instance : Transport SimulatedDevice where
  send := send
  submit := submit
  cancelAll := cancelAll
  next := next
  forget := forget

end SimulatedDevice

end LogicAnalyzer
