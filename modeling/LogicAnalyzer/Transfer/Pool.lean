import LogicAnalyzer.Loop
import LogicAnalyzer.Transfer.Transport

/-!
# The pool of reads

To keep the stream flowing several reads are out at once.  A pool has one slot per read.
Its buffer is in exactly one place: parked in the slot, out with the transport, or on loan
to whoever took a report and will hand the buffer back.

## Main definitions

* `TransferPool`: the slots, and how many reads are out
* `TransferPool.allocate`: a pool with all buffers parked
* `TransferPool.submitAll`: submits every parked buffer
* `TransferPool.accept`: takes a report, and lends its buffer
* `TransferPool.resubmit`, `park`, `handBack`: hand a buffer back
* `TransferPool.cancelAll`, `abandon`: stop reading, in an orderly way or at once
-/

namespace LogicAnalyzer

/-- Why a pool could not be had. -/
inductive AllocationError where
  /-- Memory was refused: so many bytes were asked for. -/
  | refused (bytes : UInt64)
  /-- Memory was refused, and the bytes that were asked for are more than a machine word can count.
  Nobody is told of it: the program ends where it counts them. -/
  | overflow
deriving DecidableEq, Repr

/-- What a failed allocation is reported as. -/
def AllocationError.message : AllocationError → String
  | refused bytes => s!"Failed to allocate {bytes.toNat} byte transfer buffer"
  | overflow => "attempt to multiply with overflow"

/-- Where the buffer of a slot is. -/
inductive Slot where
  | parked (buffer : Buffer)
  | inFlight
  /-- On loan, or lost with a refused submission. -/
  | empty
deriving DecidableEq

/-- Whether the buffer of a slot is with the transport. -/
def Slot.isInFlight : Slot → Bool
  | inFlight => true
  | _ => false

/-- The slots of a pool. -/
structure TransferPool where
  slots : List Slot
  /-- How many reads are out. -/
  outstanding : Nat := 0
  /-- Whether reading is to stop. -/
  cancelRequested : Bool := false
deriving DecidableEq

namespace TransferPool

/-- How many reads a pool has unless told otherwise. -/
def standardSize : Nat := 4

/-- How large their buffers are unless told otherwise. -/
def standardBufferSize : Nat := 16384

/-- The largest piece of memory that can be asked for. -/
def maxAllocation : Nat := UInt64.size / 2 - 1

/-- The memory that a slot itself takes. -/
def slotBytes : Nat := 24

/-- What becomes of a refused request for slots.  Its bytes are counted only now, and the
multiplication is checked. -/
def slotRefusal (size : Nat) : AllocationError :=
  if slotBytes * size < UInt64.size then .refused (UInt64.ofNat (slotBytes * size)) else .overflow

/-- **A pool with all buffers parked.**  The memory for the slots is asked for first, then
that for the buffers. -/
def allocate (size bufferSize : Nat) : Except AllocationError TransferPool :=
  if maxAllocation < slotBytes * size then .error (slotRefusal size)
  else if size ≠ 0 ∧ maxAllocation < bufferSize then .error (.refused (UInt64.ofNat bufferSize))
  else .ok { slots := List.replicate size (.parked (.allocate bufferSize)) }

/-- How many slots there are. -/
def size (p : TransferPool) : Nat := p.slots.length

/-- Whether no read is out. -/
def isDrained (p : TransferPool) : Bool := p.outstanding == 0

/-- Puts a buffer into a slot.  Slots that the pool does not have are ignored. -/
def park (p : TransferPool) (slot : Nat) (buffer : Buffer) : TransferPool :=
  { p with slots := p.slots.set slot (.parked buffer) }

/-- **Takes a report.**  It counts only if the slot is in flight; the buffer is then on loan to
the caller.  A failure that says the read was cancelled is a cancellation. -/
def accept (p : TransferPool) (event : ReadEvent) : Option ReadEvent × TransferPool :=
  if p.slots[event.slot]? = some .inFlight then
    (some { event with
        outcome := if event.outcome = .failed .cancelled then .cancelled else event.outcome },
      { p with slots := p.slots.set event.slot .empty, outstanding := p.outstanding - 1 })
  else (none, p)

variable {τ : Type} [Transport τ]

/-- Hands an emptied buffer to the transport.  If the transport refuses it, the buffer is lost. -/
def submit (p : TransferPool) (t : τ) (slot : Nat) (buffer : Buffer) :
    Except TransferError Unit × TransferPool × τ :=
  match Transport.submit t slot buffer.clear with
  | (.ok (), t) =>
    (.ok (), { p with slots := p.slots.set slot .inFlight, outstanding := p.outstanding + 1 }, t)
  | (.error e, t) => (.error e, { p with slots := p.slots.set slot .empty }, t)

/-- Takes what the given slots hold, submits the parked buffers until one is refused, and counts
them.  A slot that is in flight holds nothing, and is empty from then on: the pool no longer
expects its report. -/
def submitEach (p : TransferPool) (t : τ) (count : Nat) :
    List Nat → Except TransferError Nat × TransferPool × τ
  | [] => (.ok count, p, t)
  | slot :: rest =>
    match p.slots[slot]? with
    | some (.parked buffer) =>
      match p.submit t slot buffer with
      | (.ok (), p, t) => p.submitEach t (count + 1) rest
      | (.error e, p, t) => (.error e, p, t)
    | _ => { p with slots := p.slots.set slot .empty }.submitEach t count rest

/-- **Submits every parked buffer**, unless reading is to stop, and counts them. -/
def submitAll (p : TransferPool) (t : τ) : Except TransferError Nat × TransferPool × τ :=
  if p.cancelRequested then (.ok 0, p, t) else p.submitEach t 0 (List.range p.size)

/-- Hands a buffer on loan back to be read into again; if reading is to stop, it is parked.
The slot must be one of the pool. -/
def resubmit (p : TransferPool) (t : τ) (slot : Nat) (buffer : Buffer) :
    Except TransferError Unit × TransferPool × τ :=
  if p.cancelRequested then (.ok (), p.park slot buffer, t) else p.submit t slot buffer

/-- **Hands back a buffer for any slot.**  There is no result if it would be submitted for a slot that
the pool does not have: the program ends there. -/
def handBack (p : TransferPool) (t : τ) (slot : Nat) (buffer : Buffer) :
    Option (Except TransferError Unit × TransferPool × τ) :=
  if p.cancelRequested || decide (slot < p.size) then some (p.resubmit t slot buffer) else none

/-- **Stops reading.**  The transport is told once, and only if reads are out. -/
def cancelAll (p : TransferPool) (t : τ) : TransferPool × τ :=
  if p.cancelRequested then (p, t)
  else ({ p with cancelRequested := true }, if 0 < p.outstanding then Transport.cancelAll t else t)

/-- Takes a report and parks its buffer, whatever became of the read. -/
def settle (p : TransferPool) (event : ReadEvent) : TransferPool :=
  match p.accept event with
  | (some delivery, p) => p.park delivery.slot delivery.buffer
  | (none, p) => p

/-- Settles one event, unless no read is out or none is ready. -/
def settleNext : TransferPool × τ → (TransferPool × τ) ⊕ (TransferPool × τ)
  | (p, t) =>
    if p.outstanding = 0 then .inr (p, t)
    else
      match Transport.next t with
      | (none, t) => .inr (p, t)
      | (some event, t) => .inl (p.settle event, t)

/-- Settles the events that are ready, until no read is out.  There is no result if the
transport keeps reporting events of other reads for ever. -/
def settleReady (p : TransferPool) (t : τ) : Option (TransferPool × τ) := loop settleNext (p, t)

/-- Counts no read as out any more; the buffers in flight are lost. -/
def writeOff (p : TransferPool) : TransferPool :=
  { p with
    slots := p.slots.map fun slot => if slot.isInFlight then .empty else slot
    outstanding := 0 }

/-- **Stops reading at once**: what is ready is settled, and what is still out after that is
given up on. -/
def abandon (p : TransferPool) (t : τ) : Option (TransferPool × τ) := do
  let (p, t) := p.cancelAll t
  let (p, t) ← p.settleReady t
  return if p.outstanding = 0 then (p, t) else (p.writeOff, Transport.forget t)

end TransferPool

end LogicAnalyzer
