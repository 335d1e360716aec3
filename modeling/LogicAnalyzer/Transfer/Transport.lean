import LogicAnalyzer.Transfer.Buffer
import LogicAnalyzer.Wire.Frame

/-!
# Transports

A transport carries frames to the device and bytes back.  Commands are answered at once.
Reads are not: a buffer is handed over for a slot, and some time later an event reports the
slot, gives the buffer back, and says what became of the read.

A transport is a type of states with these operations.  Everything above it is written for
any transport.

## Main definitions

* `TransferError`: what can go wrong with a transfer
* `ReadEvent`: the report of a read
* `Transport`: the operations
-/

namespace LogicAnalyzer

/-- What can go wrong with a transfer. -/
inductive TransferError where
  | stall
  | disconnected
  | fault
  | cancelled
  /-- Anything else that the bus reports. -/
  | bus (report : String)
deriving DecidableEq, Repr

/-- What a failed transfer is reported as. -/
def TransferError.message : TransferError → String
  | stall => "Endpoint stalled"
  | disconnected => "Device disconnected"
  | fault => "Transfer fault"
  | cancelled => "Transfer was cancelled"
  | bus report => "USB error: " ++ report

/-- What became of a read. -/
inductive ReadOutcome where
  | received
  | failed (error : TransferError)
  /-- It was cancelled before it delivered. -/
  | cancelled
deriving DecidableEq, Repr

/-- The report of a read: the slot it was submitted for, its buffer, what became of it. -/
structure ReadEvent where
  /-- The slot that the read was submitted for. -/
  slot : Nat
  buffer : Buffer
  /-- What became of the read. -/
  outcome : ReadOutcome
deriving DecidableEq

/-- **The operations of a transport** with states `τ`.  Nothing is promised about their answers:
commands and buffers may be refused at will, and any event may be reported at any time. -/
class Transport (τ : Type) where
  /-- Sends a frame to the device. -/
  send : τ → Frame → Except TransferError Unit × τ
  /-- Hands over a buffer to be filled for a slot. -/
  submit : τ → (slot : Nat) → Buffer → Except TransferError Unit × τ
  /-- Asks for every read that is out to be cancelled. -/
  cancelAll : τ → τ
  /-- The next event, if one is ready. -/
  next : τ → Option ReadEvent × τ
  /-- Gives up on all reads that are out: none of them will be reported. -/
  forget : τ → τ

end LogicAnalyzer
