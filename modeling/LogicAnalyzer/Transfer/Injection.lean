import LogicAnalyzer.Transfer.Transport

/-!
# Injected events

For rehearsing what a real bus may report, a transport can be given a queue of events that
come before its own.  They are reported oldest first and touch nothing else: cancelling or
giving up on reads leaves the queue as it is.

## Main definitions

* `Injected τ`: a transport with a queue of events in front
-/

namespace LogicAnalyzer

/-- A transport with a queue of events that are reported before its own. -/
structure Injected (τ : Type) where
  inner : τ
  /-- The events to report first, oldest first. -/
  queue : List ReadEvent := []

namespace Injected

variable {τ : Type}

/-- Adds an event at the end of the queue. -/
def inject (t : Injected τ) (event : ReadEvent) : Injected τ :=
  { t with queue := t.queue ++ [event] }

/-- Applies an operation of the transport behind the queue. -/
def lift {α : Type} (t : Injected τ) (result : α × τ) : α × Injected τ :=
  (result.1, { t with inner := result.2 })

/-- The next event: the oldest of the queue, or else the next of the transport. -/
def next [Transport τ] (t : Injected τ) : Option ReadEvent × Injected τ :=
  match t.queue with
  | event :: rest => (some event, { t with queue := rest })
  | [] => t.lift (Transport.next t.inner)

instance [Transport τ] : Transport (Injected τ) where
  send t frame := t.lift (Transport.send t.inner frame)
  submit t slot buffer := t.lift (Transport.submit t.inner slot buffer)
  cancelAll t := { t with inner := Transport.cancelAll t.inner }
  next := next
  forget t := { t with inner := Transport.forget t.inner }

end Injected

end LogicAnalyzer
