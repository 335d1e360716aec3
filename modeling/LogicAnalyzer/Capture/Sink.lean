import LogicAnalyzer.Channel.Model
import LogicAnalyzer.Transfer.Transport
import LogicAnalyzer.Wire.Response

/-!
# What a capture delivers

A capture delivers a header, then batches of samples with the triggers between them, then a
trailer.  Whatever takes these deliveries is a sink: a type of states with a step for each
delivery.

## Main definitions

* `StreamHeader`, `SampleBatch`, `StreamTrailer`, `EndReason`: the parts of a delivery
* `StreamEvent`: one delivery
* `Sink`: a taker of deliveries; a list of deliveries is one, and so is a pair of sinks
-/

namespace LogicAnalyzer

/-- What is known when a capture starts. -/
structure StreamHeader where
  model : Model
  /-- The rate it samples at. -/
  sampleRate : UInt64
  /-- How many samples are wanted; zero if there is no limit. -/
  sampleLimit : UInt64
  /-- The channels that are recorded. -/
  channels : ChannelSet
deriving DecidableEq, Repr

/-- A run of samples, in order. -/
structure SampleBatch where
  /-- How many samples of the capture come before it. -/
  firstIndex : Nat
  /-- The channels that are recorded. -/
  channels : ChannelSet
  /-- The samples, bit `i` being the level of channel `i`. -/
  samples : List UInt64
deriving DecidableEq, Repr

/-- The level of a channel in a sample: a sample is the set of channels that were high. -/
def levelOf (sample : UInt64) (channel : Nat) : Bool := (ChannelSet.mk sample).contains channel

/-- The levels of one channel, if it is recorded. -/
def SampleBatch.levels? (batch : SampleBatch) (channel : Nat) : Option (List Bool) :=
  if batch.channels.contains channel then some (batch.samples.map (levelOf · channel)) else none

/-- Why a capture was aborted. -/
inductive AbortReason where
  | transfer (error : TransferError)
  | corruption (cause : Corruption)
deriving DecidableEq, Repr

/-- Why a capture ended. -/
inductive EndReason where
  | stopped
  /-- All wanted samples are there. -/
  | limitReached
  /-- The device reported the end. -/
  | deviceDone
  | aborted (reason : AbortReason)
deriving DecidableEq, Repr

/-- What is known when a capture has ended. -/
structure StreamTrailer where
  /-- How many samples were delivered. -/
  samples : Nat
  reason : EndReason
deriving DecidableEq, Repr

/-- One delivery. -/
inductive StreamEvent where
  | header (header : StreamHeader)
  | samples (batch : SampleBatch)
  /-- The trigger fired just before the sample with this number. -/
  | trigger (sampleIndex : Nat)
  | trailer (trailer : StreamTrailer)
deriving DecidableEq, Repr

/-- A taker of deliveries with states `σ`. -/
class Sink (σ : Type) where
  take : σ → StreamEvent → σ

namespace Sink

/-- Takes deliveries one after another. -/
def takeAll {σ : Type} [Sink σ] (sink : σ) (events : List StreamEvent) : σ :=
  events.foldl Sink.take sink

/-- A list of deliveries takes one more at its end. -/
instance : Sink (List StreamEvent) where
  take events event := events ++ [event]

/-- Two sinks take every delivery together. -/
instance {σ ρ : Type} [Sink σ] [Sink ρ] : Sink (σ × ρ) where
  take sinks event := (Sink.take sinks.1 event, Sink.take sinks.2 event)

theorem takeAll_list (taken events : List StreamEvent) :
    takeAll taken events = taken ++ events := by
  induction events generalizing taken with
  | nil => simp [takeAll]
  | cons event rest ih =>
    have := ih (taken ++ [event])
    simp only [takeAll, List.foldl_cons, Sink.take] at this ⊢
    rw [this]; simp

end Sink

end LogicAnalyzer
