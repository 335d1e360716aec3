import LogicAnalyzer.Proofs.Capture.Rehearsal

/-!
# Starting on a faultless device

A start on a simulated device without faults works whenever there is memory for the pool and the
commands can be written.  All reads are out then, in the order of their slots, and nothing has been
fed yet.

## Main results

* `Controller.start_of_faultless`: which pools a start works with
* `Rehearsal.streaming_of_start`: the capture after a start
* `Rehearsal.comesTo_of_start`: what it comes to
-/

namespace LogicAnalyzer

/-! ## All reads of a new pool -/

namespace TransferPool

variable {p : TransferPool} {size bufferSize : Nat}

/-- There is memory for one read with a buffer of any size up to the largest piece. -/
theorem allocate_one (h : bufferSize ≤ maxAllocation) :
    ∃ p, allocate 1 bufferSize = .ok p := by
  have hslots : ¬maxAllocation < slotBytes * 1 := by decide
  have hbuffers : ¬(1 ≠ 0 ∧ maxAllocation < bufferSize) := by omega
  exact ⟨_, by rw [allocate, if_neg hslots, if_neg hbuffers]⟩

/-- The reads of a new pool, once they are submitted. -/
def newReads (size bufferSize : Nat) : List PendingRead :=
  (List.range size).map fun slot => { slot, buffer := (Buffer.allocate bufferSize).clear }

end TransferPool

namespace Controller

variable {d : SimulatedDevice} {size bufferSize : Nat}

/-- A faultless device takes all commands. -/
theorem sendEach_of_faultless (h : d.Faultless) (frames : List Frame) :
    sendEach d frames = (.ok (), { d with commands := d.commands ++ frames }) := by
  induction frames generalizing d with
  | nil => rw [sendEach, List.append_nil]
  | cons frame rest ih =>
    have hdevice : SimulatedDevice.Faultless { d with commands := d.commands ++ [frame] } :=
      ⟨h.1, h.2, h.3, h.4⟩
    have hrest := ih hdevice
    rw [List.append_assoc] at hrest
    simp only [sendEach, Transport.send, SimulatedDevice.send_of_faultless h]
    exact hrest

/-- **It takes all reads** of a new pool. -/
theorem launch_of_faultless (h : d.Faultless) (hpending : d.pending = []) {p : TransferPool}
    (hp : TransferPool.allocate size bufferSize = .ok p) (frames : List Frame) :
    ∃ p' d', launch d p frames = some (.ok p', d') ∧
      Serves d' p' (d.commands ++ frames) false ∧ d'.stream = d.stream ∧
      d'.pending = TransferPool.newReads size bufferSize := by
  have hdevice : SimulatedDevice.Faultless { d with commands := d.commands ++ frames } :=
    ⟨h.1, h.2, h.3, h.4⟩
  rw [TransferPool.allocate_eq_ok hp]
  have hnone : TransferPool.Expects
      { slots := List.replicate size (.parked (.allocate bufferSize)) } d.pending := by
    rw [hpending]
    refine ⟨List.nodup_nil, ?_, rfl⟩
    intro slot
    simp [List.getElem?_replicate]
  have hparked : ∀ slot ∈ List.range size,
      (List.replicate size (Slot.parked (.allocate bufferSize)))[slot]? =
        some (.parked (.allocate bufferSize)) := by
    intro slot hmem
    rw [List.getElem?_replicate, if_pos (List.mem_range.mp hmem)]
  obtain ⟨p', hsubmit, hexpects⟩ :=
    TransferPool.submitEach_of_faultless hdevice hnone List.nodup_range hparked 0
  simp only [launch, sendEach_of_faultless h, TransferPool.submitAll, TransferPool.size,
    List.length_replicate, Bool.false_eq_true, if_false, hsubmit]
  refine ⟨p', _, rfl, ⟨⟨h.1, h.2, h.3, h.4⟩, hexpects, ?_, rfl⟩, rfl, ?_⟩
  · intro read hmem
    dsimp only at hmem
    rw [hpending, List.nil_append] at hmem
    obtain ⟨slot, -, rfl⟩ := List.mem_map.mp hmem
    exact ⟨rfl, rfl⟩
  · dsimp only
    rw [hpending, List.nil_append]
    rfl

/-- **Which pools a start works with**: any there is memory for. -/
theorem start_of_faultless {σ : Type} [Sink σ] {c : Controller SimulatedDevice σ}
    (hfaultless : c.session.transport.Faultless) (hpending : c.session.transport.pending = [])
    (hactive : c.session.status = .active) (hidle : c.acquisition = none) {pool : TransferPool}
    {commands : List Frame}
    (hprepare : c.prepare (c.session.sampleRate.getD SampleRate.standard) = .ok (pool, commands)) :
    ∃ c', c.start = some (.ok (), c') := by
  obtain ⟨hallocate, -⟩ := prepare_eq_ok.mp hprepare
  obtain ⟨p', d', hlaunch, -⟩ := launch_of_faultless hfaultless hpending hallocate commands
  have hactive' : ¬c.session.status ≠ .active := not_not_intro hactive
  have hidle' : ¬c.acquisition.isSome = true := by simp [hidle]
  refine ⟨c.begun (c.session.sampleRate.getD SampleRate.standard) p' d', ?_⟩
  simp only [start, if_neg hactive', if_neg hidle', hprepare, hlaunch, Option.map_some]

end Controller

namespace Rehearsal

/-- A controller of a faultless device of this model that is up and has these bytes to stream. -/
def opened (model : Model) (sampleLimit : UInt64) (stream : List UInt8) : Rehearsing :=
  .new { Session.new { model, stream } model with status := .active, sampleLimit } {}

/-- A record of a model with up to 64 channels can be read as one sample. -/
theorem recordWidth_bounds {model : Model}
    (h : 1 ≤ model.channelCount ∧ model.channelCount ≤ 64) :
    0 < model.recordWidth ∧ model.recordWidth ≤ Record.maxWidth := by
  rw [Model.recordWidth, Record.maxWidth]
  omega

/-- The decoder of a capture that starts on `c`. -/
def newDecoder (c : Rehearsing) : StreamDecoder :=
  .start c.session.model.recordWidth c.session.masks.channels c.session.sampleLimit

/-- The rehearsal of a capture that was started on `c`, and whose device had accepted these
commands by then. -/
def ofStart (c : Rehearsing) (commands : List Frame) (hreads : 0 < c.poolSize) : Rehearsal where
  decoder := newDecoder c
  commands := commands
  reads := c.poolSize
  reads_pos := hreads

/-- **The capture after a start** on a faultless device. -/
theorem streaming_of_start {c c' : Rehearsing} (hfaultless : c.session.transport.Faultless)
    (hpending : c.session.transport.pending = []) (hreads : 0 < c.poolSize)
    (hstart : c.start = some (.ok (), c')) :
    (∃ a, (ofStart c c'.session.transport.commands hreads).Streaming [] c' a) ∧
      c'.session.transport.stream = c.session.transport.stream ∧
      c'.session.transport.pending = TransferPool.newReads c.poolSize c.bufferSize := by
  obtain ⟨e, transport, hresult, -⟩ | ⟨-, hactive, -, pool, commands, pool', transport, hprepare,
    hlaunch, rfl⟩ := Controller.start_cases hstart
  · cases hresult
  · obtain ⟨hallocate, -⟩ := Controller.prepare_eq_ok.mp hprepare
    obtain ⟨p', d', hlaunch', hdevice, hstream, hnew⟩ :=
      Controller.launch_of_faultless hfaultless hpending hallocate commands
    rw [hlaunch'] at hlaunch
    cases hlaunch
    have hcancel := (Controller.cancelRequested_of_launch hlaunch').trans
      (TransferPool.cancelRequested_of_allocate hallocate)
    refine ⟨⟨_, rfl, ⟨rfl, hactive, hcancel, rfl, rfl⟩, ?_, ?_, ?_, ?_, ?_⟩, hstream, hnew⟩
    · simp only [ofStart, newDecoder, StreamDecoder.feed_start_nil]
    · simp only [ofStart, newDecoder, StreamDecoder.feed_start_nil]
      rfl
    · refine ⟨?_, ?_, rfl⟩ <;> simp only [ofStart, newDecoder, StreamDecoder.feed_start_nil] <;> rfl
    · exact ⟨hdevice.faultless, hdevice.expects, hdevice.pending, rfl⟩
    · simp only [Controller.begun, Controller.withTransport, hnew, TransferPool.newReads,
        List.length_map, List.length_range]
      rfl

/-! ## What captures come to -/

/-- **A capture has come to this**: it was started to lead to `started`, and is over with this
trailer in `after`. -/
structure ComesTo (started : Rehearsing) (outcome : Outcome) (trailer : StreamTrailer)
    (after : Rehearsing) : Prop where
  samples : after.sink.samples = outcome.samples
  triggers : after.sink.triggers = outcome.triggers
  delivered : after.sink.trailer = some trailer
  count : trailer.samples = outcome.samples.length
  reason : some trailer.reason = outcome.reason
  idle : after.acquisition = none
  status : after.session.status = .inactive
  pending : after.session.transport.pending = []
  /-- Since the start the device accepted one command, which shut it down. -/
  commands : after.session.transport.commands =
    started.session.transport.commands ++ [Command.shutdown.frame]

/-- **A capture comes to what its stream amounts to**, if that is conclusive and gives a reason to
end.  However the stream is queued, before the start or after it and with polls in between, enough
further polls bring the capture to its end. -/
theorem comesTo_of_start {before started : Rehearsing} {poolSize bufferSize : Nat}
    (hfaultless : before.session.transport.Faultless)
    (hpending : before.session.transport.pending = [])
    (hstart : (before.withTransferPool poolSize bufferSize).start = some (.ok (), started))
    {stream : List UInt8} (hconclusive : (newDecoder before).Conclusive stream)
    (hreason : ((newDecoder before).outcome stream).reason ≠ none) {moves : List Move}
    (hmoves : before.session.transport.stream ++ Move.bytes moves = stream) {extra : Nat}
    (hextra : stream.length + max poolSize 1 ≤ extra) :
    ∃ running trailer idle after,
      follow started (moves ++ List.replicate extra .poll) =
        (List.replicate running .running ++ .finished trailer :: List.replicate idle .idle,
          after) ∧
      ComesTo started ((newDecoder before).outcome stream) trailer after := by
  have hpool : 0 < (before.withTransferPool poolSize bufferSize).poolSize :=
    Nat.lt_of_lt_of_le Nat.one_pos (Nat.le_max_right ..)
  obtain ⟨⟨a, hstreaming⟩, hstream, -⟩ :=
    streaming_of_start (c := before.withTransferPool poolSize bufferSize) hfaultless hpending hpool
      hstart
  have hphase : Phase _ before.session.transport.stream started [] :=
    .streaming 0 hstreaming hstream
  obtain ⟨running, trailer, idle, after, fed, hfollow, hended, hfed⟩ :=
    hphase.ended_of_conclusive hmoves hconclusive hreason hextra
  have hfed' : (newDecoder before).outcome fed = (newDecoder before).outcome stream := hfed
  refine ⟨running, trailer, idle, after, hfollow, ?_⟩
  rw [← hfed']
  have hemitted := hended.samples.trans (StreamDecoder.feed_follows _ fed).emitted
  exact
    { samples := hended.sink.samples
      triggers := hended.sink.triggers
      delivered := hended.sink.trailer
      count := hemitted.trans (Nat.zero_add _)
      reason := hended.reason.symm
      idle := hended.idle
      status := hended.status
      pending := hended.pending
      commands := hended.commands }

end Rehearsal

end LogicAnalyzer
