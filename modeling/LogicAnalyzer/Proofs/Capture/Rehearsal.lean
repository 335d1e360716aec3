import LogicAnalyzer.Proofs.Capture.Deliveries
import LogicAnalyzer.Proofs.Capture.Lifecycle
import LogicAnalyzer.Proofs.Capture.Outcomes
import LogicAnalyzer.Proofs.Device.Reads

/-!
# Captures on a faultless device

A capture on a simulated device without faults is at every moment determined by the bytes that
it was fed.  It streams as long as they give no reason to end, then waits for the cancelled
reads, and is over.  Every poll feeds some more of the stream, or takes a cancelled read back, or
finds the device silent.

How many bytes a poll feeds depends on the buffers, and so does how many bytes a capture has
been fed when it first finds a reason in them.

## Main definitions

* `Rehearsal`: what is fixed when such a capture starts
* `Rehearsal.Streaming`, `Rehearsal.Draining`, `Rehearsal.Ended`: the capture after it was fed
  some bytes
* `Rehearsal.Phase`: one of them, after some of the queued bytes

## Main results

* `Rehearsal.Phase.poll`: what one poll does
* `Rehearsal.Phase.follow`: what polls and further bytes to stream do, in any order
* `Rehearsal.Phase.idle_of_polls`: a capture whose queued bytes give a reason to end is over
  after finitely many polls
* `Rehearsal.Phase.ended_of_conclusive`: if these bytes are conclusive, it comes to what they
  amount to
-/

namespace LogicAnalyzer

/-! ## The moments of a capture -/

/-- A recording holds what a new decoder makes of some bytes. -/
structure Recording.Holds (r : Recording) (decoder : StreamDecoder) (bytes : List UInt8)
    (trailer : Option StreamTrailer) : Prop where
  samples : r.samples = (decoder.feed bytes).1.samples
  triggers : r.triggers = (decoder.feed bytes).1.triggers
  trailer : r.trailer = trailer

theorem Recording.Holds.extends {r r' : Recording} {decoder : StreamDecoder}
    {bytes chunk : List UInt8} {trailer : Option StreamTrailer}
    (h : r.Holds decoder bytes trailer)
    (hr : r.Extends r' ((decoder.feed bytes).2.feed chunk).1.samples
      ((decoder.feed bytes).2.feed chunk).1.triggers) :
    r'.Holds decoder (bytes ++ chunk) trailer where
  samples := by rw [hr.samples, h.samples, StreamDecoder.feed_append, Decoded.samples_append]
  triggers := by rw [hr.triggers, h.triggers, StreamDecoder.feed_append, Decoded.triggers_append]
  trailer := hr.trailer.trans h.trailer

/-- What is fixed when a capture on a simulated device starts. -/
structure Rehearsal where
  decoder : StreamDecoder
  /-- The commands that the device has accepted by then. -/
  commands : List Frame
  /-- How many reads are out. -/
  reads : Nat
  reads_pos : 0 < reads

namespace Rehearsal

/-- The controller of a rehearsal. -/
abbrev Rehearsing := Controller SimulatedDevice Recording

variable {s : Rehearsal} {fed queued : List UInt8} {c : Rehearsing}

/-- The capture streams, and was fed these bytes. -/
structure Streaming (s : Rehearsal) (fed : List UInt8) (c : Rehearsing) (a : Acquisition) :
    Prop where
  running : c.acquisition = some a
  streams : a.Streams c.session.status
  decoder : a.decoder = (s.decoder.feed fed).2
  reason : (s.decoder.feed fed).1.reason = none
  sink : c.sink.Holds s.decoder fed none
  device : Serves c.session.transport a.pool s.commands false
  /-- All reads are out. -/
  reads : c.session.transport.pending.length = s.reads

/-- The end of the capture has begun after it was fed these bytes. -/
structure Draining (s : Rehearsal) (fed : List UInt8) (c : Rehearsing) (a : Acquisition) :
    Prop where
  running : c.acquisition = some a
  stopping : a.stopping = true
  ending : a.ending = (s.decoder.feed fed).1.reason
  reason : (s.decoder.feed fed).1.reason ≠ none
  decoder : a.decoder = (s.decoder.feed fed).2
  sink : c.sink.Holds s.decoder fed none
  device : Serves c.session.transport a.pool s.commands true

/-- The capture is over after it was fed these bytes. -/
structure Ended (s : Rehearsal) (fed : List UInt8) (trailer : StreamTrailer) (c : Rehearsing) :
    Prop where
  idle : c.acquisition = none
  status : c.session.status = .inactive
  /-- The trailer tells the reason that the bytes give. -/
  reason : (s.decoder.feed fed).1.reason = some trailer.reason
  /-- It tells how many samples were decoded. -/
  samples : trailer.samples = (s.decoder.feed fed).2.emitted
  sink : c.sink.Holds s.decoder fed (some trailer)
  lastTrailer : c.lastTrailer = some trailer
  pending : c.session.transport.pending = []
  /-- The device was shut down, once. -/
  commands : c.session.transport.commands = s.commands ++ [Command.shutdown.frame]

/-! ## The end -/

/-- A capture that waits for no read is over. -/
theorem Draining.finishIfDrained {a : Acquisition} (h : s.Draining fed c a)
    (hpending : c.session.transport.pending = []) :
    ∃ trailer, c.finishIfDrained.1 = .finished trailer ∧
      s.Ended fed trailer c.finishIfDrained.2 ∧
      c.finishIfDrained.2.session.transport.stream = c.session.transport.stream := by
  obtain ⟨reason, hreason⟩ := Option.ne_none_iff_exists'.mp h.reason
  have hdrained : a.pool.outstanding = 0 := by
    rw [h.device.expects.outstanding, hpending]
    rfl
  have hsend : (c.session.send Command.shutdown.frame).2.transport =
      { c.session.transport with
        commands := c.session.transport.commands ++ [Command.shutdown.frame] } := by
    simp only [Session.send, Transport.send,
      SimulatedDevice.send_of_faultless h.device.faultless]
  have htrailer : (c.finish a).1 = ⟨a.decoder.emitted, reason⟩ := by
    simp only [Controller.finish, h.ending, hreason, Option.getD_some]
  rw [Controller.finishIfDrained_of_drained h.running h.stopping hdrained]
  refine ⟨(c.finish a).1, rfl, ?_, by simp only [Controller.finish, Session.finishStop, hsend]⟩
  constructor
  · rfl
  · rfl
  · rw [htrailer, hreason]
  · rw [htrailer, h.decoder]
  · exact ⟨h.sink.samples, h.sink.triggers, rfl⟩
  · rfl
  · simp only [Controller.finish, Session.finishStop, hsend, hpending]
  · simp only [Controller.finish, Session.finishStop, hsend, h.device.commands]

/-! ## One poll -/

/-- With nothing to stream, nothing happens. -/
theorem Streaming.poll_of_silence {a : Acquisition} (h : s.Streaming fed c a)
    {read : PendingRead} {rest : List PendingRead}
    (hpending : c.session.transport.pending = read :: rest)
    (hstream : c.session.transport.stream = []) : c.poll = (.running, c) := by
  have hlive : read.cancelled = false :=
    (h.device.pending read (hpending ▸ List.mem_cons_self ..)).2
  have hnext := SimulatedDevice.next_of_silence h.device.faultless hpending hlive hstream
  have hrunning : ¬c.acquisition.isNone = true := by simp [h.running]
  simp only [Controller.poll, if_neg hrunning, Transport.next, hnext]
  exact Controller.finishIfDrained_of_waiting h.running (.inl h.streams.stopping)

/-- Otherwise the oldest read takes some of the stream. -/
theorem Streaming.poll_eq {a : Acquisition} (h : s.Streaming fed c a) {read : PendingRead}
    {rest : List PendingRead} (hpending : c.session.transport.pending = read :: rest)
    (hstream : c.session.transport.stream ≠ []) {chunk : List UInt8}
    (hchunk : chunk = c.session.transport.stream.take (max read.buffer.capacity 1)) :
    ∃ (device : SimulatedDevice) (pool : TransferPool) (delivery : ReadEvent),
      c.poll =
        (Controller.receive (c.withTransport device) { a with pool } delivery).finishIfDrained ∧
      delivery.buffer.bytes = chunk ∧
      device.stream = c.session.transport.stream.drop (max read.buffer.capacity 1) ∧
      device.pending = rest ∧ Serves device pool s.commands false ∧
      pool.cancelRequested = false ∧ delivery.slot < pool.slots.length ∧
      delivery.slot ∉ rest.map PendingRead.slot := by
  obtain ⟨hempty, hlive⟩ := h.device.pending read (hpending ▸ List.mem_cons_self ..)
  have hnext := SimulatedDevice.next_of_stream h.device.faultless hpending hlive hstream
  rw [← hchunk] at hnext
  obtain ⟨pool, haccept, hdevice, hcancel, hlt, hfresh⟩ :=
    h.device.accept hpending ⟨read.slot, read.buffer.append chunk, .received⟩ rfl
      (c.session.transport.stream.drop (max read.buffer.capacity 1))
  have hrunning : ¬c.acquisition.isNone = true := by simp [h.running]
  have hstopping : ¬(a.stopping || a.failed) = true := by
    simp [h.streams.stopping, h.streams.failed]
  refine ⟨_, pool, ⟨read.slot, read.buffer.append chunk, .received⟩, ?_, ?_, rfl, rfl, hdevice,
    hcancel.trans h.streams.cancelRequested, hlt, hfresh⟩
  · simp only [Controller.poll, if_neg hrunning, Transport.next, hnext]
    simp only [Controller.dispatch, Controller.withTransport, h.running, haccept]
    simp only [reduceCtorEq, if_false]
    rw [if_neg hstopping]
  · rw [Buffer.bytes_append, hempty, List.nil_append]

/-- **One poll of a streaming capture** feeds it some of the stream.  If that gives no reason to
end, the capture streams on; else it is over once the reads that are still out are back. -/
theorem Streaming.poll {a : Acquisition} (h : s.Streaming fed c a) {read : PendingRead}
    {rest : List PendingRead} (hpending : c.session.transport.pending = read :: rest)
    (hstream : c.session.transport.stream ≠ []) {chunk : List UInt8}
    (hchunk : chunk = c.session.transport.stream.take (max read.buffer.capacity 1)) :
    ∃ c₁ : Rehearsing, c.poll = c₁.finishIfDrained ∧
      c₁.session.transport.stream =
        c.session.transport.stream.drop (max read.buffer.capacity 1) ∧
      ((∃ a₁, s.Streaming (fed ++ chunk) c₁ a₁) ∨
        c₁.session.transport.pending.length = rest.length ∧
          ∃ a₁, s.Draining (fed ++ chunk) c₁ a₁) := by
  obtain ⟨device, pool, delivery, hpoll, rfl, hdrop, hrest, hdevice, hcancel, hlt, hfresh⟩ :=
    h.poll_eq hpending hstream hchunk
  have hall := StreamDecoder.feed_append s.decoder fed delivery.buffer.bytes
  rw [← h.decoder] at hall
  have hreason : (s.decoder.feed (fed ++ delivery.buffer.bytes)).1.reason =
      (a.decoder.feed delivery.buffer.bytes).1.reason := by
    rw [hall]
    exact Decoded.reason_append h.reason _
  have hsink : Recording.Holds (Sink.takeAll c.sink (a.delivers delivery.buffer.bytes))
      s.decoder (fed ++ delivery.buffer.bytes) none := by
    rw [Acquisition.delivers, h.decoder]
    exact h.sink.extends (Recording.extends_takeAll_deliveries ..)
  have hstreams : Acquisition.Streams { a with pool } (c.withTransport device).session.status :=
    ⟨h.streams.stopping, h.streams.status, hcancel, h.streams.ending, h.streams.failed⟩
  rw [← hrest] at hfresh
  cases hend : (a.decoder.feed delivery.buffer.bytes).1.reason with
  | none =>
    obtain ⟨pool₁, device₁, hresubmit, hdevice₁, hcancel₁, hstream₁, hpending₁⟩ :=
      hdevice.resubmit hcancel hfresh hlt delivery.buffer
    have hreceive := Controller.receive_of_resubmit (c := c.withTransport device)
      (a := { a with pool }) hend hresubmit
    refine ⟨_, hpoll.trans (congrArg Controller.finishIfDrained hreceive), hstream₁.trans hdrop,
      .inl ⟨{ a with
        pool := pool₁
        decoder := (a.decoder.feed delivery.buffer.bytes).2 }, ?_⟩⟩
    constructor
    · rfl
    · exact ⟨h.streams.stopping, h.streams.status, hcancel₁, h.streams.ending, h.streams.failed⟩
    · rw [hall]
    · rw [hreason, hend]
    · exact hsink
    · exact hdevice₁
    · change device₁.pending.length = s.reads
      rw [hpending₁, hrest, List.length_append, List.length_singleton, ← h.reads, hpending,
        List.length_cons]
  | some reason =>
    obtain ⟨parked, b, hreceive, hb, hsession, hsink₁, hpool₁, hdecoder₁, hb', -⟩ :=
      Controller.receive_of_reason (c := c.withTransport device) (a := { a with pool })
        hstreams.stopping hstreams.failed hend
    have htransport : parked.session.transport = device := by rw [hsession]; rfl
    have hserves : Serves parked.session.transport b.pool s.commands false := by
      rw [htransport, hpool₁]
      exact hdevice.park hfresh delivery.buffer
    have hcancel₁ : b.pool.cancelRequested = false := by
      rw [hpool₁]
      exact hcancel
    obtain ⟨hdevice₁, hstream₁, hlength₁⟩ := hserves.cancelAll hcancel₁
    rw [hreceive, Controller.beginStop_of_streams hb hb'] at hpoll
    refine ⟨_, hpoll, ?_, .inr ⟨?_, { b with
      pool := (b.pool.cancelAll parked.session.transport).1
      stopping := true
      ending := some reason }, ?_⟩⟩
    · rw [Session.transport_beginStop, hstream₁, htransport, hdrop]
    · rw [Session.transport_beginStop, hlength₁, htransport, hrest]
    · constructor
      · rfl
      · rfl
      · rw [hreason, hend]
      · simp [hreason, hend]
      · rw [hall, hdecoder₁]
      · rw [hsink₁]
        exact hsink
      · rw [Session.transport_beginStop]
        exact hdevice₁

/-- **One poll of a capture that is waiting** takes one cancelled read back. -/
theorem Draining.poll {a : Acquisition} (h : s.Draining fed c a) {read : PendingRead}
    {rest : List PendingRead} (hpending : c.session.transport.pending = read :: rest) :
    ∃ c₁ : Rehearsing, c.poll = c₁.finishIfDrained ∧
      c₁.session.transport.stream = c.session.transport.stream ∧
      c₁.session.transport.pending = rest ∧ ∃ a₁, s.Draining fed c₁ a₁ := by
  have hcancelled := (h.device.pending read (hpending ▸ List.mem_cons_self ..)).2
  have hnext := SimulatedDevice.next_of_cancelled h.device.faultless hpending hcancelled
  obtain ⟨pool, haccept, hdevice, -, -, hfresh⟩ :=
    h.device.accept hpending ⟨read.slot, read.buffer, .cancelled⟩ rfl c.session.transport.stream
  have hrunning : ¬c.acquisition.isNone = true := by simp [h.running]
  refine ⟨{ c with
      session := { c.session with transport := { c.session.transport with
        pending := rest
        completions := c.session.transport.completions + 1 } }
      acquisition := some { a with pool := pool.park read.slot read.buffer } },
    ?_, rfl, rfl, { a with pool := pool.park read.slot read.buffer }, ?_⟩
  · simp only [Controller.poll, if_neg hrunning, Transport.next, hnext]
    simp only [Controller.dispatch, Controller.withTransport, h.running, haccept]
    simp only [reduceCtorEq, if_false, Acquisition.park]
  · exact ⟨rfl, h.stopping, h.ending, h.reason, h.decoder, h.sink, hdevice.park hfresh read.buffer⟩

/-! ## Phases -/

/-- **The phase of a capture** that was queued these bytes, of which it was fed some, and that
answered the polls so far with these answers. -/
inductive Phase (s : Rehearsal) (queued : List UInt8) (c : Rehearsing) : List Progress → Prop where
  | streaming {fed : List UInt8} {a : Acquisition} (n : Nat) (h : s.Streaming fed c a)
      (hfed : fed ++ c.session.transport.stream = queued) :
      Phase s queued c (List.replicate n .running)
  | draining {fed : List UInt8} {a : Acquisition} (n : Nat) (h : s.Draining fed c a)
      (hfed : fed ++ c.session.transport.stream = queued)
      (hwaiting : c.session.transport.pending ≠ [])
      (hreads : c.session.transport.pending.length ≤ s.reads) :
      Phase s queued c (List.replicate n .running)
  | ended {fed : List UInt8} {trailer : StreamTrailer} (n k : Nat) (h : s.Ended fed trailer c)
      (hfed : fed ++ c.session.transport.stream = queued) :
      Phase s queued c
        (List.replicate n .running ++ .finished trailer :: List.replicate k .idle)

/-- The end has begun: either it is complete now, or it waits for a read. -/
theorem Draining.phase {a : Acquisition} (h : s.Draining fed c a)
    (hfed : fed ++ c.session.transport.stream = queued)
    (hreads : c.session.transport.pending.length ≤ s.reads) (n : Nat) :
    s.Phase queued c.finishIfDrained.2 (List.replicate n .running ++ [c.finishIfDrained.1]) ∧
      (c.finishIfDrained.2.acquisition = none ∨ c.finishIfDrained.2 = c) := by
  by_cases hpending : c.session.transport.pending = []
  · obtain ⟨trailer, hanswer, hended, hstream⟩ := h.finishIfDrained hpending
    rw [hanswer]
    exact ⟨.ended n 0 hended (hstream.symm ▸ hfed), .inl hended.idle⟩
  · have hwaiting : 0 < a.pool.outstanding := by
      rw [h.device.expects.outstanding]
      exact List.length_pos_iff.mpr hpending
    rw [Controller.finishIfDrained_of_waiting h.running (.inr hwaiting), ← List.replicate_succ']
    exact ⟨.draining (n + 1) h hfed hpending hreads, .inr rfl⟩

/-- **What one poll does.**  If the queued bytes give a reason to end, it also brings the end
closer. -/
theorem Phase.poll {answers : List Progress} (h : s.Phase queued c answers) :
    s.Phase queued c.poll.2 (answers ++ [c.poll.1]) ∧
      (c.acquisition ≠ none → (s.decoder.feed queued).1.reason ≠ none →
        c.poll.2.acquisition = none ∨
          c.poll.2.session.transport.backlog < c.session.transport.backlog) := by
  cases h with
  | @streaming fed a n h hfed =>
    have hne : c.session.transport.pending ≠ [] := by
      rw [← List.length_pos_iff, h.reads]
      exact s.reads_pos
    obtain ⟨read, rest, hpending⟩ := List.exists_cons_of_ne_nil hne
    by_cases hstream : c.session.transport.stream = []
    · rw [h.poll_of_silence hpending hstream, ← List.replicate_succ']
      refine ⟨.streaming (n + 1) h hfed, fun _ hreason => absurd ?_ hreason⟩
      rw [← hfed, hstream, List.append_nil]
      exact h.reason
    · have hshorter : (c.session.transport.stream.drop (max read.buffer.capacity 1)).length <
          c.session.transport.stream.length := by
        have hpos := List.length_pos_iff.mpr hstream
        rw [List.length_drop]
        omega
      have hreads := h.reads
      obtain ⟨c₁, hpoll, hstream₁, hnext⟩ := h.poll hpending hstream rfl
      rw [hpoll]
      have hfed₁ : fed ++ c.session.transport.stream.take (max read.buffer.capacity 1) ++
          c₁.session.transport.stream = queued := by
        rw [hstream₁, List.append_assoc, List.take_append_drop, hfed]
      rcases hnext with ⟨a₁, h₁⟩ | ⟨hlength, a₁, h₁⟩
      · rw [Controller.finishIfDrained_of_waiting h₁.running (.inl h₁.streams.stopping),
          ← List.replicate_succ']
        refine ⟨.streaming (n + 1) h₁ hfed₁, fun _ _ => .inr ?_⟩
        simp only [SimulatedDevice.backlog, h₁.reads, hreads, hstream₁]
        omega
      · rw [hpending, List.length_cons] at hreads
        obtain ⟨hphase, hclose⟩ := h₁.phase hfed₁ (by omega) n
        refine ⟨hphase, ?_⟩
        intro _ _
        apply hclose.imp_right
        intro heq
        simp only [heq, SimulatedDevice.backlog, hlength, hstream₁, hpending, List.length_cons]
        omega
  | @draining fed a n h hfed hwaiting hreads =>
    obtain ⟨read, rest, hpending⟩ := List.exists_cons_of_ne_nil hwaiting
    obtain ⟨c₁, hpoll, hstream₁, hpending₁, a₁, h₁⟩ := h.poll hpending
    rw [hpending, List.length_cons] at hreads
    rw [← hstream₁] at hfed
    obtain ⟨hphase, hclose⟩ := h₁.phase hfed (by rw [hpending₁]; omega) n
    rw [hpoll]
    refine ⟨hphase, ?_⟩
    intro _ _
    apply hclose.imp_right
    intro heq
    simp only [heq, SimulatedDevice.backlog, hpending₁, hstream₁, hpending, List.length_cons]
    omega
  | @ended fed trailer n k h hfed =>
    have hpoll : c.poll = (.idle, c) := by
      rw [Controller.poll, if_pos (by simp [h.idle])]
    rw [hpoll, List.append_assoc, List.cons_append, ← List.replicate_succ']
    exact ⟨.ended n (k + 1) h hfed, fun hrunning => absurd h.idle hrunning⟩

/-! ## Queueing and polling in any order -/

/-- What drives a rehearsal. -/
inductive Move where
  | queue (bytes : List UInt8)
  | poll

/-- What some moves give the device to stream. -/
def Move.bytes : List Move → List UInt8
  | [] => []
  | .queue bytes :: rest => bytes ++ Move.bytes rest
  | .poll :: rest => Move.bytes rest

/-- What one move after another does, with the answers of the polls. -/
def follow (c : Rehearsing) : List Move → List Progress × Rehearsing
  | [] => ([], c)
  | .queue bytes :: rest => follow (c.withTransport (c.session.transport.queue bytes)) rest
  | .poll :: rest => (c.poll.1 :: (follow c.poll.2 rest).1, (follow c.poll.2 rest).2)

theorem follow_append (c : Rehearsing) (moves more : List Move) :
    follow c (moves ++ more) =
      ((follow c moves).1 ++ (follow (follow c moves).2 more).1,
        (follow (follow c moves).2 more).2) := by
  induction moves generalizing c with
  | nil => rfl
  | cons move rest ih =>
    cases move with
    | queue bytes => exact ih _
    | poll => simp only [List.cons_append, follow, ih]

/-- More to stream is more of the queued bytes. -/
theorem Phase.queue {answers : List Progress} (h : s.Phase queued c answers) (bytes : List UInt8) :
    s.Phase (queued ++ bytes) (c.withTransport (c.session.transport.queue bytes)) answers := by
  have hqueued {fed : List UInt8} (hfed : fed ++ c.session.transport.stream = queued) :
      fed ++ (c.session.transport.stream ++ bytes) = queued ++ bytes := by
    rw [← List.append_assoc, hfed]
  have hserves {pool : TransferPool} {cancelled : Bool}
      (h : Serves c.session.transport pool s.commands cancelled) :
      Serves (c.session.transport.queue bytes) pool s.commands cancelled :=
    ⟨⟨h.faultless.1, h.faultless.2, h.faultless.3, h.faultless.4⟩, h.expects, h.pending,
      h.commands⟩
  cases h with
  | streaming n h hfed =>
    exact .streaming n ⟨h.running, h.streams, h.decoder, h.reason, h.sink, hserves h.device,
      h.reads⟩ (hqueued hfed)
  | draining n h hfed hwaiting hreads =>
    exact .draining n ⟨h.running, h.stopping, h.ending, h.reason, h.decoder, h.sink,
      hserves h.device⟩ (hqueued hfed) hwaiting hreads
  | ended n k h hfed =>
    exact .ended n k ⟨h.idle, h.status, h.reason, h.samples, h.sink, h.lastTrailer, h.pending,
      h.commands⟩ (hqueued hfed)

/-- **Whatever the moves**, the capture is in a phase after them. -/
theorem Phase.follow {answers : List Progress} (h : s.Phase queued c answers)
    (moves : List Move) :
    s.Phase (queued ++ Move.bytes moves) (Rehearsal.follow c moves).2
      (answers ++ (Rehearsal.follow c moves).1) := by
  induction moves generalizing c queued answers with
  | nil => simpa [Rehearsal.follow, Move.bytes] using h
  | cons move rest ih =>
    cases move with
    | queue bytes =>
      have hrest := ih (h.queue bytes)
      rwa [List.append_assoc] at hrest
    | poll =>
      have hrest := ih h.poll.1
      rwa [List.append_assoc] at hrest

theorem Move.bytes_replicate_poll (n : Nat) : Move.bytes (List.replicate n .poll) = [] := by
  induction n with
  | zero => rfl
  | succ n ih => exact ih

/-- There is no more to do than to stream what was queued and to take all reads back. -/
theorem Phase.backlog_le {answers : List Progress} (h : s.Phase queued c answers) :
    c.acquisition = none ∨ c.session.transport.backlog ≤ queued.length + s.reads := by
  cases h with
  | streaming n h hfed =>
    rw [← hfed, SimulatedDevice.backlog, h.reads, List.length_append]
    omega
  | draining n h hfed hwaiting hreads =>
    rw [← hfed, SimulatedDevice.backlog, List.length_append]
    omega
  | ended n k h hfed => exact .inl h.idle

/-- A capture that is over was fed some of the queued bytes. -/
theorem Phase.ended_of_idle {answers : List Progress} (h : s.Phase queued c answers)
    (hidle : c.acquisition = none) :
    ∃ fed trailer n k, s.Ended fed trailer c ∧ fed <+: queued ∧
      answers = List.replicate n .running ++ .finished trailer :: List.replicate k .idle := by
  cases h with
  | streaming n h hfed => exact absurd (h.running.symm.trans hidle) (by simp)
  | draining n h hfed hwaiting hreads => exact absurd (h.running.symm.trans hidle) (by simp)
  | ended n k h hfed => exact ⟨_, _, n, k, h, ⟨_, hfed⟩, rfl⟩

/-- A capture whose queued bytes give a reason to end is over after as many polls as there are
bytes to stream and reads to take back. -/
theorem Phase.idle_of_polls {answers : List Progress} (h : s.Phase queued c answers)
    (hreason : (s.decoder.feed queued).1.reason ≠ none) {n : Nat}
    (hn : c.acquisition = none ∨ c.session.transport.backlog ≤ n) :
    (Rehearsal.follow c (List.replicate n .poll)).2.acquisition = none := by
  -- on the number of polls: each brings the end closer
  induction n generalizing c answers with
  | zero =>
    rcases hn with hidle | hbacklog
    · exact hidle
    · have hnone : c.session.transport.pending.length = 0 := by
        rw [SimulatedDevice.backlog] at hbacklog
        omega
      cases h with
      | streaming n h hfed =>
        have hpos := s.reads_pos
        rw [← h.reads] at hpos
        omega
      | draining n h hfed hwaiting hreads =>
        exact absurd (List.eq_nil_of_length_eq_zero hnone) hwaiting
      | ended n k h hfed => exact h.idle
  | succ n ih =>
    obtain ⟨hphase, hcloser⟩ := h.poll
    apply ih hphase
    by_cases hidle : c.acquisition = none
    · rw [Controller.poll, if_pos (by simp [hidle])]
      exact .inl hidle
    · have hbacklog := hn.resolve_left hidle
      exact (hcloser hidle hreason).imp_right fun hlt => by omega

/-- **A capture whose queued bytes are conclusive** and give a reason to end comes to what they
amount to, if it is polled often enough once they are queued. -/
theorem Phase.ended_of_conclusive (h : s.Phase queued c []) {moves : List Move}
    {stream : List UInt8} (hmoves : queued ++ Move.bytes moves = stream)
    (hconclusive : s.decoder.Conclusive stream)
    (hreason : (s.decoder.feed stream).1.reason ≠ none) {extra : Nat}
    (hextra : stream.length + s.reads ≤ extra) :
    ∃ running trailer idle after fed,
      Rehearsal.follow c (moves ++ List.replicate extra .poll) =
        (List.replicate running .running ++ .finished trailer :: List.replicate idle .idle,
          after) ∧
      s.Ended fed trailer after ∧ s.decoder.outcome fed = s.decoder.outcome stream := by
  have hqueued := h.follow moves
  rw [hmoves, List.nil_append] at hqueued
  have hidle := hqueued.idle_of_polls hreason
    (hqueued.backlog_le.imp_right fun hle => Nat.le_trans hle hextra)
  have hpolled := hqueued.follow (List.replicate extra .poll)
  rw [Move.bytes_replicate_poll, List.append_nil] at hpolled
  obtain ⟨fed, trailer, running, idle, hended, hfed, hanswers⟩ := hpolled.ended_of_idle hidle
  refine ⟨running, trailer, idle, _, fed, ?_, hended, hconclusive fed hfed ?_⟩
  · rw [follow_append, hanswers]
  · rw [hended.reason]
    simp

end Rehearsal

end LogicAnalyzer
