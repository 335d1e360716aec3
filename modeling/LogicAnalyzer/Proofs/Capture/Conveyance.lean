import LogicAnalyzer.Proofs.Capture.FailedStart
import LogicAnalyzer.Proofs.Capture.Feeding
import LogicAnalyzer.Proofs.Capture.Keeping
import LogicAnalyzer.Proofs.Capture.Withdrawals
import LogicAnalyzer.Proofs.Wire.Framing

/-!
# From the device to the decoder

Bytes reach the decoder in the buffers of reads, which are submitted, reported and submitted again,
are refused, fail, are cancelled or are given up on.  On the simulated device none of this loses a
byte of the stream, brings one twice, or changes their order: the buffers that were fed, followed by
what is still to be streamed, are what was queued, over any number of captures.

What is queued is told by the run: the bytes that the device had at first, and those that it is given
between the operations.

## Main definitions

* `Operation.Queues`: the bytes that an operation gives the device to stream
* `Controller.Conveys`: a run, with the bytes that were queued and the buffers that were fed
* `Controller.Conveyed`: what holds after it

## Main results

* `Controller.stream_poll`: what a poll takes off the stream is what it feeds
* `Controller.stream_perform`: the stream over one operation
* `Controller.Conveys.stream`, `stream_close`: the stream over a run, and when it is closed
* `Controller.conveyed_of_conveys`: nothing is lost between the device and the decoder
-/

namespace LogicAnalyzer

/-! ## What is queued -/

/-- **The bytes that an operation gives the device** to stream. -/
def Operation.Queues (d : SimulatedDevice) (bytes : List UInt8) :
    Operation SimulatedDevice → Prop
  | .adjust change => (change d).stream = d.stream ++ bytes
  | _ => bytes = []

namespace Operation

variable {d : SimulatedDevice} {bytes : List UInt8}

theorem Queues.eq_nil {op : Operation SimulatedDevice} (h : op.Queues d bytes)
    (hop : ∀ change, op ≠ .adjust change) : bytes = [] := by
  cases op with
  | adjust change => exact absurd rfl (hop change)
  | _ => exact h

end Operation

/-! ## What takes nothing -/

namespace SimulatedDevice.StreamKept

open Controller

variable {σ : Type} {c c' : Controller SimulatedDevice σ}

theorem tuned {s s' : Session SimulatedDevice} (h : s.Tuned s') (hclock : s.clockSource ≠ .none) :
    s.transport.StreamKept s'.transport := by
  obtain heq | ⟨source, -, heq⟩ := h.told hclock
  · rw [heq]
    exact .refl _
  · rw [heq]
    exact streamKept_send _ _

/-- Commands, submissions and cancellations take nothing. -/
theorem keeps (d : SimulatedDevice) : Transport.Keeps d.StreamKept where
  send d' frame h := h.trans (streamKept_send d' frame)
  submit d' slot buffer h := h.trans (undisturbed_submit d' slot buffer).toStreamKept
  cancelAll d' h := h.trans (undisturbed_cancelAll d').toStreamKept

variable [Sink σ]

/-- A start takes nothing off the stream, whether it works or not. -/
theorem start {result : Except Failure Unit} (h : c.start = some (result, c')) :
    c.session.transport.StreamKept c'.session.transport := by
  cases result with
  | error e =>
    obtain rfl | ⟨pool, frames, e', d, hprepare, hlaunch, rfl⟩ := start_error_cases h
    · exact .refl _
    · have hcancel := TransferPool.cancelRequested_of_allocate (prepare_eq_ok.mp hprepare).1
      exact (launch_keeps hcancel hlaunch).1
  | ok =>
    obtain ⟨e, d, hno, -⟩ | ⟨-, -, -, pool, commands, pool', d, hprepare, hlaunch, rfl⟩ :=
      start_cases h
    · cases hno
    · have hcancel := TransferPool.cancelRequested_of_allocate (prepare_eq_ok.mp hprepare).1
      exact (launch_keeps hcancel hlaunch).1

end SimulatedDevice.StreamKept

namespace Controller

open SimulatedDevice (StreamKept)

variable {σ : Type} {c c' c₁ : Controller SimulatedDevice σ} {a : Acquisition}
  {queued bytes : List UInt8} {buffers : List (List UInt8)} [Sink σ]

/-! ## One operation -/

/-- **What a poll takes off the stream** is what it feeds. -/
theorem stream_poll (h : c.Genuine) (hcleared : c.session.transport.Cleared) :
    c.session.transport.stream = (c.fed .poll).flatten ++ c.poll.2.session.transport.stream ∧
      c.poll.2.session.transport.Cleared := by
  cases hc : c.acquisition with
  | none =>
    rw [poll_of_idle hc, fed_of_idle hc]
    exact ⟨rfl, hcleared⟩
  | some a =>
    obtain ⟨event, read, d, c₁, hnext, -, -, hconfirmed, hslot, hhandles, heq⟩ | ⟨hnone, heq⟩ :=
      h.attached.poll_reports hc
    · have hevent : c.event? .poll = some event := congrArg Prod.fst hnext
      obtain ⟨hstream, hnothing⟩ := SimulatedDevice.stream_of_next hnext hcleared
      have hkept : d.StreamKept c.poll.2.session.transport := by
        rw [heq]
        exact (StreamKept.keeps d).finishIfDrained ((StreamKept.keeps d).handles hhandles (.refl d))
      refine ⟨?_, hkept.cleared (SimulatedDevice.cleared_of_next hnext hcleared)⟩
      rw [hkept.stream, hstream, fed_of_event hevent, feeds?_of_inFlight hc hslot]
      split
      · rw [Option.toList_some, List.flatten_singleton]
      · rename_i hnot
        have houtcome : event.outcome ≠ .received := by
          intro hreceived
          cases hstopping : a.stopping with
          | true =>
            rw [hconfirmed.mpr hstopping] at hreceived
            cases hreceived
          | false =>
            exact hnot ⟨hreceived, hstopping, (h.lifecycle.streams a hc hstopping).failed⟩
        rw [hnothing houtcome]
        rfl
    · have hevent : c.event? .poll = none := congrArg Prod.fst hnone
      have hkept := (StreamKept.keeps c.session.transport).finishIfDrained (.refl _)
      rw [heq, fed_of_none hevent]
      exact ⟨hkept.stream.symm, hkept.cleared hcleared⟩

/-- **The stream over one operation**: what it feeds is taken off in front, and what it queues is
added behind. -/
theorem stream_perform {op : Operation SimulatedDevice} {answer : Answer} (h : c.Genuine)
    (hcleared : c.session.transport.Cleared) (hgenuine : op.Genuine)
    (hqueues : op.Queues c.session.transport bytes) (hop : c.perform op = some (answer, c')) :
    c.session.transport.stream ++ bytes =
        (c.fed op).flatten ++ c'.session.transport.stream ∧
      c'.session.transport.Cleared := by
  have hquiet (hbytes : bytes = []) (hfed : c.fed op = [])
      (hkept : c.session.transport.StreamKept c'.session.transport) :
      c.session.transport.stream ++ bytes = (c.fed op).flatten ++ c'.session.transport.stream ∧
        c'.session.transport.Cleared := by
    rw [hbytes, hfed, List.append_nil, hkept.stream]
    exact ⟨rfl, hkept.cleared hcleared⟩
  by_cases hadjust : ∃ change, op = .adjust change
  · obtain ⟨change, rfl⟩ := hadjust
    cases hop
    have hreads : (change c.session.transport).pending = c.session.transport.pending :=
      hgenuine c.session.transport
    refine ⟨hqueues.symm, ?_⟩
    show ∀ read ∈ (change c.session.transport).pending, _
    rwa [hreads]
  · have hnone := hqueues.eq_nil fun change heq => hadjust ⟨change, heq⟩
    cases performs_of_perform hop with
    | tunes event tuned => exact hquiet hnone (fed_of_none event) (.tuned tuned h.clockSource_ne_none)
    | resizes poolSize bufferSize => exact hquiet hnone rfl (.refl _)
    | adjusts change => exact absurd ⟨change, rfl⟩ hadjust
    | starts hstart => exact hquiet hnone rfl (.start hstart)
    | requestsStop =>
      have hkept := (StreamKept.keeps c.session.transport).requestStop (.refl _)
      exact hquiet hnone rfl hkept
    | dispatches event => cases hgenuine
    | polls =>
      rw [hnone, List.append_nil]
      exact stream_poll h hcleared

/-! ## Closing -/

/-- If a capture is running, its end has begun. -/
def AtEnd (c : Controller SimulatedDevice σ) : Prop :=
  ∀ a, c.acquisition = some a → a.stopping = true

omit [Sink σ] in
theorem atEnd_beginStop (c : Controller SimulatedDevice σ) (reason : EndReason) :
    (c.beginStop reason).AtEnd := fun _ h => stopping_of_beginStop h

theorem AtEnd.finishIfDrained (h : c.AtEnd) : c.finishIfDrained.2.AtEnd :=
  fun a ha => h a (acquisition_of_finishIfDrained ha)

/-- A capture whose end has begun takes nothing more off the stream. -/
theorem AtEnd.poll (h : c.AtEnd) (hattached : c.Attached) :
    c.poll.2.AtEnd ∧ c.session.transport.StreamKept c.poll.2.session.transport := by
  cases hc : c.acquisition with
  | none =>
    rw [poll_of_idle hc]
    exact ⟨h, .refl _⟩
  | some a =>
    obtain ⟨event, read, d, c₁, hnext, -, -, hconfirmed, -, hhandles, heq⟩ | ⟨-, heq⟩ :=
      hattached.poll_reports hc
    · have hstopping := h a hc
      have houtcome : event.outcome ≠ .received := by
        rw [hconfirmed.mpr hstopping]
        exact ReadOutcome.noConfusion
      have htaken := (SimulatedDevice.undisturbed_next hnext houtcome).toStreamKept
      have hkept := (StreamKept.keeps c.session.transport).handles hhandles htaken
      rw [heq]
      refine ⟨?_, (StreamKept.keeps _).finishIfDrained hkept⟩
      apply AtEnd.finishIfDrained
      intro b hb
      obtain rfl := hhandles.eq_of_stopping hstopping
      cases hb
      exact hstopping
    · rw [heq]
      exact ⟨h.finishIfDrained, (StreamKept.keeps _).finishIfDrained (.refl _)⟩

theorem AtEnd.pollUntil (h : c.AtEnd) (hattached : c.Attached) (limit : Nat) :
    c.session.transport.StreamKept (pollUntil limit c).2.2.session.transport := by
  induction limit generalizing c with
  | zero => exact .refl _
  | succ limit ih =>
    obtain ⟨hpolled, hkept⟩ := h.poll hattached
    have hrest := ih hpolled hattached.poll
    rw [Controller.pollUntil]
    rcases hpoll : c.poll with ⟨progress, c₁⟩
    rw [hpoll] at hkept hrest
    cases progress with
    | running => exact hkept.trans hrest
    | idle => exact hkept
    | finished trailer => exact hkept

/-- **Closing takes nothing off the stream.** -/
theorem stream_close (hattached : c.Attached) :
    c.close.1.stream = c.session.transport.stream := by
  have hclosed (c : Controller SimulatedDevice σ) :
      c.session.transport.StreamKept c.session.close := by
    unfold Session.close
    split
    · exact .refl _
    · exact SimulatedDevice.streamKept_send _ _
  cases hacquiring : c.isAcquiring with
  | false =>
    have hsame : c.close = (c.session.close, c.sink) := by
      rw [close, hacquiring]
      rfl
    rw [hsame]
    exact (hclosed c).stream
  | true =>
    obtain ⟨a, hc⟩ := isAcquiring_iff.mp hacquiring
    have hreading : c.Reading := ⟨a, hc, hattached.inStep a hc⟩
    have hbegun := (hreading.beginStop .stopped).1.attached
    have hsame : c.close.1 = (pollUntil maxClosePolls (c.beginStop .stopped)).2.2.session.close := by
      rw [close, if_pos hacquiring]
    have hstopped := (StreamKept.keeps c.session.transport).beginStop (.refl _) .stopped
    have hpolled := (atEnd_beginStop c .stopped).pollUntil hbegun maxClosePolls
    rw [hsame]
    exact ((hstopped.trans hpolled).trans (hclosed _)).stream

/-! ## Runs -/

theorem runNext_inl {next : Controller SimulatedDevice σ} (h : runNext c = .inl next) :
    next = c.poll.2 := by
  unfold runNext at h
  split at h
  · rename_i c₁ hpoll
    cases h
    rw [hpoll]
  · cases h
  · split at h <;> cases h

theorem runNext_inr {result : Except Failure StreamTrailer} (h : runNext c = .inr (result, c')) :
    c' = c.poll.2 := by
  unfold runNext at h
  split at h
  · cases h
  · rename_i trailer c₁ hpoll
    cases h
    rw [hpoll]
  · rename_i c₁ hpoll
    split at h
    · cases h
      rw [hpoll]
    · cases h
      rw [hpoll]

/-- **A run on the simulated device**: from a device without a read on, over operations that take no
events from elsewhere, with all bytes that were queued and all buffers that were fed to a decoder. -/
inductive Conveys : List UInt8 → List (List UInt8) → Controller SimulatedDevice σ → Prop
  | new (session : Session SimulatedDevice) (sink : σ) (rest : session.AtRest)
      (noReads : session.transport.pending = []) :
      Conveys session.transport.stream [] (.new session sink)
  | perform {queued bytes : List UInt8} {buffers : List (List UInt8)}
      {c c' : Controller SimulatedDevice σ} {op : Operation SimulatedDevice} {answer : Answer} :
      Conveys queued buffers c → op.Genuine → op.Queues c.session.transport bytes →
        c.perform op = some (answer, c') → Conveys (queued ++ bytes) (buffers ++ c.fed op) c'

theorem Conveys.genuine (h : Conveys queued buffers c) : c.Genuine := by
  induction h with
  | new session sink rest noReads => exact .new session sink ⟨rest, noReads⟩
  | perform _ hgenuine _ hop ih => exact ih.perform hgenuine hop

/-- **Over a run** what was fed, followed by what is still to be streamed, is what was queued. -/
theorem Conveys.stream (h : Conveys queued buffers c) :
    buffers.flatten ++ c.session.transport.stream = queued ∧ c.session.transport.Cleared := by
  induction h with
  | new session sink rest noReads =>
    refine ⟨rfl, ?_⟩
    show ∀ read ∈ session.transport.pending, _
    rw [noReads]
    exact fun _ hread => absurd hread List.not_mem_nil
  | @perform queued bytes buffers c c' op answer h hgenuine hqueues hop ih =>
    obtain ⟨hstream, hcleared⟩ := ih
    obtain ⟨hstream', hcleared'⟩ := stream_perform h.genuine hcleared hgenuine hqueues hop
    refine ⟨?_, hcleared'⟩
    rw [List.flatten_append, List.append_assoc, ← hstream', ← List.append_assoc, hstream]

/-- A run goes on over polls. -/
theorem Conveys.poll (h : Conveys queued buffers c) :
    Conveys queued (buffers ++ c.fed .poll) c.poll.2 := by
  have hpolled := h.perform (show Operation.Genuine .poll from trivial) rfl rfl
  rwa [List.append_nil] at hpolled

/-- So it does when it is polled up to the end of the capture. -/
theorem Conveys.run {result : Except Failure StreamTrailer} (h : Conveys queued buffers c)
    (hrun : c.run = some (result, c')) : ∃ more, Conveys queued (buffers ++ more) c' := by
  have hpoll (c : Controller SimulatedDevice σ) (hc : ∃ more, Conveys queued (buffers ++ more) c) :
      ∃ more, Conveys queued (buffers ++ more) c.poll.2 := by
    obtain ⟨more, hmore⟩ := hc
    have hpolled := hmore.poll
    rw [List.append_assoc] at hpolled
    exact ⟨_, hpolled⟩
  have hstart : ∃ more, Conveys queued (buffers ++ more) c := ⟨[], by rwa [List.append_nil]⟩
  obtain ⟨last, hlast, hend⟩ :=
    exists_of_loop (motive := fun c => ∃ more, Conveys queued (buffers ++ more) c)
      (fun c next hc hnext => runNext_inl hnext ▸ hpoll c hc) hrun hstart
  exact runNext_inr hend ▸ hpoll last hlast

/-- **Nothing is lost between the device and the decoder**, and nothing but what came from the one is
fed to the other. -/
structure Conveyed (queued : List UInt8) (buffers : List (List UInt8))
    (c : Controller SimulatedDevice σ) : Prop where
  /-- What was fed, followed by what is still to be streamed, is what was queued. -/
  stream : buffers.flatten ++ c.session.transport.stream = queued
  /-- No slot has two reads with the device. -/
  nodup : (c.session.transport.pending.map PendingRead.slot).Nodup
  /-- The slots that have one are those which the capture has in flight, if one is running. -/
  inFlight : ∀ slot, slot ∈ c.session.transport.pending.map PendingRead.slot ↔
    ∃ a, c.acquisition = some a ∧ a.pool.slots[slot]? = some .inFlight
  /-- A capture starts with a new decoder. -/
  starts : c.acquisition = none → ∀ op answer c', c.perform op = some (answer, c') →
    c.fed op = [] ∧ ∀ a, c'.acquisition = some a →
      ∃ width channels limit, a.decoder = .start width channels limit
  /-- What an operation feeds makes all the difference to the decoder of a capture. -/
  feeds : ∀ a, c.acquisition = some a → ∀ op answer c', c.perform op = some (answer, c') →
    c'.Decodes (a.decoder.feedAll (c.fed op)).2
  /-- To poll up to the end of a capture is to go on with the run. -/
  run : ∀ result c', c.run = some (result, c') → ∃ more, Conveys queued (buffers ++ more) c'
  /-- Closing takes nothing off the stream. -/
  close : buffers.flatten ++ c.close.1.stream = queued

/-- **From the device to the decoder.**  Whatever operations a run on the simulated device consists
of, over any number of captures, with pools of any size and whatever faults the device was told of:
the buffers that were fed to a decoder, one after another, followed by what the device has still to
stream, are all that was ever queued.  Between any two operations the device has one read for each
slot that the running capture has in flight, and no others. -/
theorem conveyed_of_conveys (h : Conveys queued buffers c) : c.Conveyed queued buffers where
  stream := h.stream.1
  nodup := by
    cases hc : c.acquisition with
    | none =>
      rw [h.genuine.attached.idle hc]
      exact List.nodup_nil
    | some a => exact (h.genuine.attached.inStep a hc).expects.nodup
  inFlight slot := by
    cases hc : c.acquisition with
    | none => simp [h.genuine.attached.idle hc]
    | some a =>
      rw [← (h.genuine.attached.inStep a hc).expects.inFlight]
      constructor
      · intro hslot
        exact ⟨a, rfl, hslot⟩
      · rintro ⟨b, hb, hslot⟩
        rwa [Option.some.inj hb]
  starts hc op answer c' hop := by
    refine ⟨fed_of_idle hc op, ?_⟩
    intro a ha
    obtain hnone | ⟨result, -, -, hstart⟩ := idle_of_perform hc hop
    · cases hnone.symm.trans ha
    · obtain ⟨e, d, -, rfl⟩ | ⟨-, -, -, pool, commands, pool', d, -, -, rfl⟩ := start_cases hstart
      · cases hc.symm.trans ha
      · cases ha
        exact ⟨_, _, _, rfl⟩
  feeds a hc op answer c' hop := decodes_perform h.genuine.lifecycle hc hop
  run result c' hrun := h.run hrun
  close := by
    rw [stream_close h.genuine.attached]
    exact h.stream.1

/-- A frame of which the first poll feeds all but the record, with another read waiting for that. -/
theorem conveyed_of_first_poll :
    ∃ (answers : List Answer) (c : Controller SimulatedDevice (List StreamEvent)),
      (new (.new { model := .lwla1016 } .lwla1016) []).performAll
          [.openDevice, .setTransferPool 2 4, .start, .adjust fun d => d.queue [1, 128, 2, 0, 5, 0],
            .poll] = some (answers, c) ∧
        c.Conveyed [1, 128, 2, 0, 5, 0] [[1, 128, 2, 0]] := by
  have hnew : Conveys _ _ _ :=
    .new (.new { model := .lwla1016 } .lwla1016) ([] : List StreamEvent) ⟨.inl rfl, nofun⟩ rfl
  have hopened := hnew.perform (show Operation.Genuine .openDevice from trivial) rfl rfl
  have hsized := hopened.perform (show Operation.Genuine (.setTransferPool 2 4) from trivial) rfl rfl
  have hstarted := hsized.perform (show Operation.Genuine .start from trivial) rfl rfl
  have hqueued := hstarted.perform
    (show Operation.Genuine (.adjust fun d => d.queue [1, 128, 2, 0, 5, 0]) from fun _ => rfl)
    rfl rfl
  exact ⟨_, _, rfl, conveyed_of_conveys hqueued.poll⟩

end Controller

end LogicAnalyzer
