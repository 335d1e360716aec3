import LogicAnalyzer.Proofs.Capture.Acceptance
import LogicAnalyzer.Proofs.Capture.Feeding
import LogicAnalyzer.Proofs.Capture.RefusedShutdown
import LogicAnalyzer.Proofs.Capture.Withdrawals
import LogicAnalyzer.Proofs.Device.Streaming
import LogicAnalyzer.Proofs.Stream.Accounting
import LogicAnalyzer.Proofs.Wire.Commands

/-!
# Device, header and decoder are told the same

What a capture is to do is copied three times when it starts: into commands for the device, into the
header for the sink, and into the decoder.  All three have it from the session, as it is then.  The
session may be changed while the capture is running; the capture goes on as it was started.

## Main definitions

* `deliveredSamples`: the samples among some deliveries
* `Honours`: deliveries that keep to the settings of a session
* `Controller.Course`: the course of a capture, up to its end
* `Controller.Silent`: a capture that delivers no more samples

## Main results

* `honours_deliversAll`: what a decoder of a session delivers keeps to the settings
* `Controller.commands_of_launch`: what the device is told
* `Controller.Course.proceeds`: what has been delivered in the course of a capture
* `Controller.close_silent`: closing delivers no more samples
* `Controller.settings_shared`: device, header and decoder are told the same
-/

namespace LogicAnalyzer

variable {channels : ChannelSet} {n m : Nat} {events more : List StreamEvent}

/-! ## Samples among deliveries -/

/-- **The samples among some deliveries**, in order. -/
def deliveredSamples (events : List StreamEvent) : List UInt64 :=
  events.flatMap fun
    | .samples batch => batch.samples
    | _ => []

@[simp]
theorem deliveredSamples_append :
    deliveredSamples (events ++ more) = deliveredSamples events ++ deliveredSamples more :=
  List.flatMap_append

/-- **Cutting at triggers** loses no sample. -/
theorem deliveredSamples_deliveries (channels : ChannelSet) (firstIndex : Nat)
    (samples : List UInt64) (triggers : List Nat) :
    deliveredSamples (deliveries channels firstIndex samples triggers) = samples := by
  induction triggers generalizing firstIndex samples with
  | nil =>
    rcases samples with _ | ⟨sample, rest⟩
    · rfl
    · exact List.append_nil _
  | cons trigger rest ih =>
    rw [deliveries]
    generalize min (trigger - firstIndex) samples.length = cut
    have hbatch : deliveredSamples
        (if cut = 0 then [] else [.samples ⟨firstIndex, channels, samples.take cut⟩]) =
          samples.take cut := by
      split
      · rename_i hzero
        rw [hzero, List.take_zero]
        rfl
      · exact List.append_nil _
    have hbehind : deliveredSamples (.trigger trigger ::
        deliveries channels (firstIndex + cut) (samples.drop cut) rest) = samples.drop cut :=
      ih (firstIndex + cut) (samples.drop cut)
    rw [deliveredSamples_append, hbatch, hbehind, List.take_append_drop]

namespace Continues

/-- Deliveries that join have as many samples as they say, -/
theorem length (h : Continues channels n events m) : m = n + (deliveredSamples events).length := by
  induction h with
  | nil n => rfl
  | @samples n m samples events _ _ _ ih =>
    have hcons : deliveredSamples (.samples ⟨n, channels, samples⟩ :: events) =
        samples ++ deliveredSamples events := rfl
    rw [hcons, List.length_append, ih, Nat.add_assoc]
  | trigger _ ih => exact ih

/-- and levels of the recorded channels only. -/
theorem masked (h : Continues channels n events m) :
    ∀ sample ∈ deliveredSamples events, sample &&& channels.bits = sample := by
  induction h with
  | nil n => exact nofun
  | samples _ hmasked _ ih =>
    intro sample hmem
    rcases List.mem_append.mp hmem with hfirst | hrest
    · exact hmasked sample hfirst
    · exact ih sample hrest
  | trigger _ ih => exact ih

end Continues

namespace Acquisition

variable {a : Acquisition}

theorem deliveredSamples_deliversAll (a : Acquisition) (chunks : List (List UInt8)) :
    deliveredSamples (a.deliversAll chunks) =
      Decoded.allSamples (a.decoder.feedAll chunks).1 := by
  induction chunks generalizing a with
  | nil => rfl
  | cons chunk rest ih =>
    rw [deliversAll, deliveredSamples_append, delivers, deliveredSamples_deliveries, ih,
      StreamDecoder.feedAll_cons, Decoded.allSamples_cons]

/-- **What chunks deliver** joins what was delivered before. -/
theorem continues_deliversAll (h : a.decoder.channels = a.channels)
    (chunks : List (List UInt8)) :
    Continues a.channels a.decoder.emitted (a.deliversAll chunks)
      (a.decoder.feedAll chunks).2.emitted := by
  induction chunks generalizing a with
  | nil => exact .nil _
  | cons chunk rest ih =>
    have hfollows := StreamDecoder.feed_follows a.decoder chunk
    have hrest := ih (a := { a with decoder := (a.decoder.feed chunk).2 })
      (hfollows.channels.trans h)
    exact (continues_delivers h chunk).append hrest

end Acquisition

/-! ## The settings of a session -/

variable {τ σ : Type}

/-- **Deliveries that keep to the settings of a session**, of a capture that was fed these buffers:
batches of samples that join, labelled with the recorded channels. -/
structure Honours (s : Session τ) (fed : List (List UInt8)) (events : List StreamEvent) : Prop where
  joined : Continues s.masks.channels 0 events (deliveredSamples events).length
  /-- The samples are the records of the frames that were fed.  They are as wide as the model has
  them; no record takes less than a byte, not even of a model without channels. -/
  records : ∃ (frames : List Response) (rest : List UInt8),
    (∀ r ∈ frames, r.Whole (max s.model.recordWidth 1)) ∧
    fed.flatten = (frames.flatMap fun r => r.frame.toBytes) ++ rest ∧
    deliveredSamples events =
      (within s.sampleLimit (frames.flatMap (Response.records (max s.model.recordWidth 1)))).map
        fun record => Record.unpack record &&& s.masks.channels.bits
  masked : ∀ sample ∈ deliveredSamples events, sample &&& s.masks.channels.bits = sample
  limited : s.sampleLimit ≠ 0 → (deliveredSamples events).length ≤ s.sampleLimit.toNat

/-- What is wanted under a limit is within it. -/
theorem length_within_le {α : Type} {limit : UInt64} (h : limit ≠ 0) (entries : List α) :
    (within limit entries).length ≤ limit.toNat := by
  rw [within, if_neg h, List.length_take]
  exact Nat.min_le_left ..

/-- **The samples of some chunks** are the records of their frames, as far as they are wanted. -/
theorem StreamDecoder.exists_frames_feedAll (width : Nat) (channels : ChannelSet) (limit : UInt64)
    (chunks : List (List UInt8)) :
    ∃ (frames : List Response) (rest : List UInt8), (∀ r ∈ frames, r.Whole (max width 1)) ∧
      chunks.flatten = (frames.flatMap fun r => r.frame.toBytes) ++ rest ∧
      Decoded.allSamples ((start width channels limit).feedAll chunks).1 =
        (within limit (frames.flatMap (Response.records (max width 1)))).map fun record =>
          Record.unpack record &&& channels.bits := by
  obtain ⟨hadds, -⟩ := feedAll_start width channels limit chunks
  obtain ⟨frames, hwhole, hbytes, hsamples⟩ :=
    exists_frames_decodeFrames (start width channels limit) chunks.flatten
  exact ⟨frames, _, hwhole, hbytes, hadds.samples.trans hsamples⟩

/-- **What a decoder delivers** that was set up from the session keeps to its settings. -/
theorem honours_deliversAll {s : Session τ} {a : Acquisition}
    (hdecoder : a.decoder = .start s.model.recordWidth s.masks.channels s.sampleLimit)
    (hchannels : a.channels = s.masks.channels) (fed : List (List UInt8)) :
    Honours s fed (a.deliversAll fed) := by
  have hjoined := Acquisition.continues_deliversAll
    ((congrArg StreamDecoder.channels hdecoder).trans hchannels.symm) fed
  obtain ⟨frames, rest, hwhole, hbytes, hsamples⟩ := StreamDecoder.exists_frames_feedAll
    s.model.recordWidth s.masks.channels s.sampleLimit fed
  have hcount : a.decoder.emitted = 0 := by rw [hdecoder]; rfl
  have hlength := hjoined.length
  rw [hcount, Nat.zero_add] at hlength
  rw [hlength, hcount, hchannels] at hjoined
  rw [← hdecoder, ← a.deliveredSamples_deliversAll fed] at hsamples
  refine ⟨hjoined, ⟨frames, rest, hwhole, hbytes, hsamples⟩, hjoined.masked, ?_⟩
  intro hlimit
  rw [hsamples, List.length_map]
  exact length_within_le hlimit _

/-! ## The start -/

namespace Controller

/-- **What the device is told** when a capture starts. -/
theorem commands_of_launch {d d' : SimulatedDevice} {pool pool' : TransferPool}
    {commands : List Frame} (h : launch d pool commands = some (.ok pool', d')) :
    d'.commands = d.commands ++ commands := by
  obtain ⟨sent, count, hsend, hsubmit⟩ := exists_of_launch_ok h
  have hsubmitted := TransferPool.undisturbed_submitAll hsubmit
  rw [hsubmitted.commands, sendEach_of_ok hsend]

section

variable [Transport τ] [Sink σ] {c c' started : Controller τ σ} {a : Acquisition}
  {fed : List (List UInt8)}

/-! ## The course of a capture -/

/-- **The course of a capture** that was started: operations of any kind, as long as it is running.
The last of them may have ended it.  In its course these buffers were fed to its decoder. -/
inductive Course (started : Controller τ σ) : List (List UInt8) → Controller τ σ → Prop where
  | begun : Course started [] started
  | perform {fed : List (List UInt8)} {c c' : Controller τ σ} {op : Operation τ} {answer : Answer}
      (course : Course started fed c) (running : c.isAcquiring = true)
      (hop : c.perform op = some (answer, c')) : Course started (fed ++ c.fed op) c'

/-- **What has been delivered in the course of a capture** is what its buffers decode to. -/
theorem Course.proceeds (h : Course started fed c) (hlife : started.Lifecycle)
    (ha : started.acquisition = some a) : c.Proceeds started.sink a fed ∧ c.Lifecycle := by
  -- the lifecycle is carried along, because what one operation does is known under it only
  induction h with
  | begun => exact ⟨.refl ha, hlife⟩
  | perform _ running hop ih =>
    obtain ⟨hproceeds, hlife'⟩ := ih
    obtain ⟨b, hb⟩ := isAcquiring_iff.mp running
    exact ⟨hproceeds.trans hb (proceeds_perform hlife' hb hop), perform_lifecycle hlife' hop⟩

/-- Whatever is done in the meantime, it keeps to the settings that the capture was started with. -/
theorem Course.honours {s : Session τ} (h : Course started fed c) (hlife : started.Lifecycle)
    (ha : started.acquisition = some a)
    (hdecoder : a.decoder = .start s.model.recordWidth s.masks.channels s.sampleLimit)
    (hchannels : a.channels = s.masks.channels) :
    ∃ events, Honours s fed events ∧
      (c.isAcquiring = true ∧ c.sink = Sink.takeAll started.sink events ∨
        ∃ trailer : StreamTrailer, c.isAcquiring = false ∧
          trailer.samples = (deliveredSamples events).length ∧
          c.sink = Sink.takeAll started.sink (events ++ [.trailer trailer])) := by
  have hhonours := honours_deliversAll hdecoder hchannels fed
  have hlength := (Acquisition.continues_deliversAll
    ((congrArg StreamDecoder.channels hdecoder).trans hchannels.symm) fed).length
  refine ⟨_, hhonours, ?_⟩
  rcases (h.proceeds hlife ha).1 with ⟨hacquisition, -, -, hsink⟩ | ⟨hnone, -, hsamples, hsink⟩
  · exact .inl ⟨isAcquiring_iff.mpr ⟨_, hacquisition⟩, hsink⟩
  · refine .inr ⟨_, isAcquiring_eq_false.mpr hnone, ?_, hsink⟩
    rw [hsamples, hlength, hdecoder]
    exact Nat.zero_add _

/-! ## The end -/

/-- **No more samples**: the end of the capture has begun, and since the sink was as it is given no
samples were delivered. -/
structure Silent (taken : σ) (c : Controller τ σ) : Prop where
  stopping : ∀ a, c.acquisition = some a → a.stopping = true
  given : ∃ ending, c.sink = Sink.takeAll taken ending ∧ deliveredSamples ending = []

namespace Silent

variable {taken : σ}

theorem finishIfDrained (h : c.Silent taken) : c.finishIfDrained.2.Silent taken := by
  refine ⟨fun a ha => h.stopping a (acquisition_of_finishIfDrained ha), ?_⟩
  obtain ⟨ending, hsink, hnone⟩ := h.given
  rcases sink_finishIfDrained c with hsame | ⟨trailer, htrailer⟩
  · exact ⟨ending, hsame.trans hsink, hnone⟩
  · refine ⟨ending ++ [.trailer trailer], ?_, ?_⟩
    · rw [htrailer, Sink.takeAll_append, ← hsink]
      rfl
    · rw [deliveredSamples_append, hnone]
      rfl

theorem poll (h : c.Silent taken) : c.poll.2.Silent taken := by
  rcases hc : c.acquisition with _ | a
  · rwa [poll_of_idle hc]
  · have hstopping := h.stopping a hc
    obtain ⟨event, transport, -, heq⟩ | ⟨transport, -, heq⟩ := poll_cases hc
    · obtain ⟨pool, -, hparked⟩ :=
        dispatch_of_stopping (c := c.withTransport transport) hc hstopping event
      rw [heq, hparked]
      apply finishIfDrained
      refine ⟨?_, h.given⟩
      rintro b hb
      obtain rfl := Option.some.inj hb
      exact hstopping
    · rw [heq]
      exact finishIfDrained ⟨h.stopping, h.given⟩

end Silent

/-- **Closing** delivers no more samples. -/
theorem close_silent (c : Controller τ σ) :
    ∃ ending, c.close.2 = Sink.takeAll c.sink ending ∧ deliveredSamples ending = [] := by
  rcases hacquiring : c.isAcquiring
  · refine ⟨[], ?_, rfl⟩
    rw [Controller.close, hacquiring]
    rfl
  · have hbegun : (c.beginStop .stopped).Silent c.sink := by
      refine ⟨fun a ha => stopping_of_beginStop ha, [], ?_, rfl⟩
      obtain ⟨-, heq⟩ | ⟨a, -, -, heq⟩ := beginStop_cases c .stopped
      · rw [heq]
        rfl
      · rw [heq]
        rfl
    have hsilent := of_pollUntil (fun _ h => Silent.poll h) hbegun maxClosePolls
    rw [Controller.close, hacquiring]
    exact hsilent.given

end

variable [Sink σ] {c started : Controller SimulatedDevice σ}

/-- **A capture that starts** tells the device two commands, and the sink the header. -/
theorem told_of_start {rate : UInt64} (hstart : c.start = some (.ok (), started))
    (hrate : c.session.sampleRate = some rate) :
    started.session.transport.commands = c.session.transport.commands ++
        [(Command.configureTriggers c.session.masks).frame,
          (Command.arm rate c.session.sampleLimit).frame] ∧
      started.sink = Sink.take c.sink (.header
        ⟨c.session.model, rate, c.session.sampleLimit, c.session.masks.channels⟩) := by
  obtain ⟨e, d, hno, -⟩ | ⟨-, -, -, pool, commands, pool', d, hprepare, hlaunch, rfl⟩ :=
    start_cases hstart
  · contradiction
  · rw [hrate, Option.getD_some] at hprepare ⊢
    obtain ⟨-, configure, arm, hconfigure, harm, rfl⟩ := prepare_eq_ok.mp hprepare
    have htold := commands_of_launch hlaunch
    rw [Command.encode_eq_ok hconfigure, Command.encode_eq_ok harm] at htold
    exact ⟨htold, rfl⟩

/-- The decoder has its settings from the session, too. -/
theorem acquisition_of_start (hstart : c.start = some (.ok (), started)) :
    ∃ a, started.acquisition = some a ∧
      a.decoder = .start c.session.model.recordWidth c.session.masks.channels
        c.session.sampleLimit ∧ a.channels = c.session.masks.channels := by
  obtain ⟨e, d, hno, -⟩ | ⟨-, -, -, pool, commands, pool', d, -, -, rfl⟩ := start_cases hstart
  · contradiction
  · exact ⟨_, rfl, rfl, rfl⟩

/-- **Device, header and decoder are told the same**, whatever was done with the session and its
controller before.  When a capture starts, the device accepts two commands more, which spell the
masks, the rate and the limit of the session, and the sink gets a header with these and the model.
Whatever is done in the course of the capture, also to the session, what it delivers keeps to the
settings of that moment: the samples are records of the model's width, as many as wanted, and have
levels of the recorded channels only.  Closing delivers no samples at all. -/
theorem settings_shared (h : c.ReachableBy Session.Reached fun _ => True)
    (hstart : c.start = some (.ok (), started)) :
    ∃ rate, c.session.sampleRate = some rate ∧
      (∃ configure arm : Frame,
        started.session.transport.commands = c.session.transport.commands ++ [configure, arm] ∧
        configure.opcode = Command.configureTriggersOpcode ∧
        Command.words? configure.payload =
          some [c.session.masks.channels.bits, c.session.masks.triggers.bits,
            c.session.masks.edges.bits, c.session.masks.levels.bits] ∧
        arm.opcode = Command.armOpcode ∧
        Command.words? arm.payload = some [rate, c.session.sampleLimit]) ∧
      started.sink = Sink.take c.sink (.header
        ⟨c.session.model, rate, c.session.sampleLimit, c.session.masks.channels⟩) ∧
      ∀ fed c', started.Course fed c' →
        (∃ events, Honours c.session fed events ∧
          (c'.isAcquiring = true ∧ c'.sink = Sink.takeAll started.sink events ∨
            ∃ trailer : StreamTrailer, c'.isAcquiring = false ∧
              trailer.samples = (deliveredSamples events).length ∧
              c'.sink = Sink.takeAll started.sink (events ++ [.trailer trailer]))) ∧
        ∃ ending, c'.close.2 = Sink.takeAll c'.sink ending ∧ deliveredSamples ending = [] := by
  have hactive : c.session.status = .active := by
    obtain ⟨e, d, hno, -⟩ | ⟨-, hactive, -⟩ := start_cases hstart
    · contradiction
    · exact hactive
  obtain ⟨rate, hrate⟩ := Option.ne_none_iff_exists'.mp (h.acceptable.chosen (by simp [hactive]))
  obtain ⟨htold, hheader⟩ := told_of_start hstart hrate
  obtain ⟨a, ha, hdecoder, hchannels⟩ := acquisition_of_start hstart
  have hlife : started.Lifecycle :=
    lifecycle_start (h.reachable fun _ hreached => hreached.settled).lifecycle hstart
  refine ⟨rate, hrate, ⟨_, _, htold, rfl, ?_, rfl, ?_⟩, hheader, ?_⟩
  · exact Command.words?_eq_some.mpr (Command.payload_configureTriggers c.session.masks)
  · exact Command.words?_eq_some.mpr (Command.payload_arm rate c.session.sampleLimit)
  · intro fed c' hcourse
    exact ⟨hcourse.honours hlife ha hdecoder hchannels, close_silent c'⟩

/-- The limit and the masks are changed behind the start; what is then read is delivered as if they
had not been. -/
theorem settings_shared_of_reconfigured_capture :
    ∃ (answers : List Answer)
        (c started reconfigured c' : Controller SimulatedDevice (List StreamEvent)),
      (new (.new { model := .lwla1016 } .lwla1016) []).performAll
          [.setSampleLimit 2, .configureTriggers { channels := ⟨7⟩ }, .openDevice,
            .setTransferPool 1 8] = some (answers, c) ∧
        c.start = some (.ok (), started) ∧ started.Course [] reconfigured ∧
        reconfigured.session.sampleLimit = 0 ∧ reconfigured.session.masks.channels = ⟨1⟩ ∧
        started.Course [[1, 128, 2, 0, 255, 255]] c' ∧
        ∃ events, Honours c.session [[1, 128, 2, 0, 255, 255]] events := by
  have hnew : (new (.new { model := .lwla1016 } .lwla1016) [] :
      Controller SimulatedDevice (List StreamEvent)).ReachableBy Session.Reached fun _ => True :=
    .new _ _ (.new _ _)
  have hreached := hnew.performAll (fun _ _ => trivial)
    (show performAll _ [.setSampleLimit 2, .configureTriggers { channels := ⟨7⟩ }, .openDevice,
      .setTransferPool 1 8] = _ from rfl)
  obtain ⟨rate, hrate, -, hheader, hall⟩ := settings_shared hreached rfl
  obtain ⟨hbegun, -⟩ := (fun h => And.intro h (hall [] _ h)) .begun
  have hlimited := hbegun.perform rfl (show perform _ (.setSampleLimit 0) = _ from rfl)
  have hmasked := hlimited.perform rfl
    (show perform _ (.configureTriggers { channels := ⟨1⟩ }) = _ from rfl)
  have hqueued := hmasked.perform rfl
    (show perform _ (.adjust fun d => d.queue [1, 128, 2, 0, 255, 255]) = _ from rfl)
  have hpolled := hqueued.perform rfl (show perform _ .poll = _ from rfl)
  obtain ⟨⟨events, hhonours, -⟩, -⟩ := hall _ _ hpolled
  exact ⟨_, _, _, _, _, rfl, rfl, hqueued, rfl, rfl, hpolled, events, hhonours⟩

end Controller

end LogicAnalyzer
