import LogicAnalyzer.Device.Simulated
import LogicAnalyzer.Proofs.Capture.Runs
import LogicAnalyzer.Proofs.Stream.Triggers

/-!
# What a sink is given

A sink is given one capture after another: a header, then batches of samples with the triggers
between them, then a trailer.  The batches of a capture join without a gap, every trigger is given
where it fired, and the trailer has the number of samples.  Once the end of a capture has begun
nothing but its trailer is given.

## Main definitions

* `Continues`: batches and triggers that join
* `IsCapture`, `IsBegun`: a capture with its trailer, and one without
* `Controller.Delivered`: what the sink of a controller was given

## Main results

* `continues_deliveries`: what a chunk delivers joins
* `Controller.delivered_perform`: what one operation gives to the sink
* `Controller.takeAll_captures_of_performAll`: what a run gives to the sink
-/

namespace LogicAnalyzer

/-! ## One capture -/

/-- **Batches and triggers that join**, from the sample with number `n` up to that with number
`m`. -/
inductive Continues (channels : ChannelSet) : Nat → List StreamEvent → Nat → Prop where
  | nil (n : Nat) : Continues channels n [] n
  /-- A batch is not empty, starts where the last one ended, and has levels of the recorded channels
  only. -/
  | samples {n m : Nat} {samples : List UInt64} {events : List StreamEvent} (ne_nil : samples ≠ [])
      (masked : ∀ sample ∈ samples, sample &&& channels.bits = sample) :
      Continues channels (n + samples.length) events m →
        Continues channels n (.samples ⟨n, channels, samples⟩ :: events) m
  /-- A trigger is given where it fired. -/
  | trigger {n m : Nat} {events : List StreamEvent} :
      Continues channels n events m → Continues channels n (.trigger n :: events) m

/-- A capture with its trailer. -/
def IsCapture (events : List StreamEvent) : Prop :=
  ∃ header body trailer, events = .header header :: (body ++ [.trailer trailer]) ∧
    Continues header.channels 0 body trailer.samples

/-- A capture without its trailer. -/
def IsBegun (events : List StreamEvent) : Prop :=
  ∃ header body n, events = .header header :: body ∧ Continues header.channels 0 body n

variable {channels : ChannelSet} {n m k : Nat}

theorem Continues.append {events more : List StreamEvent} (h : Continues channels n events m)
    (h' : Continues channels m more k) : Continues channels n (events ++ more) k := by
  induction h with
  | nil n => exact h'
  | samples ne_nil masked _ ih => exact .samples ne_nil masked (ih h')
  | trigger _ ih => exact .trigger (ih h')

/-- One batch, unless it is empty. -/
theorem continues_batch {samples : List UInt64}
    (hmasked : ∀ sample ∈ samples, sample &&& channels.bits = sample) :
    Continues channels n (if samples.isEmpty then [] else [.samples ⟨n, channels, samples⟩])
      (n + samples.length) := by
  cases samples with
  | nil => exact .nil n
  | cons sample rest => exact .samples (by simp) hmasked (.nil _)

/-- **What samples and triggers deliver** joins, if the triggers are sorted and fire among the
samples. -/
theorem continues_deliveries {samples : List UInt64} {triggers : List Nat}
    (hmasked : ∀ sample ∈ samples, sample &&& channels.bits = sample)
    (hsorted : triggers.Pairwise (· ≤ ·))
    (hbounds : ∀ trigger ∈ triggers, n ≤ trigger ∧ trigger ≤ n + samples.length) :
    Continues channels n (deliveries channels n samples triggers) (n + samples.length) := by
  induction triggers generalizing n samples with
  | nil => exact continues_batch hmasked
  | cons trigger rest ih =>
    obtain ⟨hfirst, hrest⟩ := List.pairwise_cons.mp hsorted
    obtain ⟨hle, hge⟩ := hbounds trigger (List.mem_cons_self ..)
    rw [deliveries]
    generalize hcut : min (trigger - n) samples.length = cut
    have hcut' : n + cut = trigger := by omega
    have hlength : (samples.take cut).length = cut := by
      rw [List.length_take]
      omega
    have hbatch : Continues channels n
        (if cut = 0 then [] else [.samples ⟨n, channels, samples.take cut⟩]) (n + cut) := by
      have htaken : ∀ sample ∈ samples.take cut, sample &&& channels.bits = sample :=
        fun sample hmem => hmasked sample (List.mem_of_mem_take hmem)
      have hjoins := continues_batch (n := n) htaken
      rw [hlength] at hjoins
      have hempty : (samples.take cut).isEmpty = true ↔ cut = 0 := by
        rw [List.isEmpty_iff, ← List.length_eq_zero_iff, hlength]
      simpa only [hempty] using hjoins
    have hbehind : Continues channels (n + cut)
        (deliveries channels (n + cut) (samples.drop cut) rest)
        (n + cut + (samples.drop cut).length) := by
      apply ih (fun sample hmem => hmasked sample (List.mem_of_mem_drop hmem)) hrest
      intro later hlater
      have hlater' := hbounds later (List.mem_cons_of_mem _ hlater)
      have hsooner := hfirst later hlater
      rw [List.length_drop]
      omega
    have hend : n + cut + (samples.drop cut).length = n + samples.length := by
      rw [List.length_drop]
      omega
    rw [hend] at hbehind
    apply hbatch.append
    rw [hcut'] at hbehind ⊢
    exact hbehind.trigger

/-- **What a chunk delivers** joins what was delivered before. -/
theorem Acquisition.continues_delivers {a : Acquisition} (h : a.decoder.channels = a.channels)
    (chunk : List UInt8) :
    Continues a.channels a.decoder.emitted (a.delivers chunk)
      (a.decoder.feed chunk).2.emitted := by
  have hfollows := StreamDecoder.feed_follows a.decoder chunk
  obtain ⟨hmasked, hsorted, hbounds⟩ := StreamDecoder.inOrder_feed a.decoder chunk
  have hfirst : (a.decoder.feed chunk).2.emitted - (a.decoder.feed chunk).1.samples.length =
      a.decoder.emitted := by
    rw [hfollows.emitted, Nat.add_sub_cancel]
  rw [delivers, hfirst, hfollows.emitted]
  exact continues_deliveries (h ▸ hmasked) hsorted hbounds

theorem Sink.takeAll_append {σ : Type} [Sink σ] (sink : σ) (events more : List StreamEvent) :
    takeAll sink (events ++ more) = takeAll (takeAll sink events) more := List.foldl_append

/-- **What was given of a capture that is running**: its header, and then as many samples as its
decoder has handed out. -/
structure Acquisition.Given (a : Acquisition) (events : List StreamEvent) : Prop where
  channels : a.decoder.channels = a.channels
  events : ∃ header body, header.channels = a.channels ∧ events = .header header :: body ∧
    Continues a.channels 0 body a.decoder.emitted

namespace Controller

variable {τ σ : Type} [Transport τ] [Sink σ]

/-- **What the sink of a controller was given**: captures with their trailers, and then what there is
of the capture that is running. -/
def Delivered (c : Controller τ σ) (sink : σ) : Prop :=
  ∃ (captures : List (List StreamEvent)) (rest : List StreamEvent),
    (∀ capture ∈ captures, IsCapture capture) ∧
    c.sink = Sink.takeAll sink (captures.flatten ++ rest) ∧
    (c.acquisition = none → rest = []) ∧ ∀ a, c.acquisition = some a → a.Given rest

variable {c c' : Controller τ σ} {a : Acquisition} {sink : σ}

omit [Transport τ] in
/-- More of the capture that is running. -/
theorem Delivered.extend (h : c.Delivered sink) (hc : c.acquisition = some a) {b : Acquisition}
    {events : List StreamEvent} (hsink : c'.sink = Sink.takeAll c.sink events)
    (hc' : c'.acquisition = some b) (hchannels : b.channels = a.channels)
    (hdecoder : b.decoder.channels = a.decoder.channels)
    (hcontinues : a.decoder.channels = a.channels →
      Continues a.channels a.decoder.emitted events b.decoder.emitted) : c'.Delivered sink := by
  obtain ⟨captures, rest, hcaptures, hgiven, -, hrunning⟩ := h
  obtain ⟨hsame, header, body, hheader, rfl, hbody⟩ := hrunning a hc
  refine ⟨captures, .header header :: (body ++ events), hcaptures, ?_, by simp [hc'], ?_⟩
  · rw [hsink, hgiven, ← Sink.takeAll_append, List.append_assoc, List.cons_append]
  · intro b' hb'
    cases hb'.symm.trans hc'
    refine ⟨hdecoder.trans (hsame.trans hchannels.symm), header, _, hheader.trans hchannels.symm,
      rfl, ?_⟩
    rw [hchannels]
    exact hbody.append (hcontinues hsame)

omit [Transport τ] in
/-- Whatever else becomes of the capture. -/
theorem Delivered.congr (h : c.Delivered sink) (hc : c.acquisition = some a) {b : Acquisition}
    (hsink : c'.sink = c.sink) (hc' : c'.acquisition = some b) (hchannels : b.channels = a.channels)
    (hdecoder : b.decoder = a.decoder) : c'.Delivered sink := by
  have hnothing : c'.sink = Sink.takeAll c.sink [] := hsink
  refine h.extend hc hnothing hc' hchannels (congrArg _ hdecoder) ?_
  rw [hdecoder]
  exact fun _ => .nil _

theorem Delivered.beginStop (h : c.Delivered sink) (reason : EndReason) :
    (c.beginStop reason).Delivered sink := by
  obtain ⟨-, heq⟩ | ⟨a, hc, -, heq⟩ := beginStop_cases c reason
  · rwa [heq]
  · rw [heq]
    exact h.congr hc rfl rfl rfl rfl

/-- The end of a capture completes it with its trailer. -/
theorem Delivered.finishIfDrained (h : c.Delivered sink) : c.finishIfDrained.2.Delivered sink := by
  obtain ⟨-, heq⟩ | ⟨a, hc, -, -, heq⟩ := finishIfDrained_cases c
  · rwa [heq]
  · obtain ⟨captures, rest, hcaptures, hgiven, -, hrunning⟩ := h
    obtain ⟨-, header, body, hheader, rfl, hbody⟩ := hrunning a hc
    let trailer : StreamTrailer := ⟨a.decoder.emitted, a.ending.getD .stopped⟩
    rw [heq]
    refine ⟨captures ++ [.header header :: (body ++ [.trailer trailer])], [], ?_, ?_,
      fun _ => rfl, nofun⟩
    · intro capture hmem
      rcases List.mem_append.mp hmem with hmem | hmem
      · exact hcaptures capture hmem
      · rw [List.mem_singleton.mp hmem]
        exact ⟨header, body, trailer, rfl, hheader ▸ hbody⟩
    · have hall : (captures ++ [StreamEvent.header header :: (body ++ [.trailer trailer])]).flatten ++
          [] = captures.flatten ++ .header header :: body ++ [.trailer trailer] := by
        simp
      rw [hall, Sink.takeAll_append, ← hgiven]
      rfl

/-! ## Events -/

/-- **A report** delivers what its bytes decode to, before the end begins. -/
theorem Handles.delivered {event : ReadEvent} {c₁ : Controller τ σ} (h : c.Handles a event c₁)
    (hc : c.acquisition = some a) (hd : c.Delivered sink) : c₁.Delivered sink := by
  have hfollows := StreamDecoder.feed_follows a.decoder event.buffer.bytes
  have hfed {c' : Controller τ σ} {b : Acquisition}
      (hsink : c'.sink = Sink.takeAll c.sink (a.delivers event.buffer.bytes))
      (hc' : c'.acquisition = some b) (hchannels : b.channels = a.channels)
      (hdecoder : b.decoder = (a.decoder.feed event.buffer.bytes).2) : c'.Delivered sink := by
    refine hd.extend hc hsink hc' hchannels (hdecoder ▸ hfollows.channels) ?_
    intro hsame
    rw [hdecoder]
    exact a.continues_delivers hsame _
  cases h with
  | parks why => exact hd.congr hc rfl rfl rfl rfl
  | fails stopping outcome asked =>
    apply Delivered.beginStop
    exact hd.congr hc rfl rfl rfl rfl
  | concludes stopping outcome hreason =>
    apply Delivered.beginStop
    exact hfed rfl rfl rfl rfl
  | resubmits stopping outcome hresubmit => exact hfed rfl rfl rfl rfl
  | refuses stopping outcome hresubmit =>
    apply Delivered.beginStop
    exact hfed rfl rfl rfl rfl

theorem persists_delivered (sink : σ) : Persists fun c : Controller τ σ => c.Delivered sink where
  withTransport _ h := h
  handles hc hhandles h := hhandles.delivered hc h
  beginStop reason h := h.beginStop reason
  finishIfDrained h := h.finishIfDrained

/-- A start that works delivers a header, and one that fails delivers nothing. -/
theorem Delivered.start {result : Except Failure Unit} (h : c.Delivered sink)
    (hstart : c.start = some (result, c')) : c'.Delivered sink := by
  obtain ⟨e, transport, -, rfl⟩ | ⟨-, -, hidle, pool, commands, pool', transport, -, -, rfl⟩ :=
    start_cases hstart
  · exact h
  · obtain ⟨captures, rest, hcaptures, hgiven, hrest, -⟩ := h
    rw [hrest hidle, List.append_nil] at hgiven
    let header : StreamHeader := ⟨c.session.model, c.session.sampleRate.getD SampleRate.standard,
      c.session.sampleLimit, c.session.masks.channels⟩
    refine ⟨captures, [.header header], hcaptures, ?_, nofun, ?_⟩
    · rw [Sink.takeAll_append, ← hgiven]
      rfl
    · rintro a ha
      cases ha
      exact ⟨rfl, header, [], rfl, rfl, .nil 0⟩

/-! ## Operations -/

/-- **What one operation gives to the sink** keeps the order of captures. -/
theorem delivered_perform {op : Operation τ} {answer : Answer} (h : c.Delivered sink)
    (hop : c.perform op = some (answer, c')) : c'.Delivered sink := by
  have hkept := persists_delivered (τ := τ) sink
  cases performs_of_perform hop with
  | tunes event tuned => exact h
  | resizes poolSize bufferSize => exact h
  | adjusts change => exact h
  | starts hstart => exact h.start hstart
  | requestsStop => exact hkept.requestStop h
  | dispatches event => exact hkept.dispatch h event
  | polls => exact hkept.poll h

theorem Delivered.performAll {ops : List (Operation τ)} {answers : List Answer}
    (h : c.Delivered sink) (hops : c.performAll ops = some (answers, c')) : c'.Delivered sink := by
  induction ops generalizing c answers with
  | nil =>
    cases hops
    exact h
  | cons op rest ih =>
    obtain ⟨answer, c₁, answers', hop, hrest, -⟩ := performAll_cons_eq_some.mp hops
    exact ih (delivered_perform h hop) hrest

/-! ## Once the end has begun -/

/-- Looking whether the capture is over delivers nothing but the trailer. -/
theorem sink_finishIfDrained (c : Controller τ σ) :
    c.finishIfDrained.2.sink = c.sink ∨
      ∃ trailer, c.finishIfDrained.2.sink = Sink.take c.sink (.trailer trailer) := by
  obtain ⟨-, heq⟩ | ⟨a, -, -, -, heq⟩ := finishIfDrained_cases c
  · rw [heq]
    exact .inl rfl
  · rw [heq]
    exact .inr ⟨_, rfl⟩

theorem sink_dispatch_of_stopping (hc : c.acquisition = some a) (hstopping : a.stopping = true)
    (event : ReadEvent) :
    (c.dispatch event).2.sink = c.sink ∨
      ∃ trailer, (c.dispatch event).2.sink = Sink.take c.sink (.trailer trailer) := by
  obtain ⟨pool, -, heq⟩ := dispatch_of_stopping hc hstopping event
  rw [heq]
  exact sink_finishIfDrained _

/-- **Once the end has begun** an operation delivers nothing but the trailer. -/
theorem sink_perform_of_stopping {op : Operation τ} {answer : Answer}
    (hstopping : c.isStopping = true) (hop : c.perform op = some (answer, c')) :
    c'.sink = c.sink ∨ ∃ trailer, c'.sink = Sink.take c.sink (.trailer trailer) := by
  obtain ⟨a, hc, hstop⟩ := isStopping_iff.mp hstopping
  cases performs_of_perform hop with
  | tunes event tuned => exact .inl rfl
  | resizes poolSize bufferSize => exact .inl rfl
  | adjusts change => exact .inl rfl
  | starts hstart =>
    obtain ⟨e, hrefused⟩ := start_of_acquiring hc
    cases hrefused.symm.trans hstart
    exact .inl rfl
  | requestsStop =>
    obtain heq | ⟨_, -, -, heq⟩ := requestStop_cases c
    · rw [heq]
      exact .inl rfl
    · rw [heq, beginStop_of_stopping hc hstop]
      exact sink_finishIfDrained c
  | dispatches event => exact sink_dispatch_of_stopping hc hstop event
  | polls =>
    obtain ⟨event, transport, -, heq⟩ | ⟨transport, -, heq⟩ := poll_cases hc
    · rw [heq]
      exact sink_dispatch_of_stopping (c := c.withTransport transport) hc hstop event
    · rw [heq]
      exact sink_finishIfDrained (c.withTransport transport)

/-- **What a run gives to the sink.**  On any transport and over any operations it is one capture
after another, of which only the last can be without its trailer, and is so if and only if it is
running.  Once its end has begun, an operation gives nothing but the trailer. -/
theorem takeAll_captures_of_performAll {session : Session τ} {ops : List (Operation τ)}
    {answers : List Answer} (hops : (new session sink).performAll ops = some (answers, c)) :
    (∃ (captures : List (List StreamEvent)) (rest : List StreamEvent),
        (∀ capture ∈ captures, IsCapture capture) ∧
        c.sink = Sink.takeAll sink (captures.flatten ++ rest) ∧
        (c.isAcquiring = false ∧ rest = [] ∨ c.isAcquiring = true ∧ IsBegun rest)) ∧
      ∀ (op : Operation τ) (answer : Answer) (c' : Controller τ σ),
        c.isStopping = true → c.perform op = some (answer, c') →
          c'.sink = c.sink ∨ ∃ trailer, c'.sink = Sink.take c.sink (.trailer trailer) := by
  refine ⟨?_, fun op answer c' => sink_perform_of_stopping⟩
  have hnew : (new session sink).Delivered sink := ⟨[], [], nofun, rfl, fun _ => rfl, nofun⟩
  obtain ⟨captures, rest, hcaptures, hsink, hidle, hrunning⟩ := hnew.performAll hops
  refine ⟨captures, rest, hcaptures, hsink, ?_⟩
  cases hc : c.acquisition with
  | none => exact .inl ⟨isAcquiring_eq_false.mpr hc, hidle hc⟩
  | some a =>
    obtain ⟨-, header, body, hheader, heq, hbody⟩ := hrunning a hc
    exact .inr ⟨isAcquiring_iff.mpr ⟨a, hc⟩, header, body, _, heq, hheader ▸ hbody⟩

/-- A list that is given a batch and a trigger.  The capture is asked to end then, and polled. -/
theorem captures_of_stopped_capture :
    ∃ (answers : List Answer) (c c' : Controller SimulatedDevice (List StreamEvent))
        (answer : Answer) (header : StreamHeader),
      (new (.new { model := .lwla1016 } .lwla1016) []).performAll
          [.configureTriggers { channels := ⟨7⟩ }, .openDevice, .setTransferPool 1 16, .start,
            .adjust fun d => d.queue [1, 128, 4, 0, 1, 0, 254, 255, 2, 128, 0, 0],
            .poll, .requestStop] = some (answers, c) ∧
        c.sink = [.header header, .samples ⟨0, ⟨7⟩, [1, 6]⟩, .trigger 2] ∧
        (∃ (captures : List (List StreamEvent)) (rest : List StreamEvent),
          (∀ capture ∈ captures, IsCapture capture) ∧
          c.sink = Sink.takeAll [] (captures.flatten ++ rest) ∧
          (c.isAcquiring = false ∧ rest = [] ∨ c.isAcquiring = true ∧ IsBegun rest)) ∧
        c.isStopping = true ∧ c.perform .poll = some (answer, c') ∧
        c'.lastTrailer = some ⟨2, .stopped⟩ ∧
        (c'.sink = c.sink ∨ ∃ trailer, c'.sink = Sink.take c.sink (.trailer trailer)) := by
  let header : StreamHeader := ⟨.lwla1016, SampleRate.standard, 0, ⟨7⟩⟩
  have hrun : ((new (.new ({ model := .lwla1016 } : SimulatedDevice) .lwla1016)
      ([] : List StreamEvent)).performAll
        [.configureTriggers { channels := ⟨7⟩ }, .openDevice, .setTransferPool 1 16, .start,
          .adjust fun d => d.queue [1, 128, 4, 0, 1, 0, 254, 255, 2, 128, 0, 0],
          .poll, .requestStop]).map (fun (_, c) => (c.sink, c.isStopping, c.poll.2.lastTrailer)) =
      some ([.header header, .samples ⟨0, ⟨7⟩, [1, 6]⟩, .trigger 2], true, some ⟨2, .stopped⟩) := by
    decide +kernel
  obtain ⟨⟨answers, c⟩, hops, hview⟩ := Option.map_eq_some_iff.mp hrun
  obtain ⟨hsink, hstopping, htrailer⟩ : _ ∧ _ ∧ _ := by simpa only [Prod.mk.injEq] using hview
  obtain ⟨hcaptures, hstopped⟩ := takeAll_captures_of_performAll hops
  exact ⟨answers, c, c.poll.2, .progress c.poll.1, header, hops, hsink, hcaptures, hstopping, rfl,
    htrailer, hstopped .poll _ _ hstopping rfl⟩

end Controller

end LogicAnalyzer
