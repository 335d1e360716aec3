import LogicAnalyzer.Proofs.Capture.Protocol

/-!
# What is fed to the decoder

An operation feeds the decoder of the running capture at most one buffer, that of a read which
received something before the end of the capture began.  Whatever the transport reports, the decoder
is afterwards what feeding that buffer makes of it, and the sink was given what the buffer decodes
to, also if the capture comes to its end in the same operation.

## Main definitions

* `Acquisition.deliversAll`: what is delivered of some chunks
* `Controller.feeds?`, `fed`: what an event feeds to the decoder, and what an operation does
* `Controller.Proceeds`: a capture that was fed some chunks and delivered what they bring
* `Controller.Decodes`: a capture that has this decoder, or has just ended with it

## Main results

* `Controller.Handles.proceeds`: the capture after the report of a read
* `Controller.proceeds_perform`: the capture after an operation
* `Controller.decodes_perform`: the decoder after an operation
-/

namespace LogicAnalyzer

/-! ## What chunks deliver -/

namespace Acquisition

variable {a b : Acquisition}

/-- **What is delivered of some chunks**, one after another. -/
def deliversAll (a : Acquisition) : List (List UInt8) → List StreamEvent
  | [] => []
  | chunk :: rest =>
    a.delivers chunk ++ deliversAll { a with decoder := (a.decoder.feed chunk).2 } rest

theorem deliversAll_singleton (a : Acquisition) (chunk : List UInt8) :
    a.deliversAll [chunk] = a.delivers chunk := List.append_nil _

/-- It depends on the decoder and the channels only. -/
theorem deliversAll_congr (hdecoder : b.decoder = a.decoder) (hchannels : b.channels = a.channels)
    (chunks : List (List UInt8)) : b.deliversAll chunks = a.deliversAll chunks := by
  induction chunks generalizing a b with
  | nil => rfl
  | cons chunk rest ih =>
    have hrest : deliversAll { b with decoder := (b.decoder.feed chunk).2 } rest =
        deliversAll { a with decoder := (a.decoder.feed chunk).2 } rest :=
      ih (by rw [hdecoder]) hchannels
    rw [deliversAll, deliversAll, hrest, delivers, delivers, hdecoder, hchannels]

theorem deliversAll_append (a : Acquisition) (chunks more : List (List UInt8)) :
    a.deliversAll (chunks ++ more) = a.deliversAll chunks ++
      deliversAll { a with decoder := (a.decoder.feedAll chunks).2 } more := by
  induction chunks generalizing a with
  | nil => rfl
  | cons chunk rest ih =>
    rw [List.cons_append, deliversAll, deliversAll, ih, List.append_assoc]
    rfl

end Acquisition

namespace Controller

variable {τ σ : Type} {c c' c₁ : Controller τ σ} {a b : Acquisition} {event : ReadEvent}

/-- **The bytes that an event feeds to the decoder**, if it feeds any: those of a report that the pool
accepts, which says that they were received, unless the end of the capture has begun. -/
def feeds? (c : Controller τ σ) (event : ReadEvent) : Option (List UInt8) :=
  c.acquisition.bind fun a =>
    (a.pool.accept event).1.bind fun delivery =>
      if delivery.outcome = .received ∧ a.stopping = false ∧ a.failed = false then
        some delivery.buffer.bytes
      else none

theorem feeds?_of_inFlight (hc : c.acquisition = some a)
    (hslot : a.pool.slots[event.slot]? = some .inFlight) :
    c.feeds? event =
      if event.outcome = .received ∧ a.stopping = false ∧ a.failed = false then
        some event.buffer.bytes
      else none := by
  have houtcome : (if event.outcome = .failed .cancelled then ReadOutcome.cancelled
      else event.outcome) = .received ↔ event.outcome = .received := by
    split
    · rename_i hcancelled
      simp [hcancelled]
    · exact Iff.rfl
  simp only [feeds?, hc, Option.bind_some, TransferPool.accept_of_inFlight hslot, houtcome]

theorem feeds?_of_not_inFlight (hc : c.acquisition = some a)
    (hslot : a.pool.slots[event.slot]? ≠ some .inFlight) : c.feeds? event = none := by
  simp only [feeds?, hc, Option.bind_some, TransferPool.accept_of_not_inFlight hslot,
    Option.bind_none]

variable [Transport τ]

/-- **The buffers that an operation feeds**, which is one at most. -/
def fed (c : Controller τ σ) (op : Operation τ) : List (List UInt8) :=
  ((c.event? op).bind c.feeds?).toList

theorem fed_of_event {op : Operation τ} (h : c.event? op = some event) :
    c.fed op = (c.feeds? event).toList := by
  rw [fed, h, Option.bind_some]

theorem fed_of_none {op : Operation τ} (h : c.event? op = none) : c.fed op = [] := by
  rw [fed, h]
  rfl

/-- Without a capture there is no decoder to feed. -/
theorem fed_of_idle (hc : c.acquisition = none) (op : Operation τ) : c.fed op = [] := by
  unfold fed
  cases c.event? op with
  | none => rfl
  | some event => simp [feeds?, hc]

/-! ## The capture -/

/-- **The capture has this decoder**, or it has ended and had this decoder then. -/
inductive Decodes (c : Controller τ σ) (decoder : StreamDecoder) : Prop
  | running {a : Acquisition} (acquisition : c.acquisition = some a) (eq : a.decoder = decoder)
  | ended {trailer : StreamTrailer} (acquisition : c.acquisition = none)
      (lastTrailer : c.lastTrailer = some trailer) (samples : trailer.samples = decoder.emitted)

variable [Sink σ]

/-- **A capture that was fed some chunks** since the sink was as it is given: it has delivered what
they bring, and it is running, or it has ended and delivered its trailer. -/
inductive Proceeds (c : Controller τ σ) (taken : σ) (a : Acquisition)
    (fed : List (List UInt8)) : Prop
  | running {b : Acquisition} (acquisition : c.acquisition = some b)
      (decoder : b.decoder = (a.decoder.feedAll fed).2) (channels : b.channels = a.channels)
      (sink : c.sink = Sink.takeAll taken (a.deliversAll fed))
  | ended {trailer : StreamTrailer} (acquisition : c.acquisition = none)
      (lastTrailer : c.lastTrailer = some trailer)
      (samples : trailer.samples = (a.decoder.feedAll fed).2.emitted)
      (sink : c.sink = Sink.takeAll taken (a.deliversAll fed ++ [.trailer trailer]))

namespace Proceeds

variable {taken : σ} {fed more : List (List UInt8)}

omit [Transport τ] in
theorem refl (hc : c.acquisition = some a) : c.Proceeds c.sink a [] := .running hc rfl rfl rfl

omit [Transport τ] in
/-- What is fed later is fed to the decoder that the capture has by then. -/
theorem trans (h : c.Proceeds taken a fed) (hc : c.acquisition = some b)
    (h' : c'.Proceeds c.sink b more) : c'.Proceeds taken a (fed ++ more) := by
  rcases h with ⟨hacquisition, hdecoder, hchannels, hsink⟩ | ⟨hnone, -, -, -⟩
  · obtain rfl := Option.some.inj (hc.symm.trans hacquisition)
    have hfed : (b.decoder.feedAll more).2 = (a.decoder.feedAll (fed ++ more)).2 := by
      rw [hdecoder, StreamDecoder.feedAll_append]
    have hdelivers : a.deliversAll (fed ++ more) = a.deliversAll fed ++ b.deliversAll more := by
      rw [Acquisition.deliversAll_append]
      congr 1
      apply Eq.symm
      apply Acquisition.deliversAll_congr
      · exact hdecoder
      · exact hchannels
    rcases h' with ⟨hacquisition', hdecoder', hchannels', hsink'⟩ | ⟨hnone', htrailer, hsamples, hsink'⟩
    · refine .running hacquisition' (hdecoder'.trans hfed) (hchannels'.trans hchannels) ?_
      rw [hdelivers, Sink.takeAll_append, ← hsink, hsink']
    · refine .ended hnone' htrailer (hsamples.trans (congrArg _ hfed)) ?_
      rw [hdelivers, List.append_assoc, Sink.takeAll_append, ← hsink, hsink']
  · rw [hnone] at hc
    contradiction

theorem beginStop (h : c.Proceeds taken a fed) (reason : EndReason) :
    (c.beginStop reason).Proceeds taken a fed := by
  obtain ⟨-, heq⟩ | ⟨b, hb, -, heq⟩ := beginStop_cases c reason
  · rwa [heq]
  · rw [heq]
    rcases h with ⟨hacquisition, hdecoder, hchannels, hsink⟩ | ⟨hnone, -, -, -⟩
    · obtain rfl := Option.some.inj (hacquisition.symm.trans hb)
      exact .running rfl hdecoder hchannels hsink
    · rw [hnone] at hb
      contradiction

theorem finishIfDrained (h : c.Proceeds taken a fed) : c.finishIfDrained.2.Proceeds taken a fed := by
  obtain ⟨-, heq⟩ | ⟨b, hb, -, -, heq⟩ := finishIfDrained_cases c
  · rwa [heq]
  · rw [heq]
    rcases h with ⟨hacquisition, hdecoder, hchannels, hsink⟩ | ⟨hnone, -, -, -⟩
    · obtain rfl := Option.some.inj (hacquisition.symm.trans hb)
      refine .ended rfl rfl (congrArg StreamDecoder.emitted hdecoder) ?_
      rw [Sink.takeAll_append, ← hsink]
      rfl
    · rw [hnone] at hb
      contradiction

omit [Transport τ] in
theorem decodes (h : c.Proceeds taken a fed) : c.Decodes (a.decoder.feedAll fed).2 := by
  rcases h with ⟨hacquisition, hdecoder, -, -⟩ | ⟨hnone, htrailer, hsamples, -⟩
  · exact .running hacquisition hdecoder
  · exact .ended hnone htrailer hsamples

end Proceeds

/-- **The capture after the report of a read** was fed what the event feeds. -/
theorem Handles.proceeds (h : c.Handles a event c₁) (hc : c.acquisition = some a)
    (hslot : a.pool.slots[event.slot]? = some .inFlight)
    (hfailed : a.stopping = false → a.failed = false) :
    c₁.Proceeds c.sink a (c.feeds? event).toList := by
  have hfeeds := feeds?_of_inFlight hc hslot
  have hreceived (stopping : a.stopping = false) (outcome : event.outcome = .received)
      {c' : Controller τ σ} {b : Acquisition} (hc' : c'.acquisition = some b)
      (hdecoder : b.decoder = (a.decoder.feed event.buffer.bytes).2)
      (hchannels : b.channels = a.channels)
      (hsink : c'.sink = Sink.takeAll c.sink (a.delivers event.buffer.bytes)) :
      c'.Proceeds c.sink a (c.feeds? event).toList := by
    rw [hfeeds, if_pos ⟨outcome, stopping, hfailed stopping⟩]
    rw [← Acquisition.deliversAll_singleton] at hsink
    exact .running hc' hdecoder hchannels hsink
  cases h with
  | parks why =>
    have hnone : c.feeds? event = none := by
      rw [hfeeds, if_neg]
      rintro ⟨outcome, stopping, -⟩
      simp [outcome, stopping, hfailed stopping] at why
    rw [hnone]
    exact .running rfl rfl rfl rfl
  | fails stopping outcome asked =>
    have hnone : c.feeds? event = none := by
      rw [hfeeds, if_neg]
      rintro ⟨hreceived, -⟩
      simp [outcome] at hreceived
    rw [hnone]
    apply Proceeds.beginStop
    exact .running rfl rfl rfl rfl
  | concludes stopping outcome hreason =>
    apply Proceeds.beginStop
    exact hreceived stopping outcome rfl rfl rfl rfl
  | resubmits stopping outcome hresubmit => exact hreceived stopping outcome rfl rfl rfl rfl
  | refuses stopping outcome hresubmit =>
    apply Proceeds.beginStop
    exact hreceived stopping outcome rfl rfl rfl rfl

theorem proceeds_dispatch (hlife : c.Lifecycle) (hc : c.acquisition = some a) (event : ReadEvent) :
    (c.dispatch event).2.Proceeds c.sink a (c.feeds? event).toList := by
  obtain ⟨hslot, heq⟩ | ⟨hslot, c₁, hhandles, heq⟩ := dispatch_cases hc event
  · rw [heq, feeds?_of_not_inFlight hc hslot]
    exact (Proceeds.refl hc).finishIfDrained
  · have hfailed (hstopping : a.stopping = false) : a.failed = false :=
      (hlife.streams a hc hstopping).failed
    rw [heq]
    exact (hhandles.proceeds hc hslot hfailed).finishIfDrained

/-- **The capture after an operation** was fed what the operation feeds, and nothing else. -/
theorem proceeds_perform {op : Operation τ} {answer : Answer} (hlife : c.Lifecycle)
    (hc : c.acquisition = some a) (hop : c.perform op = some (answer, c')) :
    c'.Proceeds c.sink a (c.fed op) := by
  cases performs_of_perform hop with
  | tunes event tuned =>
    rw [fed_of_none event]
    exact .running hc rfl rfl rfl
  | resizes poolSize bufferSize => exact .running hc rfl rfl rfl
  | adjusts change => exact .running hc rfl rfl rfl
  | starts hstart =>
    obtain ⟨e, hrefused⟩ := start_of_acquiring hc
    cases hrefused.symm.trans hstart
    exact .refl hc
  | requestsStop =>
    obtain heq | ⟨_, -, -, heq⟩ := requestStop_cases c
    · rw [heq]
      exact .refl hc
    · rw [heq]
      exact ((Proceeds.refl hc).beginStop .stopped).finishIfDrained
  | dispatches event =>
    have hevent : c.event? (.dispatch event) = some event := rfl
    rw [fed_of_event hevent]
    exact proceeds_dispatch hlife hc event
  | polls =>
    obtain ⟨event, transport, hnext, heq⟩ | ⟨transport, hnext, heq⟩ := poll_cases hc
    · have hevent : c.event? .poll = some event := congrArg Prod.fst hnext
      have hmoved : (c.withTransport transport).Lifecycle := hlife.congr rfl rfl
      rw [heq, fed_of_event hevent]
      exact proceeds_dispatch hmoved hc event
    · have hnone : c.event? .poll = none := congrArg Prod.fst hnext
      have hmoved : (c.withTransport transport).Proceeds c.sink a [] := .running hc rfl rfl rfl
      rw [heq, fed_of_none hnone]
      exact hmoved.finishIfDrained

/-- **The decoder after an operation** is fed what the operation feeds, and nothing else. -/
theorem decodes_perform {op : Operation τ} {answer : Answer} (hlife : c.Lifecycle)
    (hc : c.acquisition = some a) (hop : c.perform op = some (answer, c')) :
    c'.Decodes (a.decoder.feedAll (c.fed op)).2 :=
  (proceeds_perform hlife hc hop).decodes

end Controller

end LogicAnalyzer
