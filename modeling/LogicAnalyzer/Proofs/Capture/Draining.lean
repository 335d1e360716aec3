import LogicAnalyzer.Proofs.Capture.Closing
import LogicAnalyzer.Proofs.Device.Streaming

/-!
# How many polls an end takes

Once the end of a capture has begun all its reads are cancelled, and each poll takes one
confirmation off the device, unless it holds them.  So the end takes exactly as many polls as there
are reads out, not counting those at which confirmations were held, whatever made it begin and
whatever else is done in the meantime.

## Main definitions

* `Controller.unheldPolls`: how many polls found confirmations not held
* `Controller.Waits`: a capture whose end waits for some reads
* `Controller.DrainsOn`: what was seen while it waited
* `Controller.PollDrains`: what the next poll does

## Main results

* `Controller.poll_of_held`, `poll_of_unheld`: a poll once the end has begun
* `Controller.Waits.perform`, `Waits.performAll`: operations while the end waits
* `Controller.drain_takes_outstanding_polls`: how many polls the end takes
-/

namespace LogicAnalyzer

/-- An operation that leaves the stream to the reads. -/
def Operation.KeepsStream : Operation SimulatedDevice → Prop
  | .adjust change => ∀ d, (change d).stream = d.stream
  | _ => True

namespace Controller

variable {σ : Type} {c c' c₁ : Controller SimulatedDevice σ} {a : Acquisition}
  {op : Operation SimulatedDevice} {ops : List (Operation SimulatedDevice)} {answer : Answer}
  {reads : Nat} {trailer : StreamTrailer}

/-- **The end of a capture waits** for this many reads, and then delivers the trailer. -/
def Waits (c : Controller SimulatedDevice σ) (reads : Nat) (trailer : StreamTrailer) : Prop :=
  ∃ a, c.acquisition = some a ∧ a.stopping = true ∧ a.pool.outstanding = reads ∧ a.trailer = trailer

/-- An operation counts if it is a poll that finds confirmations not held. -/
def unheldPoll (c : Controller SimulatedDevice σ) : Operation SimulatedDevice → Nat
  | .poll => if c.session.transport.holdsCancellations then 0 else 1
  | _ => 0

variable [Sink σ]

/-- **How many polls found confirmations not held**, over one operation after another. -/
def unheldPolls (c : Controller SimulatedDevice σ) : List (Operation SimulatedDevice) → Nat
  | [] => 0
  | op :: rest =>
    c.unheldPoll op + ((c.perform op).map fun done => done.2.unheldPolls rest).getD 0

theorem unheldPolls_cons (hop : c.perform op = some (answer, c'))
    (rest : List (Operation SimulatedDevice)) :
    c.unheldPolls (op :: rest) = c.unheldPoll op + c'.unheldPolls rest := by
  rw [unheldPolls, hop]
  rfl

/-! ## One poll -/

/-- **While confirmations are held** a poll changes nothing. -/
theorem poll_of_held (h : c.Genuine) (hc : c.acquisition = some a) (hstopping : a.stopping = true)
    (hheld : c.session.transport.holdsCancellations = true) : c.poll = (.running, c) := by
  obtain ⟨event, read, d, c₁, hnext, hpending, -, -, -, -, -⟩ | ⟨-, hpoll⟩ :=
    h.attached.poll_reports hc
  · have hcancelled := (h.attached.inStep a hc).cancelled read (hpending ▸ List.mem_cons_self ..)
    have hnone := SimulatedDevice.next_cancelled hpending (hcancelled.trans hstopping)
    rw [if_pos hheld] at hnone
    cases hnone.symm.trans hnext
  · exact hpoll.trans (finishIfDrained_of_waiting hc (.inr (h.lifecycle.waits a hc hstopping)))

/-- **While they are not** it takes the confirmation of the oldest read, and looks whether that was
the last one. -/
theorem poll_of_unheld (h : c.Genuine) (hc : c.acquisition = some a) (hstopping : a.stopping = true)
    (hfree : c.session.transport.holdsCancellations = false) :
    ∃ read d pool, c.session.transport.pending = read :: d.pending ∧
      Transport.next c.session.transport = (some ⟨read.slot, read.buffer, .cancelled⟩, d) ∧
      d.stream = c.session.transport.stream ∧ pool.outstanding + 1 = a.pool.outstanding ∧
      c.poll = finishIfDrained { c.withTransport d with acquisition := some { a with pool } } := by
  have hwaits := h.lifecycle.waits a hc hstopping
  have hinStep := h.attached.inStep a hc
  have hreads : 0 < c.session.transport.pending.length := hinStep.expects.outstanding ▸ hwaits
  obtain ⟨read, rest, hpending⟩ := List.exists_cons_of_length_pos hreads
  have hcancelled := hinStep.cancelled read (hpending ▸ List.mem_cons_self ..)
  have hconfirmed := SimulatedDevice.next_cancelled hpending (hcancelled.trans hstopping)
  rw [if_neg (by simp [hfree])] at hconfirmed
  obtain ⟨event, read', d, c₁, hnext, -, -, -, hslot, hhandles, hpoll⟩ | ⟨hnone, -⟩ :=
    h.attached.poll_reports hc
  · cases hconfirmed.symm.trans hnext
    obtain ⟨hcount, -⟩ := TransferPool.outstanding_settle_of_inFlight hslot
    obtain rfl := hhandles.eq_of_stopping hstopping
    exact ⟨read, _, _, hpending, hnext, rfl, by omega, hpoll⟩
  · cases hconfirmed.symm.trans hnone

/-- **What the next poll does** while the end waits for this many reads. -/
structure PollDrains (c : Controller SimulatedDevice σ) (reads : Nat) (trailer : StreamTrailer) :
    Prop where
  /-- They are the reads of the device. -/
  pending : c.session.transport.pending.length = reads
  held : c.session.transport.holdsCancellations = true → c.poll = (.running, c)
  /-- If confirmations are not held, the device confirms that its oldest read was cancelled. -/
  confirms : c.session.transport.holdsCancellations = false →
    ∃ read, c.session.transport.pending = read :: c.poll.2.session.transport.pending ∧
      (Transport.next c.session.transport).1 = some ⟨read.slot, read.buffer, .cancelled⟩
  stream : c.poll.2.session.transport.stream = c.session.transport.stream
  running : c.session.transport.holdsCancellations = false → 1 < reads →
    c.poll.1 = .running ∧ c.poll.2.sink = c.sink ∧ c.poll.2.Waits (reads - 1) trailer
  finished : c.session.transport.holdsCancellations = false → reads = 1 →
    c.poll.1 = .finished trailer ∧ c.poll.2.sink = Sink.take c.sink (.trailer trailer) ∧
      c.poll.2.acquisition = none

/-- **One poll while the end waits.** -/
theorem Waits.pollDrains (hwaits : c.Waits reads trailer) (h : c.Genuine) :
    c.PollDrains reads trailer := by
  obtain ⟨a, hc, hstopping, rfl, rfl⟩ := hwaits
  have hpending := (h.attached.inStep a hc).expects.outstanding.symm
  cases hholds : c.session.transport.holdsCancellations with
  | true =>
    have hpoll := poll_of_held h hc hstopping hholds
    exact {
      pending := hpending
      held := fun _ => hpoll
      confirms := by simp [hholds]
      stream := by rw [hpoll]
      running := by simp [hholds]
      finished := by simp [hholds] }
  | false =>
    obtain ⟨read, d, pool, hread, hnext, hstream, hcount, hpoll⟩ :=
      poll_of_unheld h hc hstopping hholds
    have hconfirms : (Transport.next c.session.transport).1 =
        some ⟨read.slot, read.buffer, .cancelled⟩ := congrArg Prod.fst hnext
    rcases Nat.eq_zero_or_pos pool.outstanding with hlast | hmore
    · rw [finishIfDrained_of_drained (a := { a with pool }) rfl hstopping hlast] at hpoll
      have hsent := SimulatedDevice.send_keeps d Command.shutdown.frame
      have hkept := SimulatedDevice.streamKept_send d Command.shutdown.frame
      exact {
        pending := hpending
        held := by simp [hholds]
        confirms := fun _ => ⟨read, by rw [hpoll]; exact hread.trans (congrArg _ hsent.1.symm),
          hconfirms⟩
        stream := by rw [hpoll]; exact hkept.stream.trans hstream
        running := by omega
        finished := fun _ _ => by rw [hpoll]; exact ⟨rfl, rfl, rfl⟩ }
    · rw [finishIfDrained_of_waiting (a := { a with pool }) rfl (.inr hmore)] at hpoll
      have hfewer : pool.outstanding = a.pool.outstanding - 1 := by omega
      exact {
        pending := hpending
        held := by simp [hholds]
        confirms := fun _ => ⟨read, by rw [hpoll]; exact hread, hconfirms⟩
        stream := by rw [hpoll]; exact hstream
        running := fun _ _ => by rw [hpoll]; exact ⟨rfl, rfl, _, rfl, hstopping, hfewer, rfl⟩
        finished := by omega }

/-! ## One operation after another -/

/-- **What was seen while the end waited**: no poll told more than that the capture is running, and
the sink and the stream are as they were. -/
structure DrainsOn (c : Controller SimulatedDevice σ) (ops : List (Operation SimulatedDevice))
    (answers : List Answer) (c' : Controller SimulatedDevice σ) : Prop where
  running : ∀ progress, .progress progress ∈ answers → progress = .running
  sink : c'.sink = c.sink
  stream : (∀ op ∈ ops, op.KeepsStream) →
    c'.session.transport.stream = c.session.transport.stream

omit [Sink σ] in
theorem DrainsOn.cons {answers : List Answer} (h : c.DrainsOn [op] [answer] c₁)
    (h' : c₁.DrainsOn ops answers c') : c.DrainsOn (op :: ops) (answer :: answers) c' := by
  refine ⟨?_, h'.sink.trans h.sink, ?_⟩
  · intro progress hmem
    rcases List.mem_cons.mp hmem with heq | hmem
    · exact h.running progress (heq ▸ List.mem_singleton_self _)
    · exact h'.running progress hmem
  · intro hkeep
    obtain ⟨hfirst, hothers⟩ := List.forall_mem_cons.mp hkeep
    exact (h'.stream hothers).trans (h.stream (by simpa using hfirst))

/-- Only polls and events tell about the progress of a capture. -/
theorem progress_of_perform {progress : Progress}
    (hop : c.perform op = some (.progress progress, c')) :
    op = .poll ∨ ∃ event, op = .dispatch event := by
  cases op with
  | poll => exact .inl rfl
  | dispatch event => exact .inr ⟨event, rfl⟩
  | start =>
    obtain ⟨started, -, heq⟩ := Option.map_eq_some_iff.mp hop
    cases heq
  | _ => cases hop

/-- **Anything but a poll** leaves a capture alone once its end has begun: no other can be started,
and the end cannot be asked for again. -/
theorem drainsOn_of_ne_poll (h : c.Genuine) (hc : c.acquisition = some a)
    (hstopping : a.stopping = true) (hgenuine : op.Genuine) (hpoll : op ≠ .poll)
    (hop : c.perform op = some (answer, c')) :
    c'.acquisition = some a ∧ c.DrainsOn [op] [answer] c' := by
  have hsilent (progress : Progress) : .progress progress ∈ [answer] → progress = .running := by
    intro hmem
    cases List.mem_singleton.mp hmem
    obtain rfl | ⟨event, rfl⟩ := progress_of_perform hop
    · exact absurd rfl hpoll
    · cases hgenuine
  cases performs_of_perform hop with
  | tunes event tuned =>
    refine ⟨hc, hsilent, rfl, fun _ => ?_⟩
    obtain heq | ⟨source, -, heq⟩ := tuned.told h.clockSource_ne_none
    · exact congrArg SimulatedDevice.stream heq
    · have hsent := SimulatedDevice.streamKept_send c.session.transport
        (Command.selectClock source).frame
      exact (congrArg SimulatedDevice.stream heq).trans hsent.stream
  | resizes poolSize bufferSize => exact ⟨hc, hsilent, rfl, fun _ => rfl⟩
  | adjusts change =>
    exact ⟨hc, hsilent, rfl, fun hkeep => hkeep _ (List.mem_singleton_self _) c.session.transport⟩
  | starts hstart =>
    obtain ⟨e, hrefused⟩ := start_of_acquiring hc
    cases hrefused.symm.trans hstart
    exact ⟨hc, hsilent, rfl, fun _ => rfl⟩
  | requestsStop =>
    obtain heq | ⟨b, -, hactive, -⟩ := requestStop_cases c
    · rw [heq]
      exact ⟨hc, hsilent, rfl, fun _ => rfl⟩
    · cases (h.lifecycle.drains a hc hstopping).status.symm.trans hactive
  | dispatches event => cases hgenuine
  | polls => exact absurd rfl hpoll

/-- **One genuine operation while the end waits**, unless it takes the last confirmation. -/
theorem Waits.perform (hwaits : c.Waits reads trailer) (h : c.Genuine) (hgenuine : op.Genuine)
    (hop : c.perform op = some (answer, c')) (hmore : c.unheldPoll op < reads) :
    c'.Waits (reads - c.unheldPoll op) trailer ∧ c.DrainsOn [op] [answer] c' := by
  by_cases hpoll : op = .poll
  · subst hpoll
    cases hop
    have hdrains := hwaits.pollDrains h
    have hseen (hrunning : c.poll.1 = .running) (hsink : c.poll.2.sink = c.sink) :
        c.DrainsOn [.poll] [.progress c.poll.1] c.poll.2 := by
      refine ⟨?_, hsink, fun _ => hdrains.stream⟩
      intro progress hmem
      cases List.mem_singleton.mp hmem
      exact hrunning
    cases hholds : c.session.transport.holdsCancellations with
    | true =>
      have hsame := hdrains.held hholds
      have hsame' : c.poll.2 = c := congrArg Prod.snd hsame
      refine ⟨?_, hseen (congrArg Prod.fst hsame) (congrArg sink hsame')⟩
      show c.poll.2.Waits _ _
      rw [hsame', unheldPoll, if_pos hholds]
      exact hwaits
    | false =>
      rw [unheldPoll, if_neg (by simp [hholds])] at hmore ⊢
      obtain ⟨hrunning, hsink, hfewer⟩ := hdrains.running hholds hmore
      exact ⟨hfewer, hseen hrunning hsink⟩
  · obtain ⟨a, hc, hstopping, hreads, htrailer⟩ := hwaits
    obtain ⟨hkept, hon⟩ := drainsOn_of_ne_poll h hc hstopping hgenuine hpoll hop
    have hnone : c.unheldPoll op = 0 := by
      cases op with
      | poll => exact absurd rfl hpoll
      | _ => rfl
    rw [hnone]
    exact ⟨⟨a, hkept, hstopping, hreads, htrailer⟩, hon⟩

/-- **Genuine operations while the end waits**, with fewer polls that find confirmations not held
than reads are out. -/
theorem Waits.performAll {answers : List Answer} (hwaits : c.Waits reads trailer) (h : c.Genuine)
    (hgenuine : ∀ op ∈ ops, op.Genuine) (hops : c.performAll ops = some (answers, c'))
    (hmore : c.unheldPolls ops < reads) :
    c'.Genuine ∧ c'.Waits (reads - c.unheldPolls ops) trailer ∧ c.DrainsOn ops answers c' := by
  induction ops generalizing c reads answers with
  | nil =>
    cases hops
    exact ⟨h, hwaits, by simp, rfl, fun _ => rfl⟩
  | cons op rest ih =>
    obtain ⟨hfirst, hothers⟩ := List.forall_mem_cons.mp hgenuine
    obtain ⟨answer, c₁, answers, hop, hrest, rfl⟩ := performAll_cons_eq_some.mp hops
    rw [unheldPolls_cons hop] at hmore ⊢
    obtain ⟨hwaits₁, hon⟩ := hwaits.perform h hfirst hop (by omega)
    obtain ⟨h', hwaits', hon'⟩ := ih hwaits₁ (h.perform hfirst hop) hothers hrest (by omega)
    rw [Nat.sub_sub] at hwaits'
    exact ⟨h', hwaits', hon.cons hon'⟩

/-- **The end of a capture takes as many polls as there are reads out**, one at least, whatever
made it begin.  In the course of any genuine operations from there on, polls that find confirmations
held do not count and change nothing.  Each of the others takes the confirmation of the oldest read
off the device, and nothing off the stream.  Before the last of them no poll tells more than that
the capture is running, and the sink gets nothing; the last one tells the trailer, and the sink gets
it. -/
theorem drain_takes_outstanding_polls (h : c.Genuine) (hc : c.acquisition = some a)
    (hstopping : a.stopping = true) :
    0 < a.pool.outstanding ∧ ∀ ops, (∀ op ∈ ops, op.Genuine) →
      ∃ answers d, c.performAll ops = some (answers, d) ∧
        (c.unheldPolls ops < a.pool.outstanding →
          c.DrainsOn ops answers d ∧
          d.Waits (a.pool.outstanding - c.unheldPolls ops) a.trailer ∧
          d.PollDrains (a.pool.outstanding - c.unheldPolls ops) a.trailer) := by
  refine ⟨h.lifecycle.waits a hc hstopping, ?_⟩
  intro ops hgenuine
  obtain ⟨answers, d, hops⟩ := exists_performAll c ops
  refine ⟨answers, d, hops, ?_⟩
  intro hmore
  have hwaits : c.Waits a.pool.outstanding a.trailer := ⟨a, hc, hstopping, rfl, rfl⟩
  obtain ⟨hd, hleft, hon⟩ := hwaits.performAll h hgenuine hops hmore
  exact ⟨hon, hleft, hleft.pollDrains hd⟩

/-- A capture that ends because a read failed, with two others out.  One of them comes back between
two holds, although the device has bytes to stream and is told to fail once more. -/
theorem drain_takes_outstanding_polls_of_failed_read :
    ∃ (started answers : List Answer) (c d : Controller SimulatedDevice (List StreamEvent)),
      (new (.new { model := .lwla1016, stream := [1, 2, 3] } .lwla1016) []).performAll
          [.openDevice, .setTransferPool 3 8, .adjust fun d => d.failCompletion 0 .stall, .start,
            .poll] = some (started, c) ∧
      c.Waits 2 ⟨0, .aborted (.transfer .stall)⟩ ∧
      c.performAll [.adjust fun d => (d.failCompletion 1 .stall).holdCancellations true, .poll,
          .adjust fun d => d.holdCancellations false, .poll] = some (answers, d) ∧
      d.sink = c.sink ∧ d.session.transport.stream = [1, 2, 3] ∧
      d.poll.1 = .finished ⟨0, .aborted (.transfer .stall)⟩ := by
  obtain ⟨started, answers, c, d, a, hstarted, hc, hstopping, hcount, htrailer, hstream, hdrained,
      hpolls, hfree⟩ :
      ∃ (started answers : List Answer) (c d : Controller SimulatedDevice (List StreamEvent))
          (a : Acquisition),
        (new (.new { model := .lwla1016, stream := [1, 2, 3] } .lwla1016) []).performAll
            [.openDevice, .setTransferPool 3 8, .adjust fun d => d.failCompletion 0 .stall, .start,
              .poll] = some (started, c) ∧
        c.acquisition = some a ∧ a.stopping = true ∧ a.pool.outstanding = 2 ∧
        a.trailer = ⟨0, .aborted (.transfer .stall)⟩ ∧ c.session.transport.stream = [1, 2, 3] ∧
        c.performAll [.adjust fun d => (d.failCompletion 1 .stall).holdCancellations true, .poll,
            .adjust fun d => d.holdCancellations false, .poll] = some (answers, d) ∧
        c.unheldPolls [.adjust fun d => (d.failCompletion 1 .stall).holdCancellations true, .poll,
            .adjust fun d => d.holdCancellations false, .poll] = 1 ∧
        d.session.transport.holdsCancellations = false :=
    ⟨_, _, _, _, _, rfl, rfl, rfl, rfl, rfl, rfl, rfl, rfl, rfl⟩
  have hnew := genuine_new (d := { model := .lwla1016, stream := [1, 2, 3] }) rfl .lwla1016
    ([] : List StreamEvent)
  have hgenuine :=
    hnew.performAll (by simp [Operation.Genuine, SimulatedDevice.failCompletion]) hstarted
  obtain ⟨-, hdrains⟩ := drain_takes_outstanding_polls hgenuine hc hstopping
  obtain ⟨answers', d', hops, hcounts⟩ := hdrains
    [.adjust fun d => (d.failCompletion 1 .stall).holdCancellations true, .poll,
      .adjust fun d => d.holdCancellations false, .poll]
    (by simp [Operation.Genuine, SimulatedDevice.failCompletion, SimulatedDevice.holdCancellations])
  cases hdrained.symm.trans hops
  rw [hpolls, hcount, htrailer] at hcounts
  obtain ⟨hon, -, hnext⟩ := hcounts (by decide)
  refine ⟨started, answers, c, d, hstarted, ⟨a, hc, hstopping, hcount, htrailer⟩, hdrained,
    hon.sink, ?_, (hnext.finished hfree rfl).1⟩
  refine (hon.stream ?_).trans hstream
  simp [Operation.KeepsStream, SimulatedDevice.failCompletion, SimulatedDevice.holdCancellations]

end Controller

end LogicAnalyzer
