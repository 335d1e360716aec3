import LogicAnalyzer.Proofs.Capture.Shutdown

/-!
# Closing

Closing a controller begins the end of the capture that is running, if any, and then polls up to a
limit.  A device that confirms cancellations reports one read for each poll, so all reads come back
if there are no more of them than polls.  Else some are left at the device, which is shut down all
the same, and the sink never gets the trailer.

## Main definitions

* `Controller.Awaits`: a capture whose end has begun, and the reads that are not back
* `Controller.ClosesCleanly`, `BreaksOff`: what closing ought to do, and what it does otherwise

## Main results

* `Controller.Awaits.pollUntil_of_le`, `pollUntil_of_lt`: polls with and without enough of them
* `Controller.closesCleanly_of_le`, `breaksOff_of_lt`: what closing does
* `Controller.closesCleanly_iff`: when closing does what it ought to do
-/

namespace LogicAnalyzer

/-- The slot whose cancellation is confirmed by the event that the transport gave. -/
def Call.confirmation? : Call → Option Nat
  | .next (some event) => if event.outcome = .cancelled then some event.slot else none
  | _ => none

/-- The slots whose cancellations were confirmed, in order. -/
def confirmations (calls : List Call) : List Nat := calls.filterMap Call.confirmation?

@[simp] theorem confirmations_append (calls more : List Call) :
    confirmations (calls ++ more) = confirmations calls ++ confirmations more :=
  List.filterMap_append

/-- The trailer that a capture comes to, once its end has begun. -/
def Acquisition.trailer (a : Acquisition) : StreamTrailer := ⟨a.decoder.emitted, a.ending.getD .stopped⟩

namespace Controller

variable {σ : Type} [Sink σ]

/-! ## Polls -/

section

variable {c : Controller (Traced SimulatedDevice) σ} {a : Acquisition} {read : PendingRead}
  {reads rest : List PendingRead}

/-- **A capture whose end has begun**, and the reads that are not back from a device that confirms
their cancellation. -/
structure Awaits (c : Controller (Traced SimulatedDevice) σ) (a : Acquisition)
    (reads : List PendingRead) : Prop where
  acquisition : c.acquisition = some a
  stopping : a.stopping = true
  expects : a.pool.Expects reads
  pending : c.session.transport.inner.pending = reads
  cancelled : ∀ read ∈ reads, read.cancelled = true
  holds : c.session.transport.inner.holdsCancellations = false

/-- **One poll** takes the confirmation of the oldest read, and looks whether it was the last. -/
theorem Awaits.poll_cons (h : c.Awaits a (read :: rest)) :
    ∃ (c₁ : Controller (Traced SimulatedDevice) σ) (pool : TransferPool) (calls : List Call),
      c.poll = c₁.finishIfDrained ∧ c₁.Awaits { a with pool } rest ∧
      c₁.sink = c.sink ∧ c₁.session.status = c.session.status ∧
      Tells c.session.transport calls c₁.session.transport ∧
      confirmations calls = [read.slot] := by
  have hcancelled := h.cancelled read (List.mem_cons_self ..)
  obtain ⟨event, t, hnext, hpoll⟩ | ⟨t, hnone, -⟩ := poll_cases h.acquisition
  · obtain ⟨hinner, hcalls⟩ := Traced.next_inner hnext
    obtain ⟨first, others, hpending, hpending', hholds, hslot, houtcome⟩ :=
      SimulatedDevice.next_some hinner
    cases h.pending.symm.trans hpending
    have hinFlight : a.pool.slots[event.slot]? = some .inFlight := by
      rw [h.expects.inFlight, hslot]
      exact List.mem_cons_self ..
    have hconfirmed : confirmations [.next (some event)] = [read.slot] := by
      simp [confirmations, Call.confirmation?, houtcome.mpr hcancelled, hslot]
    obtain ⟨hnot, -⟩ | ⟨-, c₁, hhandles, hdispatch⟩ :=
      dispatch_cases (c := c.withTransport t) h.acquisition event
    · exact absurd hinFlight hnot
    · rw [hpoll, hdispatch]
      obtain rfl := hhandles.eq_of_stopping h.stopping
      refine ⟨_, a.pool.settle event, [.next (some event)], rfl, ?_, rfl, rfl,
        ⟨hcalls, List.not_mem_nil⟩, hconfirmed⟩
      refine ⟨rfl, h.stopping, h.expects.settle hslot, hpending', ?_, hholds.trans h.holds⟩
      intro other hmem
      exact h.cancelled other (List.mem_cons_of_mem _ hmem)
  · obtain ⟨event, d, hevent⟩ :=
      SimulatedDevice.exists_next_of_cancelled h.pending hcancelled h.holds
    cases (Traced.next_inner hnone).1.symm.trans hevent

/-- **From `c` to `c₁` a capture came to its end**: these reads came back one by one, then the device
was shut down, and then the trailer was delivered. -/
structure Completes (c : Controller (Traced SimulatedDevice) σ) (trailer : StreamTrailer)
    (reads : List PendingRead) (c₁ : Controller (Traced SimulatedDevice) σ) : Prop where
  status : c₁.session.status = .inactive
  pending : c₁.session.transport.inner.pending = []
  sink : c₁.sink = Sink.take c.sink (.trailer trailer)
  calls : ∃ calls taken, c₁.session.transport.calls =
      c.session.transport.calls ++ (calls ++ [.send Command.shutdown.frame taken]) ∧
    Quiet calls ∧ confirmations calls = reads.map PendingRead.slot

/-- Once the last read is back the capture is at its end. -/
theorem Awaits.finishIfDrained_nil (h : c.Awaits a []) :
    ∃ c₁, c.finishIfDrained = (.finished a.trailer, c₁) ∧ c.Completes a.trailer [] c₁ := by
  have hsent := SimulatedDevice.send_keeps c.session.transport.inner Command.shutdown.frame
  rw [finishIfDrained_of_drained h.acquisition h.stopping h.expects.outstanding]
  refine ⟨_, rfl, rfl, hsent.1.trans h.pending, rfl, [], ?_⟩
  exact ⟨(Transport.send c.session.transport Command.shutdown.frame).1.isOk, rfl, quiet_nil, rfl⟩

theorem Awaits.finishIfDrained_cons (h : c.Awaits a (read :: rest)) :
    c.finishIfDrained = (.running, c) := by
  have hwaiting : 0 < a.pool.outstanding := by
    rw [h.expects.outstanding]
    exact Nat.zero_lt_succ _
  exact finishIfDrained_of_waiting h.acquisition (.inr hwaiting)

/-- Polls before the last read is back. -/
theorem Completes.after (reads : List PendingRead)
    {c₁ c₂ : Controller (Traced SimulatedDevice) σ} {trailer : StreamTrailer}
    (h : c₁.Completes trailer rest c₂) (hsink : c₁.sink = c.sink) {calls : List Call}
    (htells : Tells c.session.transport calls c₁.session.transport)
    (hconfirmed : confirmations calls = reads.map PendingRead.slot) :
    c.Completes trailer (reads ++ rest) c₂ := by
  obtain ⟨more, taken, hcalls, hquiet, hmore⟩ := h.calls
  refine ⟨h.status, h.pending, hsink ▸ h.sink, calls ++ more, taken, ?_, ?_, ?_⟩
  · rw [hcalls, htells.calls_eq, List.append_assoc, List.append_assoc]
  · exact quiet_append.mpr ⟨htells.quiet, hquiet⟩
  · rw [confirmations_append, hconfirmed, hmore, List.map_append]

/-- A poll without a read that is out. -/
theorem Awaits.poll_nil (h : c.Awaits a []) :
    ∃ c₁, c.poll = (.finished a.trailer, c₁) ∧ c.Completes a.trailer [] c₁ := by
  obtain ⟨event, t, hnext, -⟩ | ⟨t, hnone, hpoll⟩ := poll_cases h.acquisition
  · obtain ⟨read, rest, hpending, -⟩ := SimulatedDevice.next_some (Traced.next_inner hnext).1
    cases h.pending.symm.trans hpending
  · obtain ⟨hinner, hcalls⟩ := Traced.next_inner hnone
    have hsame := SimulatedDevice.next_none hinner
    have hawaits : (c.withTransport t).Awaits a [] :=
      ⟨h.acquisition, h.stopping, h.expects, (congrArg _ hsame).trans h.pending, h.cancelled,
        (congrArg _ hsame).trans h.holds⟩
    obtain ⟨c₁, hfinished, hcompletes⟩ := hawaits.finishIfDrained_nil
    refine ⟨c₁, hpoll.trans hfinished, ?_⟩
    exact hcompletes.after [] rfl ⟨hcalls, List.not_mem_nil⟩ rfl

/-- **With enough polls** all reads come back, and the capture comes to its end. -/
theorem Awaits.pollUntil_of_le {limit : Nat} (h : c.Awaits a reads) (hle : reads.length ≤ limit)
    (hpos : 0 < limit) :
    ∃ polls c₁, pollUntil limit c = (polls, .finished a.trailer, c₁) ∧
      c.Completes a.trailer reads c₁ := by
  obtain ⟨limit, rfl⟩ := Nat.exists_eq_add_one_of_ne_zero (Nat.ne_of_gt hpos)
  -- each poll takes the oldest read, so the induction is on the reads
  induction reads generalizing c a limit with
  | nil =>
    obtain ⟨c₁, hpoll, hcompletes⟩ := h.poll_nil
    exact ⟨1, c₁, by simp only [pollUntil, hpoll], hcompletes⟩
  | cons read rest ih =>
    obtain ⟨c₁, pool, calls, hpoll, hawaits, hsink, -, htells, hconfirmed⟩ := h.poll_cons
    cases rest with
    | nil =>
      obtain ⟨c₂, hfinished, hcompletes⟩ := hawaits.finishIfDrained_nil
      refine ⟨1, c₂, by simp only [pollUntil, hpoll, hfinished]; rfl, ?_⟩
      exact hcompletes.after [read] hsink htells hconfirmed
    | cons next others =>
      have hrunning := hpoll.trans hawaits.finishIfDrained_cons
      have hfewer : (next :: others).length ≤ limit := Nat.le_of_succ_le_succ hle
      obtain ⟨limit, rfl⟩ := Nat.exists_eq_add_one_of_ne_zero
        (Nat.ne_of_gt (Nat.lt_of_lt_of_le (Nat.zero_lt_succ _) hfewer))
      obtain ⟨polls, c₂, hpolls, hcompletes⟩ := ih hawaits limit hfewer (Nat.zero_lt_succ _)
      refine ⟨polls + 1, c₂, by rw [pollUntil, hrunning]; simp only [hpolls]; rfl, ?_⟩
      exact hcompletes.after [read] hsink htells hconfirmed

/-- **With fewer polls than reads** some are left. -/
theorem Awaits.pollUntil_of_lt {limit : Nat} (h : c.Awaits a reads) (hlt : limit < reads.length) :
    ∃ c₁ pool calls, pollUntil limit c = (limit, .running, c₁) ∧
      c₁.Awaits { a with pool } (reads.drop limit) ∧
      c₁.sink = c.sink ∧ c₁.session.status = c.session.status ∧
      Tells c.session.transport calls c₁.session.transport ∧
      confirmations calls = (reads.take limit).map PendingRead.slot := by
  induction limit generalizing c a reads with
  | zero => exact ⟨c, a.pool, [], rfl, h, rfl, rfl, .refl _, rfl⟩
  | succ limit ih =>
    obtain ⟨read, next, others, rfl⟩ : ∃ read next others, reads = read :: next :: others := by
      match reads with
      | [] => cases hlt
      | [read] => simp at hlt
      | read :: next :: others => exact ⟨read, next, others, rfl⟩
    obtain ⟨c₁, pool, calls, hpoll, hawaits, hsink, hstatus, htells, hconfirmed⟩ := h.poll_cons
    have hrunning := hpoll.trans hawaits.finishIfDrained_cons
    obtain ⟨c₂, pool', more, hpolls, hleft, hsink', hstatus', htells', hconfirmed'⟩ :=
      ih hawaits (Nat.lt_of_succ_lt_succ hlt)
    refine ⟨c₂, pool', calls ++ more, ?_, hleft, hsink'.trans hsink, hstatus'.trans hstatus,
      htells.trans htells', ?_⟩
    · rw [pollUntil, hrunning]
      simp only [hpolls]
    · rw [confirmations_append, hconfirmed, hconfirmed']
      rfl

end

/-! ## Closing -/

section

variable {c : Controller SimulatedDevice σ} {a : Acquisition}

/-- Closing begins with the end of the capture. -/
theorem exists_awaits_of_closing (h : c.Genuine) (hc : c.acquisition = some a)
    (hholds : c.session.transport.holdsCancellations = false) :
    ∃ b reads calls, (c.traced.beginStop .stopped).Awaits b reads ∧ b.trailer = a.trailer ∧
      reads.map PendingRead.slot = c.session.transport.pending.map PendingRead.slot ∧
      (c.traced.beginStop .stopped).sink = c.sink ∧
      (c.traced.beginStop .stopped).session.status ≠ .inactive ∧
      Tells c.traced.session.transport calls (c.traced.beginStop .stopped).session.transport ∧
      confirmations calls = [] := by
  have hinStep := h.attached.inStep a hc
  have hlife := h.lifecycle
  cases hstopping : a.stopping with
  | true =>
    rw [beginStop_of_stopping (c := c.traced) hc hstopping]
    refine ⟨a, c.session.transport.pending, [], ⟨hc, hstopping, hinStep.expects, rfl, ?_, hholds⟩,
      rfl, rfl, rfl, ?_, .refl _, rfl⟩
    · intro read hread
      exact (hinStep.cancelled read hread).trans hstopping
    · have hstatus : c.traced.session.status = .stopping := (hlife.drains a hc hstopping).status
      simp [hstatus]
  | false =>
    have hstreams := hlife.streams a hc hstopping
    obtain ⟨hexpects, hcancelled, hslots, hkept⟩ :=
      hinStep.expects.cancelAll (hinStep.cancelRequested.trans hstopping)
    obtain ⟨calls, htells, hcalls⟩ :=
      TransferPool.exists_tells_cancelAll a.pool c.traced.session.transport
    have hinner := TransferPool.cancelAll_hom Traced.inner_hom.toReadHom a.pool c.traced.session.transport
    rw [show c.traced.session.transport.inner = c.session.transport from rfl] at hinner
    rw [hinner] at hexpects hcancelled hslots hkept
    rw [beginStop_of_streams (c := c.traced) hc hstopping]
    refine ⟨_, _, calls, ⟨rfl, rfl, hexpects, ?_, hcancelled, ?_⟩, ?_, hslots, rfl, ?_, ?_, ?_⟩
    · rw [Session.transport_beginStop]
      rfl
    · rw [Session.transport_beginStop]
      exact hkept.trans hholds
    · simp [Acquisition.trailer, hstreams.ending]
    · have hstatus : c.traced.session.status = .active := hstreams.status
      simp [Session.beginStop, hstatus]
    · rw [Session.transport_beginStop]
      exact htells
    · obtain rfl | rfl := hcalls <;> rfl

/-- **Closing does what it ought to do** to a running capture: all its reads come back, the device is
shut down once they are, and the sink gets its trailer. -/
structure ClosesCleanly (c : Controller SimulatedDevice σ) (trailer : StreamTrailer) : Prop where
  pending : c.close.1.pending = []
  sink : c.close.2 = Sink.take c.sink (.trailer trailer)
  calls : ∃ calls taken, c.closing = calls ++ [.send Command.shutdown.frame taken] ∧ Quiet calls ∧
    confirmations calls = c.session.transport.pending.map PendingRead.slot

/-- **Closing breaks off**: so many reads came back, the others are left at a device that is shut
down, and the sink gets nothing. -/
structure BreaksOff (c : Controller SimulatedDevice σ) (polls : Nat) : Prop where
  pending : c.close.1.pending.map PendingRead.slot =
    (c.session.transport.pending.map PendingRead.slot).drop polls
  sink : c.close.2 = c.sink
  calls : ∃ calls taken, c.closing = calls ++ [.send Command.shutdown.frame taken] ∧ Quiet calls ∧
    confirmations calls = (c.session.transport.pending.map PendingRead.slot).take polls

theorem close_of_acquiring (hc : c.acquisition = some a) :
    c.traced.close =
      ((pollUntil maxClosePolls (c.traced.beginStop .stopped)).2.2.session.close,
        (pollUntil maxClosePolls (c.traced.beginStop .stopped)).2.2.sink) := by
  have hacquiring : c.traced.isAcquiring = true := isAcquiring_iff.mpr ⟨a, hc⟩
  rw [close, if_pos hacquiring]

/-- There are as many reads to come back as are out. -/
theorem length_of_closing (h : c.Genuine) {reads : List PendingRead}
    (hslots : reads.map PendingRead.slot = c.session.transport.pending.map PendingRead.slot) :
    reads.length = c.outstanding := by
  rw [h.attached.outstanding, ← List.length_map, hslots, List.length_map]

/-- **With no more reads out than polls** closing does what it ought to do. -/
theorem closesCleanly_of_le (h : c.Genuine) (hc : c.acquisition = some a)
    (hholds : c.session.transport.holdsCancellations = false)
    (hle : c.outstanding ≤ maxClosePolls) : c.ClosesCleanly a.trailer := by
  obtain ⟨b, reads, calls, hawaits, htrailer, hslots, hsink, -, htells, hnone⟩ :=
    exists_awaits_of_closing h hc hholds
  have hpolls : reads.length ≤ maxClosePolls := length_of_closing h hslots ▸ hle
  obtain ⟨polls, c₁, hpolls, hcompletes⟩ := hawaits.pollUntil_of_le hpolls (by decide)
  have hclosed : c.traced.close = (c₁.session.transport, c₁.sink) := by
    rw [close_of_acquiring hc, hpolls, Session.close, if_pos hcompletes.status]
  have hempty : c.traced.session.transport.calls = [] := rfl
  obtain ⟨more, taken, hmore, hquiet, hconfirmed⟩ := hcompletes.calls
  refine ⟨?_, ?_, calls ++ more, taken, ?_, quiet_append.mpr ⟨htells.quiet, hquiet⟩, ?_⟩
  · rw [close_traced, hclosed]
    exact hcompletes.pending
  · rw [close_traced, hclosed, hcompletes.sink, hsink, htrailer]
  · rw [closing, hclosed, hmore, htells.calls_eq, hempty, List.nil_append, List.append_assoc]
  · rw [confirmations_append, hnone, List.nil_append, hconfirmed, hslots]

/-- **With more reads out than polls** it breaks off. -/
theorem breaksOff_of_lt (h : c.Genuine) (hc : c.acquisition = some a)
    (hholds : c.session.transport.holdsCancellations = false)
    (hlt : maxClosePolls < c.outstanding) : c.BreaksOff maxClosePolls := by
  obtain ⟨b, reads, calls, hawaits, -, hslots, hsink, hstatus, htells, hnone⟩ :=
    exists_awaits_of_closing h hc hholds
  have hreads : maxClosePolls < reads.length := length_of_closing h hslots ▸ hlt
  obtain ⟨c₁, pool, more, hpolls, hleft, hsink', hstatus', htells', hconfirmed⟩ :=
    hawaits.pollUntil_of_lt hreads
  have hclosed : c.traced.close =
      ((Transport.send c₁.session.transport Command.shutdown.frame).2, c₁.sink) := by
    rw [close_of_acquiring hc, hpolls, Session.close, if_neg (hstatus' ▸ hstatus)]
    rfl
  have hempty : c.traced.session.transport.calls = [] := rfl
  have hsent := SimulatedDevice.send_keeps c₁.session.transport.inner Command.shutdown.frame
  refine ⟨?_, ?_, calls ++ more,
    (Transport.send c₁.session.transport Command.shutdown.frame).1.isOk, ?_,
    quiet_append.mpr ⟨htells.quiet, htells'.quiet⟩, ?_⟩
  · rw [close_traced, hclosed, ← hslots, ← List.map_drop, ← hleft.pending]
    exact congrArg _ hsent.1
  · rw [close_traced, hclosed]
    exact hsink'.trans hsink
  · rw [closing, hclosed]
    show c₁.session.transport.calls ++ _ = _
    rw [htells'.calls_eq, htells.calls_eq, hempty, List.nil_append]
    rfl
  · rw [confirmations_append, hnone, List.nil_append, hconfirmed, List.map_take, hslots]

/-- **When closing does what it ought to do**: if there are no more reads out than polls.  Else it
breaks off, on a device that confirms every cancellation. -/
theorem closesCleanly_iff (h : c.Genuine) (hc : c.acquisition = some a)
    (hholds : c.session.transport.holdsCancellations = false) :
    (c.ClosesCleanly a.trailer ↔ c.outstanding ≤ maxClosePolls) ∧
      (maxClosePolls < c.outstanding → c.BreaksOff maxClosePolls) := by
  refine ⟨⟨?_, closesCleanly_of_le h hc hholds⟩, breaksOff_of_lt h hc hholds⟩
  intro hcloses
  apply Nat.le_of_not_lt
  intro hlt
  have hleft := (breaksOff_of_lt h hc hholds hlt).pending
  rw [hcloses.pending] at hleft
  have hdropped := congrArg List.length hleft
  simp only [List.map_nil, List.length_nil, List.length_drop, List.length_map] at hdropped
  have hpending := h.attached.outstanding
  omega

/-- Closing a capture with two reads out. -/
theorem closesCleanly_of_two_reads :
    ∃ (answers : List Answer) (c : Controller SimulatedDevice (List StreamEvent)),
      (new (.new { model := .lwla1016 } .lwla1016) []).performAll
          [.openDevice, .setTransferPool 2 8, .start] = some (answers, c) ∧
        c.outstanding = 2 ∧ c.ClosesCleanly ⟨0, .stopped⟩ := by
  have hnew := genuine_new (d := { model := .lwla1016 }) rfl .lwla1016 ([] : List StreamEvent)
  have hgenuine := hnew.performAll (by simp [Operation.Genuine])
    (show performAll _ [.openDevice, .setTransferPool 2 8, .start] = _ from rfl)
  exact ⟨_, _, rfl, rfl, (closesCleanly_iff hgenuine rfl rfl).1.mpr (by decide)⟩

/-- **Closing a capture with a read more than polls**: a read is left at the device, and the sink,
which had the header, gets nothing. -/
theorem breaksOff_of_many_reads :
    ∃ (answers : List Answer) (c : Controller SimulatedDevice (List StreamEvent)),
      (new (.new { model := .lwla1016 } .lwla1016) []).performAll
          [.openDevice, .setTransferPool 51 8, .start] = some (answers, c) ∧
        c.session.transport.holdsCancellations = false ∧ c.close.1.pending.length = 1 ∧
        c.close.2 = c.sink :=
  ⟨_, _, rfl, rfl, rfl, rfl⟩

end

end Controller

end LogicAnalyzer
