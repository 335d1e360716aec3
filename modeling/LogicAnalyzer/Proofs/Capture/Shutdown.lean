import LogicAnalyzer.Proofs.Capture.Genuine

/-!
# The end of a capture and the device

The device is shut down by the end of a capture and by nothing else that a controller does, and
then every read that the transport took for the capture has been reported.  This is kept by books:
the notes of a capture under way say which reads are out, and its pool counts them.

## Main definitions

* `Controller.Books`: the pool of a capture is what its notes say
* `Controller.Settles`: the books are kept, or closed by shutting the device down
* `Controller.ShutDownOnceDrained`: shutting down belongs to the end of a capture

## Main results

* `Controller.settles_dispatch`, `settles_poll`, `settles_requestStop`: what keeps or closes the
  books
* `Controller.perform_books`, `Underway.ledger`: the books over one operation, and over a run
* `Controller.shut_down_once_drained`: the device is shut down once it is drained
-/

namespace LogicAnalyzer

/-! ## Frames -/

/-- No other command looks like the one that shuts the device down. -/
theorem Command.frame_eq_shutdown {command : Command} :
    command.frame = shutdown.frame ↔ command = shutdown := by
  constructor
  · intro h
    cases command with
    | selectClock source =>
      have hcode : source.code = ClockSource.none.code := by
        simpa [frame, shutdown] using h
      have hsource := congrArg ClockSource.ofCode? hcode
      rw [ClockSource.ofCode?_code, ClockSource.ofCode?_code] at hsource
      rw [Option.some.inj hsource]
      rfl
    | configureTriggers masks => simp [frame, shutdown, configureTriggersOpcode, selectClockOpcode] at h
    | arm rate limit => simp [frame, shutdown, armOpcode, selectClockOpcode] at h
  · rintro rfl
    rfl

namespace Controller

variable {τ σ : Type}

/-! ## The start -/

/-- What is prepared for a capture does not shut the device down. -/
theorem ledger_of_prepare {c : Controller τ σ} {rate : UInt64} {pool : TransferPool}
    {commands : List Frame} (h : c.prepare rate = .ok (pool, commands)) :
    Command.shutdown.frame ∉ commands ∧ pool.Ledger [] ∧
      ∀ slot : Nat, pool.slots[slot]? ≠ some .inFlight := by
  obtain ⟨hallocate, configure, arm, hconfigure, harm, rfl⟩ := prepare_eq_ok.mp h
  refine ⟨?_, TransferPool.ledger_allocate hallocate⟩
  rw [Command.encode_eq_ok hconfigure, Command.encode_eq_ok harm, List.mem_cons, List.mem_singleton]
  rintro (heq | heq)
  · cases Command.frame_eq_shutdown.mp heq.symm
  · cases Command.frame_eq_shutdown.mp heq.symm

variable [Transport τ]

section

variable {t t' : Traced τ}

theorem tells_sendEach {frames : List Frame} {result : Except TransferError Unit}
    (hframes : Command.shutdown.frame ∉ frames) (h : sendEach t frames = (result, t')) :
    ∃ calls, Tells t calls t' ∧ moments calls = [] := by
  induction frames generalizing t with
  | nil =>
    cases h
    exact ⟨[], .refl _, rfl⟩
  | cons frame rest ih =>
    obtain ⟨hframe, hrest⟩ := not_or.mp (mt List.mem_cons.mpr hframes)
    have hmoments (taken : Bool) : moments [.send frame taken] = [] := by
      simp [moments, Call.moment?, Ne.symm hframe]
    have hsent {taken : Except TransferError Unit} {u : Traced τ}
        (heq : Transport.send t frame = (taken, u)) : Tells t [.send frame taken.isOk] u := by
      cases heq
      refine ⟨rfl, ?_⟩
      rw [Quiet, hmoments]
      exact List.not_mem_nil
    rw [sendEach] at h
    rcases hsend : Transport.send t frame with ⟨e | _, u⟩
    · rw [hsend] at h
      cases h
      exact ⟨_, hsent hsend, hmoments _⟩
    · rw [hsend] at h
      obtain ⟨calls, htells, hnone⟩ := ih hrest h
      refine ⟨_, (hsent hsend).trans htells, ?_⟩
      rw [moments_append, hmoments, hnone, List.append_nil]

/-- All buffers of a new pool are submitted, and the books are opened with that. -/
theorem tells_submitAll {pool pool' : TransferPool} {result : Except TransferError Nat}
    (hpool : pool.Ledger []) (hparked : ∀ slot : Nat, pool.slots[slot]? ≠ some .inFlight)
    (h : pool.submitAll t = (result, pool', t')) :
    ∃ calls, Tells t calls t' ∧ pool'.Ledger (moments calls) := by
  unfold TransferPool.submitAll at h
  split at h
  · cases h
    exact ⟨[], .refl _, hpool⟩
  · exact hpool.submitEach_traced List.nodup_range (fun slot _ => hparked slot) h

/-- **A launch** opens the books, and in any case does not shut the device down. -/
theorem tells_launch {pool : TransferPool} {commands : List Frame}
    {result : Except TransferError TransferPool} (hcommands : Command.shutdown.frame ∉ commands)
    (hpool : pool.Ledger []) (hparked : ∀ slot : Nat, pool.slots[slot]? ≠ some .inFlight)
    (h : launch t pool commands = some (result, t')) :
    ∃ calls, Tells t calls t' ∧ ∀ launched, result = .ok launched → launched.Ledger (moments calls) := by
  unfold launch at h
  rcases hsend : sendEach t commands with ⟨e | _, u⟩
  · rw [hsend] at h
    cases h
    obtain ⟨calls, htells, -⟩ := tells_sendEach hcommands hsend
    exact ⟨calls, htells, by simp⟩
  · rw [hsend] at h
    obtain ⟨calls, htells, hnone⟩ := tells_sendEach hcommands hsend
    rcases hsubmit : pool.submitAll u with ⟨e | _, pool', u'⟩
    · obtain ⟨more, htells', -⟩ := tells_submitAll hpool hparked hsubmit
      simp only [hsubmit] at h
      obtain ⟨⟨abandoned, u''⟩, habandon, heq⟩ := Option.map_eq_some_iff.mp h
      cases heq
      obtain ⟨last, htells''⟩ := TransferPool.exists_tells_abandon habandon
      exact ⟨_, (htells.trans htells').trans htells'', by simp⟩
    · obtain ⟨more, htells', hledger⟩ := tells_submitAll hpool hparked hsubmit
      simp only [hsubmit] at h
      cases h
      refine ⟨_, htells.trans htells', ?_⟩
      intro launched heq
      cases heq
      rwa [moments_append, hnone, List.nil_append]

end

/-- A setting does not shut the device down. -/
theorem exists_tells_tuned {s s' : Session (Traced τ)} (h : s.Tuned s')
    (hclock : s.clockSource ≠ .none) :
    ∃ calls, Tells s.transport calls s'.transport ∧ moments calls = [] := by
  obtain heq | ⟨source, hsource, heq⟩ := h.told hclock
  · rw [heq]
    exact ⟨[], .refl _, rfl⟩
  · have hframe : (Command.selectClock source).frame ≠ Command.shutdown.frame := by
      rw [ne_eq, Command.frame_eq_shutdown, Command.shutdown, Command.selectClock.injEq]
      exact hsource
    have hnone (taken : Bool) : moments [.send (Command.selectClock source).frame taken] = [] := by
      simp [moments, Call.moment?, hframe]
    refine ⟨_, ⟨by rw [heq]; rfl, ?_⟩, hnone _⟩
    rw [Quiet, hnone]
    exact List.not_mem_nil

/-! ## The books of a capture -/

/-- **The pool of a capture is what its notes say**: these and what its transport was told
since `t`. -/
def Books (notes : List Moment) (t : Traced τ) (c : Controller (Traced τ) σ) : Prop :=
  ∃ a calls, c.acquisition = some a ∧ Tells t calls c.session.transport ∧
    a.pool.Ledger (notes ++ moments calls)

/-- **The books are kept**, or the capture has ended and they are closed: every read is matched, and
after that the device was shut down. -/
inductive Settles (notes : List Moment) (t : Traced τ) : Controller (Traced τ) σ → Prop where
  | goesOn {c : Controller (Traced τ) σ} (books : Books notes t c) : Settles notes t c
  | ends {c : Controller (Traced τ) σ} {calls : List Call} {taken : Bool}
      (idle : c.acquisition = none)
      (calls_eq : c.session.transport.calls =
        t.calls ++ (calls ++ [.send Command.shutdown.frame taken]))
      (quiet : Quiet calls) (matched : Matched (notes ++ moments calls)) : Settles notes t c

variable {notes : List Moment} {t : Traced τ} {c c₁ : Controller (Traced τ) σ} {a : Acquisition}

theorem Books.beginStop (h : Books notes t c) (reason : EndReason) :
    Books notes t (c.beginStop reason) := by
  obtain ⟨a, calls, hc, htells, hledger⟩ := h
  cases hstopping : a.stopping with
  | true =>
    rw [beginStop_of_stopping hc hstopping]
    exact ⟨a, calls, hc, htells, hledger⟩
  | false =>
    obtain ⟨more, htells', hmore⟩ :=
      TransferPool.exists_tells_cancelAll a.pool c.session.transport
    have hnone : moments more = [] := by
      obtain rfl | rfl := hmore <;> rfl
    rw [beginStop_of_streams hc hstopping]
    refine ⟨_, calls ++ more, rfl, ?_, ?_⟩
    · rw [Session.transport_beginStop]
      exact htells.trans htells'
    · rw [moments_append, hnone, List.append_nil]
      exact hledger.cancelAll _

variable [Sink σ]

/-- The capture ends if its end has begun and its pool counts no read as out. -/
theorem Books.finishIfDrained (h : Books notes t c) : Settles notes t c.finishIfDrained.2 := by
  obtain ⟨-, heq⟩ | ⟨b, hb, -, hdrained, heq⟩ := finishIfDrained_cases c
  · rw [heq]
    exact .goesOn h
  · obtain ⟨a, calls, hc, htells, hledger⟩ := h
    cases hb.symm.trans hc
    have hsent : (Transport.send c.session.transport Command.shutdown.frame).2.calls =
        t.calls ++ (calls ++ [.send Command.shutdown.frame
          (Transport.send c.session.transport Command.shutdown.frame).1.isOk]) := by
      rw [← List.append_assoc, ← htells.calls_eq]
      rfl
    rw [heq]
    exact .ends rfl hsent htells.quiet (hledger.matched hdrained)

/-- A report that the pool accepts is entered, whatever becomes of its buffer. -/
theorem Handles.books {event : ReadEvent} (h : c.Handles a event c₁)
    (hslot : a.pool.slots[event.slot]? = some .inFlight) {calls : List Call}
    (htells : Tells t calls c.session.transport) (hnone : moments calls = [])
    (hledger : a.pool.Ledger notes) : Books (notes ++ event.notes) t c₁ := by
  have hsettled : (a.pool.settle event).Ledger (notes ++ event.notes ++ moments calls) := by
    rw [hnone, List.append_nil]
    exact hledger.settle hslot
  have hresubmitted {buffer : Buffer} {result : Except TransferError Unit} {pool : TransferPool}
      {transport : Traced τ} (hresubmit : (a.pool.accept event).2.resubmit c.session.transport
        event.slot buffer = (result, pool, transport)) :
      ∃ more, Tells t more transport ∧ pool.Ledger (notes ++ event.notes ++ moments more) := by
    obtain ⟨hempty, haccepted⟩ := hledger.accept hslot
    obtain ⟨more, htells', hpool⟩ := haccepted.resubmit_traced hempty hresubmit
    exact ⟨calls ++ more, htells.trans htells', by rwa [moments_append, hnone, List.nil_append]⟩
  cases h with
  | parks why => exact ⟨_, calls, rfl, htells, hsettled⟩
  | fails stopping outcome asked =>
    apply Books.beginStop
    exact ⟨_, calls, rfl, htells, hsettled⟩
  | concludes stopping outcome hreason =>
    apply Books.beginStop
    exact ⟨_, calls, rfl, htells, hsettled⟩
  | resubmits stopping outcome hresubmit =>
    obtain ⟨more, htells', hpool⟩ := hresubmitted hresubmit
    exact ⟨_, more, rfl, htells', hpool⟩
  | refuses stopping outcome hresubmit =>
    obtain ⟨more, htells', hpool⟩ := hresubmitted hresubmit
    apply Books.beginStop
    exact ⟨_, more, rfl, htells', hpool⟩

theorem settles_dispatch (hc : c.acquisition = some a) {calls : List Call}
    (htells : Tells t calls c.session.transport) (hnone : moments calls = [])
    (hledger : a.pool.Ledger notes) (event : ReadEvent) :
    Settles (notes ++ c.acceptance (.dispatch event)) t (c.dispatch event).2 := by
  obtain ⟨hslot, heq⟩ | ⟨hslot, c₁, hhandles, heq⟩ := dispatch_cases hc event
  · rw [acceptance_of_not_inFlight hc rfl hslot, heq, List.append_nil]
    have hbooks : Books notes t c := ⟨a, calls, hc, htells, by rwa [hnone, List.append_nil]⟩
    exact hbooks.finishIfDrained
  · rw [acceptance_of_inFlight hc rfl hslot, heq]
    exact (hhandles.books hslot htells hnone hledger).finishIfDrained

/-- A poll first asks the transport, and that does not count. -/
theorem settles_poll (hc : c.acquisition = some a) (hledger : a.pool.Ledger notes) :
    Settles (notes ++ c.acceptance .poll) c.session.transport c.poll.2 := by
  have hasked {event : Option ReadEvent} {transport : Traced τ}
      (heq : Transport.next c.session.transport = (event, transport)) :
      Tells c.session.transport [.next event] transport := by
    cases heq
    exact ⟨rfl, List.not_mem_nil⟩
  obtain ⟨event, transport, hnext, heq⟩ | ⟨transport, hnext, heq⟩ := poll_cases hc
  · have hevent : (c.withTransport transport).acceptance (.dispatch event) = c.acceptance .poll := by
      have hpoll : c.event? .poll = some event := congrArg Prod.fst hnext
      simp only [acceptance, hpoll]
      rfl
    rw [heq, ← hevent]
    exact settles_dispatch (c := c.withTransport transport) hc (hasked hnext) rfl hledger event
  · have hbooks : Books notes c.session.transport (c.withTransport transport) :=
      ⟨a, _, hc, hasked hnext, hledger.skip fun _ => rfl⟩
    have hevent : c.event? .poll = none := congrArg Prod.fst hnext
    rw [heq, acceptance_of_none hevent, List.append_nil]
    exact hbooks.finishIfDrained

theorem settles_requestStop (hc : c.acquisition = some a) (hledger : a.pool.Ledger notes) :
    Settles notes c.session.transport c.requestStop.2 := by
  have hbooks : Books notes c.session.transport c :=
    ⟨a, [], hc, .refl _, by rwa [moments_nil, List.append_nil]⟩
  obtain heq | ⟨b, -, -, heq⟩ := requestStop_cases c
  · rw [heq]
    exact .goesOn hbooks
  · rw [heq]
    exact (hbooks.beginStop .stopped).finishIfDrained

/-! ## One operation -/

section

variable {c c' : Controller τ σ} {op : Operation τ} {answer : Answer}

omit [Transport τ] in
/-- The owner of a transport has no hand in its trace. -/
theorem tells_of_traced {change : Traced τ → Traced τ} (h : op.traced = .adjust change)
    (t : Traced τ) : Tells t [] (change t) := by
  cases op <;> cases h
  exact ⟨(List.append_nil _).symm, quiet_nil⟩

/-- What an operation does to the books of a capture that is running. -/
theorem settles_perform (hclock : c.session.clockSource ≠ .none) (hc : c.acquisition = some a)
    (hledger : a.pool.Ledger notes) {d : Controller (Traced τ) σ}
    (hd : c.traced.perform op.traced = some (answer, d)) :
    Settles (notes ++ c.acceptance op) c.traced.session.transport d := by
  have hbooks : Books notes c.traced.session.transport c.traced :=
    ⟨a, [], hc, .refl _, by rwa [moments_nil, List.append_nil]⟩
  rw [← acceptance_traced]
  generalize hop : op.traced = traced at hd
  cases performs_of_perform hd with
  | tunes event tuned =>
    rw [acceptance_of_none event, List.append_nil]
    obtain ⟨calls, htells, hnone⟩ := exists_tells_tuned tuned hclock
    exact .goesOn ⟨a, calls, hc, htells, by rwa [hnone, List.append_nil]⟩
  | resizes poolSize bufferSize =>
    rw [acceptance_of_none rfl, List.append_nil]
    exact .goesOn hbooks
  | adjusts change =>
    rw [acceptance_of_none rfl, List.append_nil]
    exact .goesOn ⟨a, [], hc, tells_of_traced hop _, by rwa [moments_nil, List.append_nil]⟩
  | starts hstart =>
    rw [acceptance_of_none rfl, List.append_nil]
    obtain ⟨e, hrefused⟩ := start_of_acquiring (c := c.traced) hc
    cases hrefused.symm.trans hstart
    exact .goesOn hbooks
  | requestsStop =>
    rw [acceptance_of_none rfl, List.append_nil]
    exact settles_requestStop (c := c.traced) hc hledger
  | dispatches event => exact settles_dispatch (c := c.traced) hc (.refl _) rfl hledger event
  | polls => exact settles_poll (c := c.traced) hc hledger

/-- What an operation tells the transport when no capture is running, and the books of the capture
that it starts. -/
theorem tells_perform_of_idle (hclock : c.session.clockSource ≠ .none) (hc : c.acquisition = none)
    {d : Controller (Traced τ) σ} (hd : c.traced.perform op.traced = some (answer, d)) :
    ∃ calls, Tells c.traced.session.transport calls d.session.transport ∧
      ∀ a, d.acquisition = some a → a.pool.Ledger (moments calls) := by
  have hidle {c' : Controller (Traced τ) σ} {calls : List Call} (hc' : c'.acquisition = none)
      (htells : Tells c.traced.session.transport calls c'.session.transport) :
      ∃ calls, Tells c.traced.session.transport calls c'.session.transport ∧
        ∀ a, c'.acquisition = some a → a.pool.Ledger (moments calls) :=
    ⟨calls, htells, by simp [hc']⟩
  generalize hop : op.traced = traced at hd
  cases performs_of_perform hd with
  | tunes event tuned =>
    obtain ⟨calls, htells, -⟩ := exists_tells_tuned tuned hclock
    exact hidle hc htells
  | resizes poolSize bufferSize => exact hidle hc (.refl _)
  | adjusts change =>
    exact hidle hc (tells_of_traced hop _)
  | @starts result d hstart =>
    cases result with
    | error e =>
      obtain rfl | ⟨pool, commands, e', transport, hprepare, hlaunch, rfl⟩ := start_error_cases hstart
      · exact hidle hc (.refl _)
      · obtain ⟨hframes, hpool, hparked⟩ := ledger_of_prepare hprepare
        obtain ⟨calls, htells, -⟩ := tells_launch hframes hpool hparked hlaunch
        exact hidle hc htells
    | ok =>
      obtain ⟨e, transport, hno, -⟩ | ⟨-, -, -, pool, commands, pool', transport, hprepare,
        hlaunch, rfl⟩ := start_cases hstart
      · cases hno
      · obtain ⟨hframes, hpool, hparked⟩ := ledger_of_prepare hprepare
        obtain ⟨calls, htells, hledger⟩ := tells_launch hframes hpool hparked hlaunch
        refine ⟨calls, htells, ?_⟩
        rintro a ha
        cases ha
        exact hledger pool' rfl
  | requestsStop =>
    rw [requestStop_of_idle (c := c.traced) hc]
    exact hidle hc (.refl _)
  | dispatches event =>
    rw [dispatch_of_idle (c := c.traced) hc event]
    exact hidle hc (.refl _)
  | polls =>
    rw [poll_of_idle (c := c.traced) hc]
    exact hidle hc (.refl _)

/-- **What an operation does to a capture that is running**: its books are kept, or they are closed
and the device is shut down. -/
theorem perform_books (hclock : c.session.clockSource ≠ .none) (hc : c.acquisition = some a)
    (hledger : a.pool.Ledger notes) (hop : c.perform op = some (answer, c')) :
    (∃ a', c'.acquisition = some a' ∧ a'.pool.Ledger (notes ++ c.notes op) ∧ Quiet (c.calls op)) ∨
      c'.acquisition = none ∧ ∃ calls taken,
        c.calls op = calls ++ [.send Command.shutdown.frame taken] ∧ Quiet calls ∧
        Matched (notes ++ (c.acceptance op ++ moments calls)) := by
  obtain ⟨d, hd, rfl, hcalls⟩ := perform_traced hop
  have hsettles := settles_perform hclock hc hledger hd
  rw [Controller.notes, ← hcalls]
  cases hsettles with
  | goesOn books =>
    obtain ⟨a', calls, ha', htells, hledger'⟩ := books
    have heq : d.session.transport.calls = calls := htells.calls_eq
    rw [heq]
    exact .inl ⟨a', ha', by rwa [← List.append_assoc], htells.quiet⟩
  | ends idle calls_eq quiet matched =>
    exact .inr ⟨idle, _, _, calls_eq, quiet, by rwa [← List.append_assoc]⟩

/-- **What an operation does when no capture is running**: it does not shut the device down, and if
it starts a capture it opens the books of that. -/
theorem perform_books_of_idle (hclock : c.session.clockSource ≠ .none) (hc : c.acquisition = none)
    (hop : c.perform op = some (answer, c')) :
    Quiet (c.calls op) ∧ ∀ a, c'.acquisition = some a → a.pool.Ledger (c.notes op) := by
  obtain ⟨d, hd, rfl, hcalls⟩ := perform_traced hop
  obtain ⟨calls, htells, hledger⟩ := tells_perform_of_idle hclock hc hd
  have heq : d.session.transport.calls = calls := htells.calls_eq
  have hnotes : c.notes op = moments calls := by
    rw [Controller.notes, ← hcalls, heq]
    unfold acceptance
    rw [hc]
    rfl
  rw [← hcalls, heq, hnotes]
  exact ⟨htells.quiet, hledger⟩

end

/-! ## Over a run -/

variable {c c' c₀ : Controller τ σ} {op : Operation τ} {answer : Answer}
  {allowed : Operation τ → Prop}

theorem shutdown_notMem_notes (h : Quiet (c.calls op)) : .shutdown ∉ c.notes op := by
  rw [Controller.notes, List.mem_append, not_or]
  exact ⟨shutdown_notMem_acceptance c op, h⟩

/-- **A capture under way has its books**, and the device was not shut down. -/
theorem Underway.ledger (h : Underway allowed c₀ notes c)
    (hclock : c₀.session.clockSource ≠ .none) :
    c.session.clockSource ≠ .none ∧ .shutdown ∉ notes ∧
      ∃ a, c.acquisition = some a ∧ a.pool.Ledger notes := by
  induction h with
  | @start c hop =>
    obtain ⟨⟨result, c₁⟩, hstart, heq⟩ := Option.map_eq_some_iff.mp hop
    cases heq
    obtain ⟨e, transport, hno, -⟩ | ⟨-, -, hidle, pool, commands, pool', transport, -, -, rfl⟩ :=
      start_cases hstart
    · cases hno
    · obtain ⟨hquiet, hledger⟩ := perform_books_of_idle hclock hidle hop
      exact ⟨clockSource_perform hclock hop, shutdown_notMem_notes hquiet, _, rfl, hledger _ rfl⟩
  | @perform notes c c' op answer h hallowed hop hacquiring ih =>
    obtain ⟨hclock', hnever, a, hc, hledger⟩ := ih
    obtain ⟨a', hc', hledger', hquiet⟩ | ⟨hidle, -⟩ := perform_books hclock' hc hledger hop
    · refine ⟨clockSource_perform hclock' hop, ?_, a', hc', hledger'⟩
      rw [List.mem_append, not_or]
      exact ⟨hnever, shutdown_notMem_notes hquiet⟩
    · simp [isAcquiring, hidle] at hacquiring

/-- **One more operation on a capture under way**: it does not shut the device down, or it ends the
capture and does, once every read is matched. -/
theorem Underway.books (h : Underway allowed c₀ notes c)
    (h₀ : c₀.ReachableBy Session.AtRest allowed) (hop : c.perform op = some (answer, c')) :
    .shutdown ∉ notes ∧ ((c'.isAcquiring = true ∧ Quiet (c.calls op)) ∨ ∃ calls taken,
      c'.isAcquiring = false ∧ c.calls op = calls ++ [.send Command.shutdown.frame taken] ∧
      Quiet calls ∧ Matched (notes ++ (c.acceptance op ++ moments calls))) := by
  obtain ⟨hclock, hnever, a, hc, hledger⟩ := h.ledger (h₀.clock fun _ => id)
  refine ⟨hnever, ?_⟩
  obtain ⟨a', hc', -, hquiet⟩ | ⟨hc', calls, taken, hcalls, hquiet, hmatched⟩ :=
    perform_books hclock hc hledger hop
  · exact .inl ⟨isAcquiring_iff.mpr ⟨a', hc'⟩, hquiet⟩
  · exact .inr ⟨calls, taken, isAcquiring_eq_false.mpr hc', hcalls, hquiet, hmatched⟩

/-- From `c` to `c'` the capture that was running has ended. -/
def Ends (c c' : Controller τ σ) : Prop := c.isAcquiring = true ∧ c'.isAcquiring = false

/-- **Shutting the device down belongs to the end of a capture.**  It is the last that the transport
hears in the operation that leads from `c` to `c'` if that ends the capture, and else is not heard
at all.  The capture that ends has never done it before, and every read that the transport took for
it has been matched by one report. -/
structure ShutDownOnceDrained (allowed : Operation τ → Prop) (c : Controller τ σ)
    (op : Operation τ) (c' : Controller τ σ) : Prop where
  last : c.Ends c' → ∃ calls taken,
    c.calls op = calls ++ [.send Command.shutdown.frame taken] ∧ Quiet calls
  never : ¬c.Ends c' → Quiet (c.calls op)
  underway : c.isAcquiring = true → ∃ c₀ notes,
    c₀.ReachableBy Session.AtRest allowed ∧ Underway allowed c₀ notes c
  drained : ∀ c₀ notes, c₀.ReachableBy Session.AtRest allowed → Underway allowed c₀ notes c →
    .shutdown ∉ notes ∧ (c.Ends c' → ∃ more,
      c.notes op = more ++ [.shutdown] ∧ .shutdown ∉ more ∧ Matched (notes ++ more))

/-- One operation on any transport, whatever is dispatched. -/
theorem shutDownOnceDrained_perform (h : c.ReachableBy Session.AtRest allowed)
    (hop : c.perform op = some (answer, c')) : c.ShutDownOnceDrained allowed op c' := by
  have hclock := h.clock fun _ => id
  have hunderway (hc : c.isAcquiring = true) : ∃ c₀ notes,
      c₀.ReachableBy Session.AtRest allowed ∧ Underway allowed c₀ notes c := by
    obtain ⟨c₀, notes, h₀, -, hunderway⟩ := h.exists_underway hc
    exact ⟨c₀, notes, h₀, hunderway⟩
  refine ⟨?_, ?_, hunderway, ?_⟩
  · rintro ⟨hacquiring, hidle⟩
    obtain ⟨c₀, notes, h₀, hrun⟩ := hunderway hacquiring
    obtain ⟨-, ⟨hstill, -⟩ | ⟨calls, taken, -, hcalls, hquiet, -⟩⟩ := hrun.books h₀ hop
    · cases hidle.symm.trans hstill
    · exact ⟨calls, taken, hcalls, hquiet⟩
  · intro hnot
    cases hacquiring : c.isAcquiring with
    | true =>
      obtain ⟨c₀, notes, h₀, hrun⟩ := hunderway hacquiring
      obtain ⟨-, ⟨-, hquiet⟩ | ⟨calls, taken, hidle, -⟩⟩ := hrun.books h₀ hop
      · exact hquiet
      · exact absurd ⟨hacquiring, hidle⟩ hnot
    | false => exact (perform_books_of_idle hclock (isAcquiring_eq_false.mp hacquiring) hop).1
  · intro c₀ notes h₀ hrun
    obtain ⟨hnever, hcase⟩ := hrun.books h₀ hop
    refine ⟨hnever, ?_⟩
    rintro ⟨-, hidle⟩
    obtain ⟨hstill, -⟩ | ⟨calls, taken, -, hcalls, hquiet, hmatched⟩ := hcase
    · cases hidle.symm.trans hstill
    · refine ⟨c.acceptance op ++ moments calls, ?_, ?_, hmatched⟩
      · rw [Controller.notes, hcalls, moments_append, List.append_assoc]
        rfl
      · rw [List.mem_append, not_or]
        exact ⟨shutdown_notMem_acceptance c op, hquiet⟩

/-- **The device is shut down once it is drained.**  On any transport and over any operations it is
shut down by the end of a capture, once, and by nothing else, when every read that was submitted for
the capture has been matched by one report.  If the events come from the simulated device, no read
is pending there then. -/
theorem shut_down_once_drained :
    (∀ {τ σ : Type} [Transport τ] [Sink σ] {allowed : Operation τ → Prop} {c c' : Controller τ σ}
        {op : Operation τ} {answer : Answer},
      c.ReachableBy Session.AtRest allowed → c.perform op = some (answer, c') →
        c.ShutDownOnceDrained allowed op c') ∧
      ∀ {σ : Type} [Sink σ] {c c' : Controller SimulatedDevice σ} {op : Operation SimulatedDevice}
          {answer : Answer},
        c.Genuine → op.Genuine → c.perform op = some (answer, c') → .shutdown ∈ c.notes op →
          c'.session.transport.pending = [] := by
  refine ⟨shutDownOnceDrained_perform, ?_⟩
  intro σ _ c c' op answer h hgenuine hop hshutdown
  have hrest : c.ReachableBy Session.AtRest Operation.Genuine := h.mono fun _ => And.left
  have hends : c.Ends c' := by
    apply Classical.byContradiction
    intro hnot
    exact shutdown_notMem_notes ((shutDownOnceDrained_perform hrest hop).never hnot) hshutdown
  have hattached : c'.Attached := Genuine.attached (h.perform hgenuine hop)
  exact hattached.idle (isAcquiring_eq_false.mp hends.2)

/-- A capture on the simulated device that was asked to end, and the poll that ends it. -/
theorem shut_down_of_stopped_capture :
    ∃ (answers : List Answer) (c c' : Controller SimulatedDevice (List StreamEvent)),
      (new (.new { model := .lwla1016 } .lwla1016) []).performAll
          [.openDevice, .setTransferPool 1 8, .start, .requestStop] = some (answers, c) ∧
        c.perform .poll = some (.progress (.finished ⟨0, .stopped⟩), c') ∧
        c.ShutDownOnceDrained Operation.Genuine .poll c' ∧
        .shutdown ∈ c.notes .poll ∧ c'.session.transport.pending = [] := by
  have hnew := genuine_new (d := { model := .lwla1016 }) rfl .lwla1016 ([] : List StreamEvent)
  have hgenuine := hnew.performAll (by simp [Operation.Genuine])
    (show performAll _ [.openDevice, .setTransferPool 1 8, .start, .requestStop] = _ from rfl)
  have hrest : ReachableBy Session.AtRest _ _ := hgenuine.mono fun _ => And.left
  have hgenuineOp : Operation.Genuine .poll := trivial
  have hshutdown : Moment.shutdown ∈ [Moment.reported 0, .shutdown] := by simp
  exact ⟨_, _, _, rfl, rfl, shut_down_once_drained.1 hrest rfl, hshutdown,
    shut_down_once_drained.2 hgenuine hgenuineOp rfl hshutdown⟩

end Controller

end LogicAnalyzer
