import LogicAnalyzer.Proofs.Capture.Shutdown

/-!
# How many reads a running capture has

A capture starts with a read in every slot of its pool, and while it runs its owner expects it to
stay so: what a read brought is decoded and its buffer submitted again, and if that cannot be done
the end begins.  There is one exception.  A device may report that a read failed because it was
cancelled, though nobody asked for it.  The pool takes such a failure for a cancellation, parks the
buffer, and the capture runs on with one read less.

## Main results

* `Controller.perform_outstanding`: what one operation does to the number of reads
* `Controller.outstanding_of_running`: the reads that are out and those that were withdrawn make up
  the pool
* `Controller.stranded_of_withdrawn`: a capture that has lost all its reads, and runs for ever
-/

namespace LogicAnalyzer

theorem count_withdrawn_moments (calls : List Call) : (moments calls).count .withdrawn = 0 := by
  rw [List.count_eq_zero, moments, List.mem_filterMap]
  rintro ⟨call, -, hcall⟩
  unfold Call.moment? at hcall
  split at hcall
  · cases hcall
  · split at hcall <;> cases hcall
  · cases hcall

namespace Controller

variable {σ : Type} [Sink σ] {c c' : Controller SimulatedDevice σ} {a a' : Acquisition}

/-! ## What leaves a capture running -/

section

variable {τ : Type} [Transport τ] {c : Controller τ σ}

theorem count_withdrawn_notes (c : Controller τ σ) (op : Operation τ) :
    (c.notes op).count .withdrawn = (c.acceptance op).count .withdrawn := by
  rw [notes, List.count_append, count_withdrawn_moments, Nat.add_zero]

/-- A capture that runs after this was running before. -/
theorem acquisition_of_finishIfDrained (h : c.finishIfDrained.2.acquisition = some a) :
    c.acquisition = some a := by
  obtain ⟨-, heq⟩ | ⟨b, -, -, -, heq⟩ := finishIfDrained_cases c
  · rwa [heq] at h
  · rw [heq] at h
    cases h

omit [Sink σ] in
theorem stopping_of_beginStop {reason : EndReason} (h : (c.beginStop reason).acquisition = some a) :
    a.stopping = true := by
  obtain ⟨hstopping, heq⟩ | ⟨b, -, -, heq⟩ := beginStop_cases c reason
  · rw [heq] at h
    exact hstopping a h
  · rw [heq] at h
    cases h
    rfl

end

/-! ## One operation -/

/-- **A report that the device has given** leaves a capture running with as many reads as before, or
with one less if the read was withdrawn. -/
theorem Handles.outstanding {event : ReadEvent} {c₁ : Controller SimulatedDevice σ}
    (h : c.Handles a event c₁) (hslot : a.pool.slots[event.slot]? = some .inFlight)
    (hfailed : a.stopping = false → a.failed = false) (hasked : event.outcome = .cancelled → a.stopping = true)
    (hrequested : a.pool.cancelRequested = a.stopping) (hpos : 0 < a.pool.outstanding)
    (hc₁ : c₁.acquisition = some a') (hrunning : a'.stopping = false) :
    a.stopping = false ∧ a'.pool.size = a.pool.size ∧
      a'.pool.outstanding + event.notes.count .withdrawn = a.pool.outstanding := by
  cases h with
  | parks why =>
    cases hc₁
    have hstopping : a.stopping = false := hrunning
    obtain ⟨houtstanding, hsize⟩ := TransferPool.outstanding_settle_of_inFlight hslot
    have hwithdrawn : event.outcome = .failed .cancelled := by
      rcases why with houtcome | houtcome | hstop | hfail
      · cases hstopping.symm.trans (hasked houtcome)
      · exact houtcome
      · cases hstopping.symm.trans hstop
      · cases (hfailed hstopping).symm.trans hfail
    refine ⟨hstopping, hsize, ?_⟩
    have hcount : event.notes.count .withdrawn = 1 := by
      rw [ReadEvent.notes, if_pos hwithdrawn]
      rfl
    rw [hcount]
    dsimp only
    omega
  | fails stopping outcome asked => simp [stopping_of_beginStop hc₁] at hrunning
  | concludes stopping outcome hreason => simp [stopping_of_beginStop hc₁] at hrunning
  | resubmits stopping outcome hresubmit =>
    cases hc₁
    have hcount : event.notes.count .withdrawn = 0 := by
      rw [ReadEvent.notes, outcome]
      rfl
    have hgoesOn : ¬a.pool.cancelRequested = true := by simp [hrequested, stopping]
    rw [TransferPool.accept_of_inFlight hslot, TransferPool.resubmit, if_neg hgoesOn] at hresubmit
    obtain ⟨houtstanding, hsize⟩ := TransferPool.outstanding_of_submit_ok hresubmit
    refine ⟨stopping, hsize.trans List.length_set, ?_⟩
    rw [hcount]
    dsimp only at houtstanding ⊢
    omega
  | refuses stopping outcome hresubmit => simp [stopping_of_beginStop hc₁] at hrunning

/-- **What one operation does to the number of reads** of a capture that runs after it. -/
theorem perform_outstanding {op : Operation SimulatedDevice} {answer : Answer}
    (hattached : c.Attached) (hlife : c.Lifecycle) (hgenuine : op.Genuine)
    (hop : c.perform op = some (answer, c')) (hc : c.acquisition = some a)
    (hc' : c'.acquisition = some a') (hrunning : a'.stopping = false) :
    a.stopping = false ∧ a'.pool.size = a.pool.size ∧
      a'.pool.outstanding + (c.notes op).count .withdrawn = a.pool.outstanding := by
  rw [count_withdrawn_notes]
  have hsame (hevent : c.event? op = none) (hkept : c.acquisition = some a') :
      a.stopping = false ∧ a'.pool.size = a.pool.size ∧
        a'.pool.outstanding + (c.acceptance op).count .withdrawn = a.pool.outstanding := by
    cases hkept.symm.trans hc
    rw [acceptance_of_none hevent]
    exact ⟨hrunning, rfl, rfl⟩
  cases performs_of_perform hop with
  | tunes event tuned => exact hsame event hc'
  | resizes poolSize bufferSize => exact hsame rfl hc'
  | adjusts change => exact hsame rfl hc'
  | starts hstart =>
    obtain ⟨e, hrefused⟩ := start_of_acquiring hc
    cases hrefused.symm.trans hstart
    exact hsame rfl hc'
  | requestsStop =>
    obtain heq | ⟨b, -, -, heq⟩ := requestStop_cases c
    · rw [heq] at hc'
      exact hsame rfl hc'
    · rw [heq] at hc'
      simp [stopping_of_beginStop (acquisition_of_finishIfDrained hc')] at hrunning
  | dispatches event => cases hgenuine
  | polls =>
    have hinStep := hattached.inStep a hc
    obtain ⟨event, read, d, c₁, hnext, hpending, -, hcancelled, hinFlight, hhandles, heq⟩ |
      ⟨hnext, heq⟩ := hattached.poll_reports hc
    · have hevent : c.event? .poll = some event := congrArg Prod.fst hnext
      have hfailed (hstopping : a.stopping = false) : a.failed = false :=
        (hlife.streams a hc hstopping).failed
      have hpos : 0 < a.pool.outstanding := by
        rw [hinStep.expects.outstanding, hpending]
        exact Nat.zero_lt_succ _
      rw [heq] at hc'
      rw [acceptance_of_inFlight hc hevent hinFlight]
      exact hhandles.outstanding hinFlight hfailed hcancelled.mp hinStep.cancelRequested hpos
        (acquisition_of_finishIfDrained hc') hrunning
    · have hevent : c.event? .poll = none := congrArg Prod.fst hnext
      rw [heq] at hc'
      exact hsame hevent (acquisition_of_finishIfDrained hc')

/-! ## Over a run -/

/-- All reads of a pool are out once a launch has worked. -/
theorem outstanding_of_launch_ok {τ : Type} [Transport τ] {t t' : τ} {pool pool' : TransferPool}
    {frames : List Frame} {size bufferSize : Nat}
    (hallocate : TransferPool.allocate size bufferSize = .ok pool)
    (h : launch t pool frames = some (.ok pool', t')) :
    pool'.outstanding = size ∧ pool'.size = size := by
  have hnew := TransferPool.allocate_eq_ok hallocate
  have hsize : pool.size = size := by
    rw [hnew]
    exact List.length_replicate
  have hparked : ∀ slot ∈ List.range pool.size, ∃ buffer,
      pool.slots[slot]? = some (.parked buffer) := by
    intro slot hmem
    have hlt : slot < size := hsize ▸ List.mem_range.mp hmem
    rw [hnew]
    exact ⟨.allocate bufferSize, by rw [List.getElem?_replicate, if_pos hlt]⟩
  obtain ⟨t₁, count, -, hsubmit⟩ := exists_of_launch_ok h
  rw [TransferPool.submitAll, TransferPool.cancelRequested_of_allocate hallocate] at hsubmit
  obtain ⟨houtstanding, hkept⟩ :=
    TransferPool.outstanding_of_submitEach_ok List.nodup_range hparked hsubmit
  have hnone : pool.outstanding = 0 := by rw [hnew]
  rw [hkept, houtstanding, List.length_range, hsize, hnone]
  omega

variable {c₀ : Controller SimulatedDevice σ} {notes : List Moment}

/-- Over a run the reads that are out and those that were withdrawn make up the pool. -/
theorem Underway.outstanding (h : Underway Operation.Genuine c₀ notes c) (h₀ : c₀.Genuine)
    (hc : c.acquisition = some a) (hrunning : a.stopping = false) :
    a.pool.size = c₀.poolSize ∧ a.pool.outstanding + notes.count .withdrawn = c₀.poolSize := by
  induction h generalizing a with
  | @start c hop =>
    obtain ⟨⟨result, c₁⟩, hstart, heq⟩ := Option.map_eq_some_iff.mp hop
    cases heq
    obtain ⟨e, transport, hno, -⟩ | ⟨-, -, -, pool, commands, pool', d, hprepare, hlaunch, rfl⟩ :=
      start_cases hstart
    · cases hno
    · cases hc
      obtain ⟨hallocate, -⟩ := prepare_eq_ok.mp hprepare
      obtain ⟨houtstanding, hsize⟩ := outstanding_of_launch_ok hallocate hlaunch
      refine ⟨hsize, ?_⟩
      rw [count_withdrawn_notes, acceptance_of_none rfl]
      exact houtstanding
  | @perform notes c c' op answer h hgenuine hop hacquiring ih =>
    have hbefore : c.Genuine := h₀.underway trivial h
    obtain ⟨-, -, b, hb, -⟩ := h.ledger (h₀.clock fun _ => And.left)
    obtain ⟨hstopping, hsize, houtstanding⟩ :=
      perform_outstanding hbefore.attached hbefore.lifecycle hgenuine hop hb hc hrunning
    obtain ⟨hsize', houtstanding'⟩ := ih hb hstopping
    refine ⟨hsize.trans hsize', ?_⟩
    rw [List.count_append]
    omega

/-- **The reads of a running capture.**  On the simulated device, whatever it streams and however it
fails, those that are out and those that it has withdrawn make up the pool.  So every slot is in
flight if and only if none was withdrawn.  The reads that are out are pending at the device, and not
cancelled. -/
theorem outstanding_of_running (h : c.Genuine) (hc : c.acquisition = some a)
    (hrunning : a.stopping = false) :
    (∃ c₀ notes, c₀.Genuine ∧ Underway Operation.Genuine c₀ notes c) ∧
      (∀ c₀ notes, c₀.Genuine → Underway Operation.Genuine c₀ notes c →
        a.pool.size = c₀.poolSize ∧
        a.pool.outstanding + notes.count .withdrawn = c₀.poolSize ∧
        ((∀ slot < c₀.poolSize, a.pool.slots[slot]? = some .inFlight) ↔ .withdrawn ∉ notes)) ∧
      c.session.transport.pending.length = a.pool.outstanding ∧
      ∀ read ∈ c.session.transport.pending, read.cancelled = false := by
  have hinStep := h.attached.inStep a hc
  refine ⟨?_, ?_, hinStep.expects.outstanding.symm, ?_⟩
  · obtain ⟨c₀, notes, h₀, -, hunderway⟩ := h.exists_underway (isAcquiring_iff.mpr ⟨a, hc⟩)
    exact ⟨c₀, notes, h₀, hunderway⟩
  · intro c₀ notes h₀ hunderway
    obtain ⟨hsize, houtstanding⟩ := hunderway.outstanding h₀ hc hrunning
    obtain ⟨-, -, b, hb, hledger⟩ := hunderway.ledger (h₀.clock fun _ => And.left)
    cases hb.symm.trans hc
    refine ⟨hsize, houtstanding, ?_⟩
    rw [← hsize, ← hledger.outstanding_eq_size_iff, ← List.count_eq_zero]
    omega
  · intro read hread
    exact (hinStep.cancelled read hread).trans hrunning

/-- A capture with two reads, of which one was withdrawn. -/
theorem outstanding_of_withdrawn :
    ∃ (answers : List Answer) (c : Controller SimulatedDevice (List StreamEvent)) (a : Acquisition),
      (new (.new { model := .lwla1016 } .lwla1016) []).performAll
          [.openDevice, .setTransferPool 2 8, .adjust fun d => d.failCompletion 0 .cancelled,
            .start, .poll] = some (answers, c) ∧
        c.Genuine ∧ c.acquisition = some a ∧ a.stopping = false ∧
        ((∃ c₀ notes, c₀.Genuine ∧ Underway Operation.Genuine c₀ notes c) ∧
          (∀ c₀ notes, c₀.Genuine → Underway Operation.Genuine c₀ notes c →
            a.pool.size = c₀.poolSize ∧
            a.pool.outstanding + notes.count .withdrawn = c₀.poolSize ∧
            ((∀ slot < c₀.poolSize, a.pool.slots[slot]? = some .inFlight) ↔ .withdrawn ∉ notes)) ∧
          c.session.transport.pending.length = a.pool.outstanding ∧
          ∀ read ∈ c.session.transport.pending, read.cancelled = false) := by
  have hnew := genuine_new (d := { model := .lwla1016 }) rfl .lwla1016 ([] : List StreamEvent)
  have hgenuine := hnew.performAll (by simp [Operation.Genuine, SimulatedDevice.failCompletion])
    (show performAll _ [.openDevice, .setTransferPool 2 8,
      .adjust fun d => d.failCompletion 0 .cancelled, .start, .poll] = _ from rfl)
  exact ⟨_, _, _, rfl, hgenuine, rfl, rfl, outstanding_of_running hgenuine rfl rfl⟩

/-- **A capture that is stranded**: its only read was withdrawn.  It runs on, has no read out, and
polls leave it as it is. -/
theorem stranded_of_withdrawn :
    ∃ (answers : List Answer) (c : Controller SimulatedDevice (List StreamEvent)),
      (new (.new { model := .lwla1016 } .lwla1016) []).performAll
          [.openDevice, .setTransferPool 1 8, .adjust fun d => d.failCompletion 0 .cancelled,
            .start, .poll] = some (answers, c) ∧
        c.poolSize = 1 ∧ c.isAcquiring = true ∧ c.isStopping = false ∧ c.outstanding = 0 ∧
        c.session.transport.pending = [] ∧ c.poll = (.running, c) :=
  ⟨_, _, rfl, rfl, rfl, rfl, rfl, rfl, rfl⟩

end Controller

end LogicAnalyzer
