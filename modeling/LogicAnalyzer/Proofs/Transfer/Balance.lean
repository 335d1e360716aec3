import LogicAnalyzer.Device.Simulated
import LogicAnalyzer.Proofs.Transfer.Books

/-!
# The balance of one acquisition

For an acquisition a pool is filled once, and then reports are taken and buffers handed back until
reading stops.  No read is lost on the way: a pool counts the reads of its slots in flight, and
these are the reads that the transport took, less those that were reported or given up.  The
transport is asked at most once to cancel reads, and only if there are any; from then on it is given
none.

## Main definitions

* `PoolUse.Obeys`: what is kept of a request to stop reading
* `PoolUse.Accounts`: a pool in use is accounted for

## Main results

* `PoolUse.Performs.obeys`, `PoolUse.obeys_performAll`: operations heed a request to stop
* `PoolUse.accounts_of_acquisition`: a pool that was filled once is accounted for
-/

namespace LogicAnalyzer

/-- Whether it asks for the cancellation of all reads. -/
def Call.isCancelAll : Call → Bool
  | cancelAll => true
  | _ => false

/-- Whether it hands over a buffer, taken or not. -/
def Call.isSubmit : Call → Bool
  | submit _ _ => true
  | _ => false

/-- A report that is accepted takes one read off those that are counted. -/
theorem TransferPool.outstanding_of_accept {p p' : TransferPool} {event delivery : ReadEvent}
    (hle : p.slots.countP Slot.isInFlight ≤ p.outstanding)
    (h : p.accept event = (some delivery, p')) : p'.outstanding + 1 = p.outstanding := by
  by_cases hslot : p.slots[event.slot]? = some .inFlight
  · have hcount := countP_inFlight_accept hslot
    have hbalance := (accept_balance event hle).1
    rw [h] at hcount hbalance
    dsimp only at hcount hbalance
    omega
  · rw [accept_of_not_inFlight hslot] at h
    cases h

namespace PoolUse

variable {τ : Type} {size : Nat} {u u' u'' : PoolUse τ} {op : PoolOperation}
  {calls more : List Call}

/-! ## Requests to stop -/

theorem told_eq (h : u'.transport.calls = u.transport.calls ++ calls) : told u u' = calls := by
  rw [told, h, List.drop_left]

/-- **What is kept of a request to stop reading**, when these calls lead from `u` to `u'`.  It is
not withdrawn, nothing is submitted while it stands, and the transport hears of it at most once. -/
structure Obeys (u : PoolUse τ) (calls : List Call) (u' : PoolUse τ) : Prop where
  calls_eq : u'.transport.calls = u.transport.calls ++ calls
  requested : u.pool.cancelRequested = true → u'.pool.cancelRequested = true
  submits : u.pool.cancelRequested = true → calls.countP Call.isSubmit = 0
  cancels : calls.countP Call.isCancelAll + (if u.pool.cancelRequested then 1 else 0) ≤
    if u'.pool.cancelRequested then 1 else 0

theorem Obeys.trans (h : Obeys u calls u') (h' : Obeys u' more u'') :
    Obeys u (calls ++ more) u'' where
  calls_eq := by rw [h'.calls_eq, h.calls_eq, List.append_assoc]
  requested hrequested := h'.requested (h.requested hrequested)
  submits hrequested := by
    rw [List.countP_append, h.submits hrequested, h'.submits (h.requested hrequested)]
  cancels := by
    have hcancels := h.cancels
    have hcancels' := h'.cancels
    rw [List.countP_append]
    omega

/-- Operations that have nothing to do with stopping. -/
theorem Obeys.of_running (hcalls : u'.transport.calls = u.transport.calls ++ calls)
    (hrequested : u'.pool.cancelRequested = u.pool.cancelRequested)
    (hsubmits : u.pool.cancelRequested = true → calls.countP Call.isSubmit = 0)
    (hcancels : calls.countP Call.isCancelAll = 0) : Obeys u calls u' :=
  ⟨hcalls, hrequested.trans, hsubmits,
    Nat.le_of_eq (by rw [hcancels, hrequested, Nat.zero_add])⟩

/-- Operations that do not tell the transport anything either. -/
theorem Obeys.of_silent (hcalls : u'.transport = u.transport)
    (hrequested : u'.pool.cancelRequested = u.pool.cancelRequested) : Obeys u [] u' :=
  .of_running (by rw [hcalls, List.append_nil]) hrequested (fun _ => rfl) rfl

theorem countP_isCancelAll_cancelCalls (p : TransferPool) :
    p.cancelCalls.countP Call.isCancelAll =
      if p.cancelRequested = false ∧ 0 < p.outstanding then 1 else 0 := by
  unfold TransferPool.cancelCalls
  split <;> rfl

theorem countP_isSubmit_cancelCalls (p : TransferPool) :
    p.cancelCalls.countP Call.isSubmit = 0 := by
  unfold TransferPool.cancelCalls
  split <;> rfl

/-- What is counted when a transport is asked for events, none of which counts. -/
theorem countP_map_next {f : Call → Bool} (hf : ∀ event, f (.next event) = false)
    (events : List ReadEvent) : (events.map fun event => .next (some event)).countP f = 0 := by
  simp [List.countP_eq_zero, hf]

/-- Operations that stop reading. -/
theorem Obeys.of_stop
    (hcalls : u'.transport.calls = u.transport.calls ++ (u.pool.cancelCalls ++ more))
    (hrequested : u'.pool.cancelRequested = true) (hsubmits : more.countP Call.isSubmit = 0)
    (hcancels : more.countP Call.isCancelAll = 0) : Obeys u (u.pool.cancelCalls ++ more) u' where
  calls_eq := hcalls
  requested _ := hrequested
  submits _ := by rw [List.countP_append, countP_isSubmit_cancelCalls, hsubmits]
  cancels := by
    rw [List.countP_append, countP_isCancelAll_cancelCalls, hcancels, hrequested]
    cases u.pool.cancelRequested <;> simp
    split <;> decide

/-- **Operations heed a request to stop.**  If they ask for the cancellation of reads, some are
out. -/
theorem Performs.obeys (h : Performs u op u') :
    ∃ calls, Obeys u calls u' ∧ (0 < calls.countP Call.isCancelAll → 0 < u.pool.outstanding) := by
  have hstop {more : List Call} (hmore : more.countP Call.isCancelAll = 0) :
      0 < (u.pool.cancelCalls ++ more).countP Call.isCancelAll → 0 < u.pool.outstanding := by
    rw [List.countP_append, countP_isCancelAll_cancelCalls, hmore]
    split
    · rename_i hout
      exact fun _ => hout.2
    · exact fun hpos => absurd hpos (Nat.lt_irrefl 0)
  have hsilent : 0 < ([] : List Call).countP Call.isCancelAll → 0 < u.pool.outstanding :=
    fun hpos => absurd hpos (Nat.lt_irrefl 0)
  cases h with
  | submitAll hrefill =>
    have hnone (slots : List Nat) :
        (slots.map (Call.submit · true)).countP Call.isCancelAll = 0 := by
      simp [List.countP_eq_zero, Call.isCancelAll]
    cases hrefill with
    | cancelled => exact ⟨[], .of_silent rfl rfl, hsilent⟩
    | all t' running calls =>
      refine ⟨_, .of_running calls rfl (by simp [running]) (hnone _), ?_⟩
      simp [hnone]
    | refused walked buffer rest e t' running slots calls =>
      refine ⟨_, .of_running calls rfl (by simp [running]) ?_, ?_⟩ <;>
        simp [hnone, Call.isCancelAll]
  | accepted hslot =>
    refine ⟨[], .of_silent rfl ?_, hsilent⟩
    exact TransferPool.cancelRequested_of_accept rfl
  | resubmitted taken _ running hcalls =>
    exact ⟨_, .of_running hcalls rfl (by simp [running]) rfl, hsilent⟩
  | stray | kept | parked =>
    exact ⟨[], .of_silent rfl rfl, hsilent⟩
  | cancelAll hcalls =>
    rw [← List.append_nil u.pool.cancelCalls] at hcalls
    exact ⟨_, .of_stop hcalls rfl rfl rfl, hstop rfl⟩
  | drained events _ hcalls =>
    have hnone {f : Call → Bool} (hf : ∀ event, f (.next event) = false) :=
      countP_map_next hf events
    exact ⟨_, .of_stop hcalls rfl (hnone fun _ => rfl) (hnone fun _ => rfl),
      hstop (hnone fun _ => rfl)⟩
  | gaveUp events _ hcalls =>
    have hnone {f : Call → Bool} (hf : ∀ event, f (.next event) = false)
        (hforget : f .forget = false) :
        ((events.map fun event => Call.next (some event)) ++
          [Call.next none, Call.forget]).countP f = 0 := by
      rw [List.countP_append, countP_map_next hf]
      simp [hf, hforget]
    rw [List.append_assoc] at hcalls
    exact ⟨_, .of_stop hcalls rfl (hnone (fun _ => rfl) rfl) (hnone (fun _ => rfl) rfl),
      hstop (hnone (fun _ => rfl) rfl)⟩

/-- **Operations that stop reading** submit nothing. -/
theorem Performs.stops (h : Performs u op u') (hop : op = .cancelAll ∨ op = .abandon) :
    u'.pool.cancelRequested = true ∧ (told u u').countP Call.isSubmit = 0 := by
  cases h with
  | cancelAll hcalls =>
    refine ⟨rfl, ?_⟩
    rw [told_eq hcalls, countP_isSubmit_cancelCalls]
  | drained events _ hcalls =>
    refine ⟨rfl, ?_⟩
    rw [told_eq hcalls, List.countP_append, countP_isSubmit_cancelCalls,
      countP_map_next fun _ => rfl]
  | gaveUp events _ hcalls =>
    refine ⟨rfl, ?_⟩
    rw [told_eq hcalls, List.countP_append, List.countP_append, countP_isSubmit_cancelCalls,
      countP_map_next fun _ => rfl]
    rfl
  | _ => simp at hop

/-- **Stopping at once** leaves no read out, and the transport is told to forget reads just if it
has no event while some are still out. -/
theorem Performs.forgets (h : Performs u .abandon u') :
    u'.pool.outstanding = 0 ∧
      (.forget ∈ told u u' ↔ ∃ (events : List ReadEvent) (rest : List Call),
        told u u' = u.pool.cancelCalls ++ (events.map fun event => .next (some event)) ++
            .next none :: rest ∧
          (events.foldl TransferPool.settle u.pool).outstanding ≠ 0) := by
  have hcancel {call : Call} (hmem : call ∈ u.pool.cancelCalls) : call = .cancelAll := by
    unfold TransferPool.cancelCalls at hmem
    split at hmem
    · exact List.mem_singleton.mp hmem
    · cases hmem
  cases h with
  | drained events hdrained hcalls =>
    refine ⟨hdrained, ?_⟩
    rw [told_eq hcalls]
    have hnot {call : Call} (hcall : call = .forget ∨ call = .next none) :
        call ∉ u.pool.cancelCalls ++ events.map fun event => .next (some event) := by
      intro hmem
      rcases List.mem_append.mp hmem with hmem | hmem
      · rw [hcancel hmem] at hcall
        simp at hcall
      · obtain ⟨event, -, rfl⟩ := List.mem_map.mp hmem
        simp at hcall
    refine iff_of_false (hnot (.inl rfl)) ?_
    rintro ⟨events', rest, heq, -⟩
    apply hnot (.inr rfl)
    rw [heq]
    simp
  | gaveUp events hleft hcalls =>
    refine ⟨rfl, ?_⟩
    rw [told_eq hcalls]
    exact iff_of_true (by simp) ⟨events, [.forget], rfl, hleft⟩

/-- No read is lost unless the pool is filled. -/
theorem Performs.lost_eq (h : Performs u op u') (hop : op ≠ .submitAll) (hlost : u.lost = []) :
    u'.lost = [] := by
  cases h with
  | submitAll => exact absurd rfl hop
  | gaveUp => rfl
  | _ => exact hlost

variable [Transport τ]

theorem obeys_performAll {ops : List PoolOperation} (h : u.performAll ops = some u') :
    ∃ calls, Obeys u calls u' := by
  induction ops generalizing u with
  | nil =>
    cases h
    exact ⟨[], .of_silent rfl rfl⟩
  | cons op ops ih =>
    obtain ⟨u₁, hone, hrest⟩ := performAll_cons_eq_some.mp h
    obtain ⟨calls, hobeys, -⟩ := (performs hone).obeys
    obtain ⟨more, hobeys'⟩ := ih hrest
    exact ⟨calls ++ more, hobeys.trans hobeys'⟩

/-! ## One acquisition -/

/-- **A pool in use is accounted for.** -/
structure Accounts (size : Nat) (u : PoolUse τ) : Prop where
  /-- No slot comes or goes. -/
  size : u.pool.size = size
  /-- The reads that are counted are those of the slots in flight. -/
  outstanding : u.pool.outstanding = u.pool.slots.countP Slot.isInFlight
  /-- They are the reads that the transport took, less those that were reported or given up. -/
  balance : (submittedSlots u.transport.calls).length =
    u.pool.outstanding + u.reports.length + u.writtenOff.length
  /-- So they are slot by slot, and no read is reported twice. -/
  slotwise : ∀ slot, (submittedSlots u.transport.calls).count slot =
    u.reports.count slot + u.writtenOff.count slot +
      if u.pool.slots[slot]? = some .inFlight then 1 else 0
  /-- A report counts if and only if its slot is in flight. -/
  accepts : ∀ event : ReadEvent, (u.pool.accept event).1.isSome ↔
    u.pool.slots[event.slot]? = some .inFlight
  /-- Then there is a read to be taken off, also while reading stops at once. -/
  accepted : ∀ (settled : List ReadEvent) (event delivery : ReadEvent) (p' : TransferPool),
    (settled.foldl TransferPool.settle u.pool).accept event = (some delivery, p') →
      p'.outstanding + 1 = (settled.foldl TransferPool.settle u.pool).outstanding
  /-- A buffer on loan can be handed back, whatever it holds by now. -/
  hands_back : ∀ slot ∈ u.onLoan, ∀ buffer, ∃ u', u.perform (.resubmit slot buffer) = some u'
  cancelled_once : u.transport.calls.countP Call.isCancelAll ≤ 1
  cancelled_while_out : ∀ op u', u.perform op = some u' →
    0 < (told u u').countP Call.isCancelAll → 0 < u.pool.outstanding
  /-- Once reading stops, nothing is submitted any more. -/
  stops : ∀ op more u', op = .cancelAll ∨ op = .abandon → u.performAll (op :: more) = some u' →
    (told u u').countP Call.isSubmit = 0
  /-- Stopping at once leaves no read out.  The transport is told to forget reads if and only if it
  had no event while some were still out. -/
  abandons : ∀ u', u.perform .abandon = some u' → u'.pool.outstanding = 0 ∧
    (.forget ∈ told u u' ↔ ∃ (events : List ReadEvent) (rest : List Call),
      told u u' = u.pool.cancelCalls ++ (events.map fun event => .next (some event)) ++
          .next none :: rest ∧
        (events.foldl TransferPool.settle u.pool).outstanding ≠ 0)

/-- A pool whose reads are accounted for, none lost, and whose transport was not asked twice to
cancel them. -/
theorem Books.accounts (h : u.Books size) (hlost : u.lost = [])
    (hcancels : u.transport.calls.countP Call.isCancelAll ≤ 1) : u.Accounts size where
  size := h.size
  outstanding := by
    have houtstanding := h.outstanding
    rwa [hlost] at houtstanding
  balance := h.balance
  slotwise slot := by
    rw [h.slotwise, hlost, List.count_nil, Nat.add_zero]
  accepts _ := TransferPool.isSome_accept_iff
  accepted settled event delivery p' haccept := by
    have hsettles := TransferPool.settles_foldl u.pool settled h.countP_le
    have houtstanding := hsettles.outstanding
    have hcount := hsettles.countP_inFlight
    have hle := h.countP_le
    exact TransferPool.outstanding_of_accept (by omega) haccept
  hands_back _ hslot := h.exists_handBack hslot
  cancelled_once := hcancels
  cancelled_while_out op u' hop hpos := by
    obtain ⟨calls, hobeys, hout⟩ := (performs hop).obeys
    rw [told_eq hobeys.calls_eq] at hpos
    exact hout hpos
  stops op more u' hstops hrun := by
    obtain ⟨u₁, hone, hrest⟩ := performAll_cons_eq_some.mp hrun
    obtain ⟨hrequested, hnone⟩ := (performs hone).stops hstops
    obtain ⟨calls, hobeys, -⟩ := (performs hone).obeys
    obtain ⟨more, hobeys'⟩ := obeys_performAll hrest
    rw [told_eq hobeys.calls_eq] at hnone
    rw [told_eq (hobeys.trans hobeys').calls_eq, List.countP_append, hnone,
      hobeys'.submits hrequested]
  abandons u' habandon := (performs habandon).forgets

theorem lost_performAll {ops : List PoolOperation} (hops : .submitAll ∉ ops) (hlost : u.lost = [])
    (h : u.performAll ops = some u') : u'.lost = [] := by
  induction ops generalizing u with
  | nil =>
    cases h
    exact hlost
  | cons op ops ih =>
    obtain ⟨hop, hrest⟩ := not_or.mp (mt List.mem_cons.mpr hops)
    obtain ⟨u₁, hone, hmore⟩ := performAll_cons_eq_some.mp h
    exact ih hrest ((performs hone).lost_eq (Ne.symm hop) hlost) hmore

/-- **A new pool that is filled once is accounted for**, whatever reports are taken, whatever
buffers are handed back, and however reading stops. -/
theorem accounts_of_acquisition {bufferSize : Nat} {p : TransferPool} {t : τ}
    {ops : List PoolOperation} (hnew : TransferPool.allocate size bufferSize = .ok p)
    (honce : .submitAll ∉ ops) (hrun : (new p t).performAll (.submitAll :: ops) = some u) :
    u.Accounts size := by
  have hbooks := (books_new hnew t).performAll hrun
  obtain ⟨calls, hobeys⟩ := obeys_performAll hrun
  obtain ⟨u₁, hfill, hrest⟩ := performAll_cons_eq_some.mp hrun
  have hnone : p.inFlightSlots = [] := by
    rw [List.eq_nil_iff_forall_not_mem]
    intro slot hmem
    exact TransferPool.not_inFlight_of_allocate hnew slot (TransferPool.mem_inFlightSlots.mp hmem)
  have hlost : u₁.lost = [] := by
    cases performs hfill with
    | submitAll => simp [TransferPool.droppedSlots, new, hnone]
  refine hbooks.accounts (lost_performAll honce hlost hrest) ?_
  have hcalls : u.transport.calls = calls := hobeys.calls_eq
  have hone : (if u.pool.cancelRequested then 1 else 0) ≤ 1 := by
    split <;> decide
  rw [hcalls]
  exact Nat.le_trans (Nat.le_of_add_right_le hobeys.cancels) hone

/-- A stray report, a read that is reported twice, and a buffer that is handed back too late. -/
def strayOperations : List PoolOperation :=
  [.complete ⟨7, .allocate 0, .received⟩, .complete ⟨1, .allocate 8, .received⟩,
    .complete ⟨1, .allocate 8, .received⟩, .cancelAll, .resubmit 1 (.allocate 8)]

theorem accounts_of_acquisition_stray :
    ∃ p u, TransferPool.allocate 2 8 = .ok p ∧
      (new p ({ model := .lwla1016 } : SimulatedDevice)).performAll
        (.submitAll :: strayOperations) = some u ∧ u.Accounts 2 := by
  obtain ⟨p, hnew⟩ : ∃ p, TransferPool.allocate 2 8 = .ok p := ⟨_, rfl⟩
  have honce : .submitAll ∉ strayOperations := by
    simp [strayOperations]
  obtain ⟨u, hrun⟩ : ∃ u, (new p ({ model := .lwla1016 } : SimulatedDevice)).performAll
      (.submitAll :: strayOperations) = some u := by
    cases hnew
    exact ⟨_, rfl⟩
  exact ⟨p, u, hnew, hrun, accounts_of_acquisition hnew honce hrun⟩

end PoolUse

end LogicAnalyzer
