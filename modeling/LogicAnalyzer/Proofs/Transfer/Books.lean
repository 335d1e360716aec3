import LogicAnalyzer.Proofs.Transfer.Usage

/-!
# The books of pools in use

Whoever notes which reads the transport took, which reports the pool accepted, and which reads were
lost or given up, can account for every read at any time: whatever the owner does, whatever the
transport answers, and whatever events turn up.

## Main definitions

* `TransferPool.Settles`: the reads of some slots were settled
* `PoolUse.Books`: the pool is what the notes say

## Main results

* `PoolUse.books_new`, `PoolUse.Books.step`: a new pool has books, and every operation keeps them
* `PoolUse.Books.performAll`: so pools in use always have them
-/

namespace LogicAnalyzer

/-! ## Settling -/

namespace TransferPool

variable {p p' q : TransferPool}

/-- **From `p` to `q` the reads of some slots were settled**, and nothing else happened to the
slots. -/
structure Settles (p : TransferPool) (slots : List Nat) (q : TransferPool) : Prop where
  size : q.size = p.size
  outstanding : q.outstanding + slots.length = p.outstanding
  countP_inFlight : q.slots.countP Slot.isInFlight + slots.length = p.slots.countP Slot.isInFlight
  slotwise : ∀ slot, slots.count slot + (if q.slots[slot]? = some .inFlight then 1 else 0) =
    if p.slots[slot]? = some .inFlight then 1 else 0
  empty : ∀ slot : Nat, p.slots[slot]? = some .empty → q.slots[slot]? = some .empty

theorem Settles.refl (p : TransferPool) : p.Settles [] p :=
  ⟨rfl, rfl, rfl, fun _ => Nat.zero_add _, fun _ h => h⟩

theorem Settles.trans {slots slots' : List Nat} (h : p.Settles slots p')
    (h' : p'.Settles slots' q) : p.Settles (slots ++ slots') q where
  size := h'.size.trans h.size
  outstanding := by
    rw [List.length_append, ← h.outstanding, ← h'.outstanding]
    omega
  countP_inFlight := by
    rw [List.length_append, ← h.countP_inFlight, ← h'.countP_inFlight]
    omega
  slotwise slot := by
    rw [List.count_append, ← h.slotwise, ← h'.slotwise]
    omega
  empty slot hslot := h'.empty slot (h.empty slot hslot)

/-- **One event**: if its slot is in flight, its read is settled. -/
theorem settles_settle {event : ReadEvent} (hle : p.slots.countP Slot.isInFlight ≤ p.outstanding)
    (h : p.slots[event.slot]? = some .inFlight) : p.Settles [event.slot] (p.settle event) := by
  obtain ⟨hlt, hget⟩ := List.getElem?_eq_some_iff.mp h
  have hslots : (p.settle event).slots = p.slots.set event.slot (.parked event.buffer) := by
    rw [settle_of_inFlight h, accept_of_inFlight h]
    exact List.set_set ..
  obtain ⟨houtstanding, hsize⟩ := outstanding_settle_of_inFlight h
  have hflight : Slot.inFlight.isInFlight = true := rfl
  have hparked : (Slot.parked event.buffer).isInFlight = false := rfl
  have hpos : 0 < p.slots.countP Slot.isInFlight :=
    List.countP_pos_iff.mpr ⟨.inFlight, List.mem_of_getElem? h, hflight⟩
  refine ⟨hsize, ?_, ?_, fun slot => ?_, fun slot hslot => ?_⟩
  · rw [houtstanding, List.length_singleton]
    omega
  · simp only [hslots, List.countP_set hlt, hget, hflight, hparked, if_true, Bool.false_eq_true,
      if_false, List.length_singleton]
    omega
  · rw [hslots, List.getElem?_set]
    by_cases heq : event.slot = slot
    · subst heq
      rw [if_pos h]
      simp [hlt]
    · simp [heq]
  · have hne : event.slot ≠ slot := by
      rintro rfl
      rw [h] at hslot
      cases hslot
    rw [hslots, List.getElem?_set_ne hne, hslot]

/-- **One event after another.** -/
theorem settles_foldl (p : TransferPool) (events : List ReadEvent)
    (hle : p.slots.countP Slot.isInFlight ≤ p.outstanding) :
    p.Settles (p.settledSlots events) (events.foldl settle p) := by
  induction events generalizing p with
  | nil => exact .refl p
  | cons event events ih =>
    rw [List.foldl_cons, settledSlots]
    by_cases h : p.slots[event.slot]? = some .inFlight
    · have hone := settles_settle hle h
      have hle' : (p.settle event).slots.countP Slot.isInFlight ≤ (p.settle event).outstanding := by
        have hcount := hone.countP_inFlight
        have houtstanding := hone.outstanding
        omega
      rw [if_pos h]
      exact hone.trans (ih _ hle')
    · rw [if_neg h, settle_of_not_inFlight h]
      exact ih p hle

end TransferPool

/-! ## Books -/

namespace PoolUse

variable {τ : Type} {size : Nat} {u u' : PoolUse τ}

/-- **The pool is what the notes say.** -/
structure Books (size : Nat) (u : PoolUse τ) : Prop where
  size : u.pool.size = size
  /-- The reads that are counted are those of the slots in flight, and those that were lost. -/
  outstanding : u.pool.outstanding = u.pool.slots.countP Slot.isInFlight + u.lost.length
  /-- Every read that the transport took is out, was reported, or was given up. -/
  balance : (submittedSlots u.transport.calls).length =
    u.pool.outstanding + u.reports.length + u.writtenOff.length
  /-- So is every read of a slot. -/
  slotwise : ∀ slot, (submittedSlots u.transport.calls).count slot =
    u.reports.count slot + u.writtenOff.count slot + u.lost.count slot +
      if u.pool.slots[slot]? = some .inFlight then 1 else 0
  /-- A slot whose buffer is on loan is empty. -/
  onLoan : ∀ slot ∈ u.onLoan, u.pool.slots[slot]? = some .empty
  nodup : u.onLoan.Nodup

/-- The books of a new pool are empty. -/
theorem books_new {bufferSize : Nat} {p : TransferPool}
    (h : TransferPool.allocate size bufferSize = .ok p) (t : τ) : (new p t).Books size where
  size := by simp [new, TransferPool.allocate_eq_ok h, TransferPool.size]
  outstanding := (TransferPool.ledger_allocate h).1.outstanding
  balance := by simp [new, TransferPool.allocate_eq_ok h, submittedSlots]
  slotwise slot := by
    simp [new, submittedSlots, TransferPool.not_inFlight_of_allocate h slot]
  onLoan := by simp [new]
  nodup := List.nodup_nil

/-- At most what is counted is in flight. -/
theorem Books.countP_le (h : u.Books size) :
    u.pool.slots.countP Slot.isInFlight ≤ u.pool.outstanding := by
  rw [h.outstanding]
  exact Nat.le_add_right ..

/-- **A buffer on loan is handed back**: its slot is in flight, and the transport took it for that
slot, or neither is the case. -/
theorem Books.handBack (h : u.Books size) {slot : Nat} (hslot : slot ∈ u.onLoan) (state : Slot)
    {t' : Traced τ} (hcalls : submittedSlots t'.calls = submittedSlots u.transport.calls ++
      if state.isInFlight then [slot] else []) :
    Books size { u with
      pool := { u.pool with
        slots := u.pool.slots.set slot state
        outstanding := u.pool.outstanding + if state.isInFlight then 1 else 0 }
      transport := t'
      onLoan := u.onLoan.erase slot } := by
  have hempty := h.onLoan slot hslot
  obtain ⟨hlt, hget⟩ := List.getElem?_eq_some_iff.mp hempty
  have hquiet : Slot.empty.isInFlight = false := rfl
  refine ⟨(List.length_set ..).trans h.size, ?_, ?_, fun other => ?_, fun other hother => ?_,
    h.nodup.erase slot⟩
  · simp only [List.countP_set hlt, hget, hquiet, Bool.false_eq_true, if_false, h.outstanding]
    omega
  · have hbalance := h.balance
    rw [hcalls, List.length_append]
    cases state.isInFlight <;> simp <;> omega
  · rw [hcalls, List.count_append, h.slotwise other, List.getElem?_set]
    by_cases heq : slot = other
    · subst heq
      cases state <;> simp [hget, hlt, Slot.isInFlight]
    · cases state <;> simp [heq, Slot.isInFlight]
  · obtain ⟨hne, hmem⟩ := (List.Nodup.mem_erase_iff h.nodup).mp hother
    exact (List.getElem?_set_ne hne.symm).trans (h.onLoan other hmem)

/-- **So it can be**: the program does not end with it. -/
theorem Books.exists_handBack [Transport τ] (h : u.Books size) {slot : Nat} (hslot : slot ∈ u.onLoan)
    (buffer : Buffer) : ∃ u', u.perform (.resubmit slot buffer) = some u' := by
  obtain ⟨hlt, -⟩ := List.getElem?_eq_some_iff.mp (h.onLoan slot hslot)
  have hback : u.pool.handBack u.transport slot buffer =
      some (u.pool.resubmit u.transport slot buffer) := by
    rw [TransferPool.handBack, if_pos]
    simp [TransferPool.size, hlt]
  simp [perform, hslot, hback]

/-- Reading is to stop, and nothing was submitted. -/
theorem Books.stop (h : u.Books size) {t' : Traced τ}
    (hcalls : submittedSlots t'.calls = submittedSlots u.transport.calls) :
    Books size { u with pool := { u.pool with cancelRequested := true }, transport := t' } :=
  ⟨h.size, h.outstanding, hcalls ▸ h.balance, hcalls ▸ h.slotwise, h.onLoan, h.nodup⟩

/-- **A report.** -/
theorem Books.complete (h : u.Books size) {event : ReadEvent}
    (hslot : u.pool.slots[event.slot]? = some .inFlight) :
    Books size { u with
      pool := (u.pool.accept event).2
      onLoan := event.slot :: u.onLoan
      reports := u.reports ++ [event.slot] } := by
  obtain ⟨hlt, hget⟩ := List.getElem?_eq_some_iff.mp hslot
  have hcount := TransferPool.countP_inFlight_accept hslot
  have houtstanding := h.outstanding
  rw [TransferPool.accept_of_inFlight hslot] at hcount ⊢
  dsimp only at hcount ⊢
  refine ⟨(List.length_set ..).trans h.size, by dsimp only; omega, ?_, fun other => ?_,
    fun other hother => ?_, ?_⟩
  · have hbalance := h.balance
    simp only [List.length_append, List.length_singleton]
    omega
  · rw [h.slotwise other, List.count_append, List.getElem?_set]
    by_cases heq : event.slot = other
    · subst heq
      simp [hget, hlt]
      omega
    · simp [heq]
  · rw [List.getElem?_set]
    split
    · rfl
    · rename_i hne
      exact h.onLoan other ((List.mem_cons.mp hother).resolve_left (Ne.symm hne))
  · refine List.nodup_cons.mpr ⟨fun hmem => ?_, h.nodup⟩
    rw [h.onLoan _ hmem] at hslot
    cases hslot

/-- **The reads of some slots are settled.** -/
theorem Books.settles (h : u.Books size) {slots : List Nat} {q : TransferPool}
    (hsettles : u.pool.Settles slots q) :
    Books size { u with pool := q, reports := u.reports ++ slots } := by
  have houtstanding := h.outstanding
  have hfewer := hsettles.outstanding
  refine ⟨hsettles.size.trans h.size, ?_, ?_, fun slot => ?_, fun slot hslot => ?_, h.nodup⟩
  · have hcount := hsettles.countP_inFlight
    dsimp only
    omega
  · simp only [h.balance, List.length_append]
    omega
  · have hslotwise := hsettles.slotwise slot
    simp only [h.slotwise slot, List.count_append]
    omega
  · exact hsettles.empty slot (h.onLoan slot hslot)

/-- **What is still counted is given up.** -/
theorem Books.writeOff (h : u.Books size) :
    Books size { u with
      pool := u.pool.writeOff
      lost := []
      writtenOff := u.writtenOff ++ (u.pool.inFlightSlots ++ u.lost) } := by
  have hempty (state : Slot) : (if state.isInFlight then .empty else state) ≠ Slot.inFlight := by
    cases state <;> simp [Slot.isInFlight]
  have hnone (slot : Nat) : u.pool.writeOff.slots[slot]? ≠ some .inFlight := by
    rw [TransferPool.writeOff, List.getElem?_map]
    cases u.pool.slots[slot]? with
    | none => simp
    | some state => simpa using hempty state
  refine ⟨(List.length_map ..).trans h.size, ?_, ?_, fun slot => ?_, fun slot hslot => ?_, h.nodup⟩
  · refine (List.countP_eq_zero.mpr fun state hmem hflight => ?_).symm
    obtain ⟨slot, hslot⟩ := List.getElem?_of_mem hmem
    exact hnone slot (hslot.trans (congrArg some (Slot.isInFlight_iff.mp hflight)))
  · have hlength : u.pool.inFlightSlots.length = u.pool.slots.countP Slot.isInFlight :=
      List.length_findIdxs
    have hwritten : u.pool.writeOff.outstanding = 0 := rfl
    have houtstanding := h.outstanding
    simp only [h.balance, List.length_append, hlength, hwritten]
    omega
  · simp only [h.slotwise slot, List.count_append, TransferPool.count_inFlightSlots,
      if_neg (hnone slot), List.count_nil]
    omega
  · simp only [TransferPool.writeOff, List.getElem?_map, h.onLoan slot hslot]
    rfl

/-- **Filling the pool.** -/
theorem Books.refill (h : u.Books size) {walked : List Slot} {result : Except TransferError Nat}
    {p' : TransferPool} {t' : Traced τ}
    (hrefill : u.pool.Refill u.transport walked result p' t') :
    Books size { u with
      pool := p', transport := t', lost := u.lost ++ u.pool.droppedSlots p' } := by
  have hcount := hrefill.countP_inFlight
  have hdropped : (u.pool.droppedSlots p').length = walked.countP Slot.isInFlight := by
    rw [hrefill.droppedSlots_eq, List.length_findIdxs]
  have houtstanding := h.outstanding
  refine ⟨hrefill.length_slots.trans h.size, ?_, ?_, fun slot => ?_, fun slot hslot => ?_, h.nodup⟩
  · simp only [List.length_append, hdropped]
    omega
  · have hbalance := h.balance
    simp only [hrefill.submittedSlots_eq, List.length_append, List.length_findIdxs,
      hrefill.outstanding_eq]
    omega
  · have hslotwise := hrefill.slotwise slot
    simp only [hrefill.submittedSlots_eq, List.count_append, h.slotwise slot]
    omega
  · obtain ⟨-, hnext⟩ | ⟨-, hnext | ⟨-, hnext⟩⟩ := hrefill.slot_cases (h.onLoan slot hslot)
    all_goals exact hnext

/-- **Pools in use keep their books**, whatever is done with them. -/
theorem Books.step (h : u.Books size) {op : PoolOperation} (hop : Performs u op u') :
    u'.Books size := by
  cases hop with
  | submitAll hrefill => exact h.refill hrefill
  | accepted hslot => exact h.complete hslot
  | stray => exact h
  | resubmitted taken hslot _ hcalls =>
    cases taken with
    | true =>
      refine h.handBack hslot .inFlight ?_
      rw [hcalls, submittedSlots_append]
      rfl
    | false =>
      refine h.handBack hslot .empty ?_
      rw [hcalls, submittedSlots_append]
      rfl
  | kept hslot | parked hslot => exact h.handBack hslot (.parked _) (List.append_nil _).symm
  | cancelAll hcalls =>
    refine h.stop ?_
    rw [hcalls, submittedSlots_append, submittedSlots_cancelCalls, List.append_nil]
  | drained events _ hcalls =>
    refine (h.settles (TransferPool.settles_foldl u.pool events h.countP_le)).stop ?_
    simp [hcalls, submittedSlots_cancelCalls, submittedSlots_map_next]
  | gaveUp events _ hcalls =>
    refine (h.settles (TransferPool.settles_foldl u.pool events h.countP_le)).writeOff.stop ?_
    simp only [hcalls, submittedSlots_append, submittedSlots_cancelCalls, submittedSlots_map_next,
      List.nil_append]
    exact List.append_nil _

theorem Books.performAll [Transport τ] (h : u.Books size) {ops : List PoolOperation}
    (hops : u.performAll ops = some u') : u'.Books size := by
  induction ops generalizing u with
  | nil =>
    cases hops
    exact h
  | cons op ops ih =>
    obtain ⟨u₁, hone, hrest⟩ := performAll_cons_eq_some.mp hops
    exact ih (h.step (performs hone)) hrest

end PoolUse

end LogicAnalyzer
