import LogicAnalyzer.Transfer.Pool

/-!
# What the operations of a pool do

A report counts only for a slot in flight, and reading stops only by `cancelAll`: nothing else
touches the request to stop.  Settling what is ready comes to an end on every transport that
runs out of events.

## Main definitions

* `Transport.Dwindles`: a measure of what is left to report

## Main results

* `TransferPool.accept_of_inFlight`, `accept_of_not_inFlight`: which reports count
* `TransferPool.submit_cases`, `of_submitEach`: what a submission does, and what many keep
* `TransferPool.of_resubmit`, `of_submitAll`, `of_cancelAll`: what a transport keeps
* `TransferPool.cancelRequested_resubmit` and its like: who touches the request to stop
* `TransferPool.of_settleReady`, `abandon_cases`: what settling keeps, and stopping at once
* `TransferPool.exists_abandon`: stopping at once comes back if the events run out
-/

namespace LogicAnalyzer

/-- **Every event leaves less to report**, by this measure. -/
def Transport.Dwindles {τ : Type} [Transport τ] (backlog : τ → Nat) : Prop :=
  ∀ {t t' : τ} {event : ReadEvent}, Transport.next t = (some event, t') → backlog t' < backlog t

namespace TransferPool

variable {p p' : TransferPool} {event delivery : ReadEvent} {slot : Nat} {buffer : Buffer}

/-! ## Reports -/

theorem accept_of_inFlight (h : p.slots[event.slot]? = some .inFlight) :
    p.accept event =
      (some { event with
          outcome := if event.outcome = .failed .cancelled then .cancelled else event.outcome },
        { p with slots := p.slots.set event.slot .empty, outstanding := p.outstanding - 1 }) := by
  rw [accept, if_pos h]

theorem accept_of_not_inFlight (h : p.slots[event.slot]? ≠ some .inFlight) :
    p.accept event = (none, p) := by
  rw [accept, if_neg h]

/-- To settle a report that counts is to accept it and to park its buffer. -/
theorem settle_of_inFlight (h : p.slots[event.slot]? = some .inFlight) :
    p.settle event = (p.accept event).2.park event.slot event.buffer := by
  simp only [settle, accept_of_inFlight h]

theorem settle_of_not_inFlight (h : p.slots[event.slot]? ≠ some .inFlight) :
    p.settle event = p := by
  simp only [settle, accept_of_not_inFlight h]

theorem cancelRequested_of_accept {delivery : Option ReadEvent}
    (h : p.accept event = (delivery, p')) : p'.cancelRequested = p.cancelRequested := by
  by_cases hslot : p.slots[event.slot]? = some .inFlight
  · rw [accept_of_inFlight hslot] at h
    cases h
    rfl
  · rw [accept_of_not_inFlight hslot] at h
    cases h
    rfl

/-- A report that counts takes one read off those that are out, and no slot off the pool. -/
theorem outstanding_settle_of_inFlight (h : p.slots[event.slot]? = some .inFlight) :
    (p.settle event).outstanding = p.outstanding - 1 ∧ (p.settle event).size = p.size := by
  rw [settle_of_inFlight h, accept_of_inFlight h]
  refine ⟨rfl, ?_⟩
  simp only [size, park, List.length_set]

@[simp]
theorem cancelRequested_settle (p : TransferPool) (event : ReadEvent) :
    (p.settle event).cancelRequested = p.cancelRequested := by
  by_cases hslot : p.slots[event.slot]? = some .inFlight
  · rw [settle_of_inFlight hslot, accept_of_inFlight hslot]
    rfl
  · rw [settle_of_not_inFlight hslot]

/-- A new pool has all buffers parked. -/
theorem allocate_eq_ok {size bufferSize : Nat} (h : allocate size bufferSize = .ok p) :
    p = { slots := List.replicate size (.parked (.allocate bufferSize)) } := by
  unfold allocate at h
  split at h
  · cases h
  · split at h
    · cases h
    · cases h
      rfl

theorem not_inFlight_of_allocate {size bufferSize : Nat} (h : allocate size bufferSize = .ok p)
    (slot : Nat) : p.slots[slot]? ≠ some .inFlight := by
  rw [allocate_eq_ok h, List.getElem?_replicate]
  split <;> simp

theorem cancelRequested_of_allocate {size bufferSize : Nat}
    (h : allocate size bufferSize = .ok p) : p.cancelRequested = false := by
  rw [allocate_eq_ok h]

/-! ## Submissions -/

section

variable {τ : Type} [Transport τ] (t : τ)

/-- **What a submission does**: the transport takes the buffer, or it is lost. -/
theorem submit_cases (p : TransferPool) (slot : Nat) (buffer : Buffer) :
    (∃ t', Transport.submit t slot buffer.clear = (.ok (), t') ∧ p.submit t slot buffer =
        (.ok (), { p with
          slots := p.slots.set slot .inFlight
          outstanding := p.outstanding + 1 }, t')) ∨
      ∃ e t', Transport.submit t slot buffer.clear = (.error e, t') ∧
        p.submit t slot buffer = (.error e, { p with slots := p.slots.set slot .empty }, t') := by
  unfold submit
  rcases Transport.submit t slot buffer.clear with ⟨e | _, t'⟩
  · exact .inr ⟨e, t', rfl, rfl⟩
  · exact .inl ⟨t', rfl, rfl⟩

variable {t} in
/-- A submission does not touch the other slots. -/
theorem getElem?_submit_of_ne {result : Except TransferError Unit} {t' : τ} {other : Nat}
    (h : p.submit t slot buffer = (result, p', t')) (hne : slot ≠ other) :
    p'.slots[other]? = p.slots[other]? := by
  obtain ⟨_, -, heq⟩ | ⟨_, _, -, heq⟩ := submit_cases t p slot buffer
  · cases heq.symm.trans h
    exact List.getElem?_set_ne hne
  · cases heq.symm.trans h
    exact List.getElem?_set_ne hne

variable {t} in
/-- A submission does to the transport what handing over an empty buffer does. -/
theorem of_submit {motive : τ → Prop} {result : Except TransferError Unit} {t' : τ}
    (hsubmit : ∀ t slot (buffer : Buffer), motive t →
      motive (Transport.submit t slot buffer.clear).2)
    (h : p.submit t slot buffer = (result, p', t')) (ht : motive t) : motive t' := by
  have hkept := hsubmit t slot buffer ht
  obtain ⟨t₁, htaken, heq⟩ | ⟨e, t₁, hrefused, heq⟩ := submit_cases t p slot buffer
  · cases heq.symm.trans h
    rwa [htaken] at hkept
  · cases heq.symm.trans h
    rwa [hrefused] at hkept

variable {t} in
/-- If a buffer can be handed back, it is. -/
theorem resubmit_of_handBack {result : Except TransferError Unit × TransferPool × τ}
    (h : p.handBack t slot buffer = some result) : p.resubmit t slot buffer = result := by
  unfold handBack at h
  split at h
  · exact Option.some.inj h
  · cases h

variable {t} in
/-- A buffer that is handed back is handed over, or parked. -/
theorem of_resubmit {motive : τ → Prop} {result : Except TransferError Unit} {t' : τ}
    (hsubmit : ∀ t slot (buffer : Buffer), motive t →
      motive (Transport.submit t slot buffer.clear).2)
    (h : p.resubmit t slot buffer = (result, p', t')) (ht : motive t) : motive t' := by
  unfold resubmit at h
  split at h
  · cases h
    exact ht
  · exact of_submit hsubmit h ht

variable {t} in
theorem of_submitEach_transport {motive : τ → Prop} {slots : List Nat} {count : Nat}
    {result : Except TransferError Nat} {t' : τ}
    (hsubmit : ∀ t slot (buffer : Buffer), motive t →
      motive (Transport.submit t slot buffer.clear).2)
    (h : p.submitEach t count slots = (result, p', t')) (ht : motive t) : motive t' := by
  induction slots generalizing p t count with
  | nil =>
    cases h
    exact ht
  | cons slot rest ih =>
    rw [submitEach] at h
    split at h
    · rename_i buffer _
      rcases hone : p.submit t slot buffer with ⟨e | _, p₁, t₁⟩
      · rw [hone] at h
        cases h
        exact of_submit hsubmit hone ht
      · rw [hone] at h
        exact ih h (of_submit hsubmit hone ht)
    · exact ih h ht

variable {t} in
/-- Submitting all buffers does the same many times. -/
theorem of_submitAll {motive : τ → Prop} {result : Except TransferError Nat} {t' : τ}
    (hsubmit : ∀ t slot (buffer : Buffer), motive t →
      motive (Transport.submit t slot buffer.clear).2)
    (h : p.submitAll t = (result, p', t')) (ht : motive t) : motive t' := by
  unfold submitAll at h
  split at h
  · cases h
    exact ht
  · exact of_submitEach_transport hsubmit h ht

variable {t} in
theorem of_cancelAll {motive : τ → Prop} (hcancel : ∀ t, motive t → motive (Transport.cancelAll t))
    (p : TransferPool) (ht : motive t) : motive (p.cancelAll t).2 := by
  unfold cancelAll
  split
  · exact ht
  · dsimp only
    split
    · exact hcancel t ht
    · exact ht

variable {t} in
/-- **Submitting parked buffers**, each of another slot, keeps what every submission keeps, and what
is kept where a slot that holds no buffer is made empty. -/
theorem of_submitEach {motive : TransferPool → τ → Prop} {slots : List Nat} {count : Nat}
    {result : Except TransferError Nat} {t' : τ}
    (hsubmit : ∀ {p t slot buffer result p' t'}, motive p t →
      p.slots[slot]? = some (.parked buffer) → p.submit t slot buffer = (result, p', t') →
      motive p' t')
    (hskip : ∀ {p t} {slot : Nat}, motive p t → p.slots[slot]? ≠ some .inFlight →
      motive { p with slots := p.slots.set slot .empty } t)
    (hnodup : slots.Nodup) (hslots : ∀ slot ∈ slots, p.slots[slot]? ≠ some .inFlight)
    (heach : p.submitEach t count slots = (result, p', t')) (h : motive p t) : motive p' t' := by
  induction slots generalizing p t count with
  | nil =>
    cases heach
    exact h
  | cons slot rest ih =>
    obtain ⟨hfresh, hrest⟩ := List.nodup_cons.mp hnodup
    have hne {other : Nat} (hmem : other ∈ rest) : slot ≠ other := fun heq => hfresh (heq ▸ hmem)
    have hothers (other : Nat) (hmem : other ∈ rest) : p.slots[other]? ≠ some .inFlight :=
      hslots other (List.mem_cons_of_mem _ hmem)
    rw [submitEach] at heach
    split at heach
    · rename_i buffer hparked
      rcases hone : p.submit t slot buffer with ⟨taken, p₁, t₁⟩
      have h₁ := hsubmit h hparked hone
      rw [hone] at heach
      cases taken with
      | error e =>
        cases heach
        exact h₁
      | ok =>
        refine ih hrest ?_ heach h₁
        intro other hmem
        rw [getElem?_submit_of_ne hone (hne hmem)]
        exact hothers other hmem
    · refine ih hrest ?_ heach (hskip h (hslots slot (List.mem_cons_self ..)))
      intro other hmem
      rw [List.getElem?_set_ne (hne hmem)]
      exact hothers other hmem

variable {t} in
/-- A submission that is taken is counted. -/
theorem outstanding_of_submit_ok {t' : τ} (h : p.submit t slot buffer = (.ok (), p', t')) :
    p'.outstanding = p.outstanding + 1 ∧ p'.size = p.size := by
  obtain ⟨_, -, heq⟩ | ⟨_, _, -, heq⟩ := submit_cases t p slot buffer
  · cases heq.symm.trans h
    exact ⟨rfl, List.length_set⟩
  · cases heq.symm.trans h

variable {t} in
/-- **Submitting parked buffers**, each of another slot, if none is refused. -/
theorem outstanding_of_submitEach_ok {slots : List Nat} {count total : Nat} {t' : τ}
    (hnodup : slots.Nodup)
    (hparked : ∀ slot ∈ slots, ∃ buffer, p.slots[slot]? = some (.parked buffer))
    (h : p.submitEach t count slots = (.ok total, p', t')) :
    p'.outstanding = p.outstanding + slots.length ∧ p'.size = p.size := by
  induction slots generalizing p t count with
  | nil =>
    cases h
    exact ⟨rfl, rfl⟩
  | cons slot rest ih =>
    obtain ⟨hfresh, hrest⟩ := List.nodup_cons.mp hnodup
    obtain ⟨buffer, hbuffer⟩ := hparked slot (List.mem_cons_self ..)
    rw [submitEach, hbuffer] at h
    rcases hone : p.submit t slot buffer with ⟨e | _, p₁, t₁⟩
    · simp only [hone] at h
      cases h
    · simp only [hone] at h
      obtain ⟨houtstanding, hsize⟩ := outstanding_of_submit_ok hone
      have hothers : ∀ other ∈ rest, ∃ buffer, p₁.slots[other]? = some (.parked buffer) := by
        intro other hmem
        rw [getElem?_submit_of_ne hone fun heq => hfresh (heq ▸ hmem)]
        exact hparked other (List.mem_cons_of_mem _ hmem)
      obtain ⟨houtstanding', hsize'⟩ := ih hrest hothers h
      refine ⟨?_, hsize'.trans hsize⟩
      rw [houtstanding', houtstanding, List.length_cons]
      omega

@[simp]
theorem cancelRequested_submit (slot : Nat) (buffer : Buffer) :
    (p.submit t slot buffer).2.1.cancelRequested = p.cancelRequested := by
  unfold submit
  split <;> rfl

@[simp]
theorem cancelRequested_submitEach (count : Nat) (slots : List Nat) :
    (p.submitEach t count slots).2.1.cancelRequested = p.cancelRequested := by
  induction slots generalizing p t count with
  | nil => rfl
  | cons slot rest ih =>
    rw [submitEach]
    split
    · rename_i buffer _
      have hsubmit := cancelRequested_submit (p := p) t slot buffer
      split
      · rename_i p' t' heq
        rw [ih]
        rw [heq] at hsubmit
        exact hsubmit
      · rename_i e p' t' heq
        rw [heq] at hsubmit
        exact hsubmit
    · exact ih ..

@[simp]
theorem cancelRequested_submitAll :
    (p.submitAll t).2.1.cancelRequested = p.cancelRequested := by
  unfold submitAll
  split
  · rfl
  · exact cancelRequested_submitEach t 0 _

@[simp]
theorem cancelRequested_resubmit (slot : Nat) (buffer : Buffer) :
    (p.resubmit t slot buffer).2.1.cancelRequested = p.cancelRequested := by
  unfold resubmit
  split
  · rfl
  · exact cancelRequested_submit t slot buffer

/-- Once reading is stopped, the pool knows. -/
@[simp]
theorem cancelRequested_cancelAll : (p.cancelAll t).1.cancelRequested = true := by
  unfold cancelAll
  split
  · assumption
  · rfl

end

/-! ## Settling -/

section

variable {τ : Type} [Transport τ] {backlog : τ → Nat}

/-- **Settling keeps** what every event keeps, and what the transport keeps without one. -/
theorem of_settleReady {motive : TransferPool → τ → Prop} {t t' : τ}
    (hevent : ∀ {p t event t'}, motive p t → Transport.next t = (some event, t') →
      motive (p.settle event) t')
    (hnone : ∀ {p t t'}, motive p t → Transport.next t = (none, t') → motive p t')
    (hsettle : p.settleReady t = some (p', t')) (h : motive p t) : motive p' t' := by
  have hstep (state next : TransferPool × τ) (hstate : motive state.1 state.2)
      (hnext : settleNext state = .inl next) : motive next.1 next.2 := by
    obtain ⟨p, t⟩ := state
    simp only [settleNext] at hnext
    split at hnext
    · cases hnext
    · split at hnext
      · cases hnext
      · rename_i event t' heq
        cases hnext
        exact hevent hstate heq
  obtain ⟨⟨p, t⟩, hlast, hend⟩ :=
    exists_of_loop (motive := fun state => motive state.1 state.2) hstep hsettle h
  simp only [settleNext] at hend
  split at hend
  · cases hend
    exact hlast
  · split at hend
    · rename_i t' heq
      cases hend
      exact hnone hlast heq
    · cases hend

/-- **Stopping at once** is to settle what is ready once all reads are cancelled, and then to give
up on the reads that are still out. -/
theorem abandon_cases {t t' : τ} (h : p.abandon t = some (p', t')) :
    ∃ p₁ t₁, (p.cancelAll t).1.settleReady (p.cancelAll t).2 = some (p₁, t₁) ∧
      ((p₁.outstanding = 0 ∧ t' = t₁) ∨ t' = Transport.forget t₁) := by
  obtain ⟨⟨p₁, t₁⟩, hsettle, hdone⟩ := Option.bind_eq_some_iff.mp h
  refine ⟨p₁, t₁, hsettle, ?_⟩
  by_cases hdrained : p₁.outstanding = 0
  · simp only [hdrained, if_true, Option.pure_def, Option.some.injEq, Prod.mk.injEq] at hdone
    exact .inl ⟨hdrained, hdone.2.symm⟩
  · simp only [if_neg hdrained, Option.pure_def, Option.some.injEq, Prod.mk.injEq] at hdone
    exact .inr hdone.2.symm

/-- **Settling comes to an end** if the events run out. -/
theorem exists_settleReady (h : Transport.Dwindles backlog) (p : TransferPool) (t : τ) :
    ∃ result, p.settleReady t = some result := by
  refine exists_loop (fun state => backlog state.2) ?_ (p, t)
  rintro ⟨p, t⟩ state' hstep
  simp only [settleNext] at hstep
  split at hstep
  · cases hstep
  · split at hstep
    · cases hstep
    · rename_i event t' hnext
      cases hstep
      exact h hnext

theorem exists_abandon (h : Transport.Dwindles backlog) (p : TransferPool) (t : τ) :
    ∃ result, p.abandon t = some result := by
  rcases hcancelled : p.cancelAll t with ⟨cancelled, t'⟩
  obtain ⟨settled, hsettled⟩ := exists_settleReady h cancelled t'
  simp only [abandon, hcancelled, hsettled, Option.bind_eq_bind, Option.bind_some]
  exact ⟨_, rfl⟩

end

end TransferPool

end LogicAnalyzer
