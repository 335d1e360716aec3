import LogicAnalyzer.Proofs.Transfer.Ledger
import LogicAnalyzer.Proofs.Transfer.Refill

/-!
# Pools in use

The owner of a pool fills it, takes events, hands the buffers back that the pool lends him, and
stops reading.  He notes on the way which reports the pool accepted and which reads were lost or
given up; which reads the transport took it has taken down itself.

## Main definitions

* `PoolOperation`: what an owner may do
* `PoolUse τ`: a pool in use over a transport, with the notes of its reads
* `PoolUse.perform`, `PoolUse.performAll`: what operations do
* `PoolUse.Performs`: the same, case by case

## Main results

* `TransferPool.abandon_traced`: what stopping at once does
* `PoolUse.performs`: every operation is one of the cases
-/

namespace LogicAnalyzer

/-! ## Operations -/

/-- What the owner of a pool may do with it. -/
inductive PoolOperation where
  /-- Submit every parked buffer. -/
  | submitAll
  /-- Take an event from anywhere.  If the pool accepts it, its buffer is on loan. -/
  | complete (event : ReadEvent)
  /-- Hand the buffer on loan for a slot back to be read into again, whatever it holds by now. -/
  | resubmit (slot : Nat) (buffer : Buffer)
  /-- Hand it back to be parked. -/
  | park (slot : Nat) (buffer : Buffer)
  /-- Stop reading. -/
  | cancelAll
  /-- Stop reading at once. -/
  | abandon

/-- **A pool in use** over a transport, with the notes of its reads. -/
structure PoolUse (τ : Type) where
  pool : TransferPool
  transport : Traced τ
  /-- The slots whose buffers are on loan. -/
  onLoan : List Nat := []
  /-- The slots whose reports the pool accepted, in order. -/
  reports : List Nat := []
  /-- The slots that were in flight before the pool was filled, and no more afterwards. -/
  lost : List Nat := []
  /-- The slots whose reads were given up. -/
  writtenOff : List Nat := []

/-- The events that a transport gave. -/
def eventsOf (calls : List Call) : List ReadEvent :=
  calls.filterMap fun
    | .next event => event
    | _ => none

@[simp] theorem eventsOf_append (calls more : List Call) :
    eventsOf (calls ++ more) = eventsOf calls ++ eventsOf more := List.filterMap_append

namespace TransferPool

/-- The slots of the reports that are accepted when some events are settled. -/
def settledSlots (p : TransferPool) : List ReadEvent → List Nat
  | [] => []
  | event :: rest =>
    if p.slots[event.slot]? = some .inFlight then event.slot :: (p.settle event).settledSlots rest
    else p.settledSlots rest

end TransferPool

namespace PoolUse

variable {τ : Type}

/-- A pool whose use begins. -/
def new (p : TransferPool) (t : τ) : PoolUse τ := { pool := p, transport := ⟨t, []⟩ }

/-- What the transport was told between the one moment and the other. -/
def told (u u' : PoolUse τ) : List Call := u'.transport.calls.drop u.transport.calls.length

variable [Transport τ]

/-- **What an operation does.**  A buffer can be handed back only if it is on loan, and for a slot of the
pool; stopping at once need not come back. -/
def perform (u : PoolUse τ) : PoolOperation → Option (PoolUse τ)
  | .submitAll =>
    let (_, pool, transport) := u.pool.submitAll u.transport
    some { u with pool, transport, lost := u.lost ++ u.pool.droppedSlots pool }
  | .complete event =>
    match u.pool.accept event with
    | (some _, pool) =>
      some { u with
        pool, onLoan := event.slot :: u.onLoan, reports := u.reports ++ [event.slot] }
    | (none, pool) => some { u with pool }
  | .resubmit slot buffer =>
    if slot ∈ u.onLoan then do
      let (_, pool, transport) ← u.pool.handBack u.transport slot buffer
      some { u with pool, transport, onLoan := u.onLoan.erase slot }
    else none
  | .park slot buffer =>
    if slot ∈ u.onLoan then
      some { u with pool := u.pool.park slot buffer, onLoan := u.onLoan.erase slot }
    else none
  | .cancelAll =>
    let (pool, transport) := u.pool.cancelAll u.transport
    some { u with pool, transport }
  | .abandon => do
    let (pool, transport) ← u.pool.abandon u.transport
    let events := eventsOf (transport.calls.drop u.transport.calls.length)
    let settled := events.foldl TransferPool.settle u.pool
    let given := if settled.outstanding = 0 then [] else settled.inFlightSlots ++ u.lost
    return { u with
      pool, transport
      reports := u.reports ++ u.pool.settledSlots events
      lost := if settled.outstanding = 0 then u.lost else []
      writtenOff := u.writtenOff ++ given }

/-- What one operation after another does. -/
def performAll (u : PoolUse τ) : List PoolOperation → Option (PoolUse τ)
  | [] => some u
  | op :: rest => do (← u.perform op).performAll rest

theorem performAll_cons_eq_some {u u' : PoolUse τ} {op : PoolOperation} {ops : List PoolOperation} :
    u.performAll (op :: ops) = some u' ↔
      ∃ u₁, u.perform op = some u₁ ∧ u₁.performAll ops = some u' := Option.bind_eq_some_iff

end PoolUse

/-! ## Stopping at once -/

namespace TransferPool

variable {p p' : TransferPool}

/-- The request to stop plays no part in settling. -/
theorem foldl_settle_cancelRequested (p : TransferPool) (events : List ReadEvent) :
    events.foldl settle { p with cancelRequested := true } =
      { events.foldl settle p with cancelRequested := true } := by
  induction events generalizing p with
  | nil => rfl
  | cons event events ih =>
    have hone : TransferPool.settle { p with cancelRequested := true } event =
        { p.settle event with cancelRequested := true } := by
      by_cases hslot : p.slots[event.slot]? = some .inFlight
      · rw [settle_of_inFlight hslot, accept_of_inFlight hslot,
          settle_of_inFlight (p := { p with cancelRequested := true }) hslot,
          accept_of_inFlight (p := { p with cancelRequested := true }) hslot]
        rfl
      · rw [settle_of_not_inFlight hslot,
          settle_of_not_inFlight (p := { p with cancelRequested := true }) hslot]
    rw [List.foldl_cons, hone, ih, List.foldl_cons]

section

variable {τ : Type} [Transport τ] {t t' : Traced τ}

theorem cancelAll_fst (p : TransferPool) (t : Traced τ) :
    (p.cancelAll t).1 = { p with cancelRequested := true } := by
  unfold cancelAll
  split
  · rename_i hrequested
    rw [← hrequested]
  · rfl

/-- What the transport hears when reading is to stop. -/
def cancelCalls (p : TransferPool) : List Call :=
  if p.cancelRequested = false ∧ 0 < p.outstanding then [.cancelAll] else []

theorem calls_cancelAll (p : TransferPool) (t : Traced τ) :
    (p.cancelAll t).2.calls = t.calls ++ p.cancelCalls := by
  unfold cancelAll cancelCalls
  cases hrequested : p.cancelRequested with
  | true => simp
  | false =>
    by_cases hout : 0 < p.outstanding
    · simp only [hout, Bool.false_eq_true, if_false, if_true, and_self]
      rfl
    · simp [hout]

/-- **What stopping at once does.**  The transport is told to cancel, and is asked for events as
long as reads are out and it has one.  If reads are still out then, it is told to forget them. -/
theorem abandon_traced (h : p.abandon t = some (p', t')) :
    ∃ events : List ReadEvent,
      (((events.foldl settle p).outstanding = 0 ∧
          p' = { events.foldl settle p with cancelRequested := true } ∧
          t'.calls = t.calls ++ (p.cancelCalls ++ events.map fun event => .next (some event))) ∨
        ((events.foldl settle p).outstanding ≠ 0 ∧
          p' = { (events.foldl settle p).writeOff with cancelRequested := true } ∧
          t'.calls = t.calls ++ (p.cancelCalls ++ (events.map fun event => .next (some event)) ++
            [.next none, .forget]))) := by
  obtain ⟨⟨p₁, t₁⟩, hsettle, hdone⟩ := Option.bind_eq_some_iff.mp h
  let Reached (state : TransferPool × Traced τ) (events : List ReadEvent) : Prop :=
    state.1 = { events.foldl settle p with cancelRequested := true } ∧
      state.2.calls = t.calls ++ (p.cancelCalls ++ events.map fun event => .next (some event))
  have hstart : Reached (p.cancelAll t) [] :=
    ⟨cancelAll_fst p t, by rw [List.map_nil, List.append_nil, calls_cancelAll]⟩
  have hstep (state next : TransferPool × Traced τ) (hstate : ∃ events, Reached state events)
      (hnext : settleNext state = .inl next) : ∃ events, Reached next events := by
    obtain ⟨q, u⟩ := state
    obtain ⟨events, hpool, hcalls⟩ := hstate
    dsimp only at hpool hcalls
    simp only [settleNext] at hnext
    split at hnext
    · cases hnext
    · split at hnext
      · cases hnext
      · rename_i event u' heq
        cases hnext
        refine ⟨events ++ [event], ?_, ?_⟩
        · rw [List.foldl_append, ← foldl_settle_cancelRequested, hpool]
          rfl
        · rw [(Traced.next_inner heq).2, hcalls, List.map_append, List.append_assoc,
            List.append_assoc]
          rfl
  obtain ⟨⟨q, u⟩, ⟨events, hpool, hcalls⟩, hend⟩ := exists_of_loop hstep hsettle ⟨[], hstart⟩
  refine ⟨events, ?_⟩
  dsimp only at hpool hcalls
  simp only [settleNext] at hend
  split at hend
  · rename_i hdrained
    cases hend
    simp only [hdrained, if_true, Option.pure_def, Option.some.injEq, Prod.mk.injEq] at hdone
    obtain ⟨rfl, rfl⟩ := hdone
    rw [hpool] at hdrained
    exact .inl ⟨hdrained, hpool, hcalls⟩
  · rename_i hleft
    split at hend
    · rename_i u' heq
      cases hend
      simp only [hleft, if_false, Option.pure_def, Option.some.injEq, Prod.mk.injEq] at hdone
      obtain ⟨rfl, rfl⟩ := hdone
      rw [hpool] at hleft
      refine .inr ⟨hleft, by rw [hpool]; rfl, ?_⟩
      have hforget : (Transport.forget t₁).calls = t₁.calls ++ [.forget] := rfl
      simp only [hforget, (Traced.next_inner heq).2, hcalls, List.append_assoc, List.cons_append,
        List.nil_append]
    · cases hend

end

end TransferPool

theorem submittedSlots_cancelCalls (p : TransferPool) : submittedSlots p.cancelCalls = [] := by
  unfold TransferPool.cancelCalls
  split <;> rfl

theorem eventsOf_cancelCalls (p : TransferPool) : eventsOf p.cancelCalls = [] := by
  unfold TransferPool.cancelCalls
  split <;> rfl

theorem submittedSlots_map_next (events : List ReadEvent) :
    submittedSlots (events.map fun event => .next (some event)) = [] := by
  simp [submittedSlots, List.filterMap_map]

theorem eventsOf_map_next (events : List ReadEvent) :
    eventsOf (events.map fun event => .next (some event)) = events := by
  simp [eventsOf, List.filterMap_map]

/-! ## What operations do -/

namespace PoolUse

variable {τ : Type}

/-- **What operations do**, case by case. -/
inductive Performs (u : PoolUse τ) : PoolOperation → PoolUse τ → Prop where
  | submitAll {walked : List Slot} {result : Except TransferError Nat} {p' : TransferPool}
      {t' : Traced τ} (refill : u.pool.Refill u.transport walked result p' t') :
      Performs u .submitAll { u with
        pool := p', transport := t', lost := u.lost ++ u.pool.droppedSlots p' }
  | accepted {event : ReadEvent} (slot : u.pool.slots[event.slot]? = some .inFlight) :
      Performs u (.complete event) { u with
        pool := (u.pool.accept event).2
        onLoan := event.slot :: u.onLoan
        reports := u.reports ++ [event.slot] }
  | stray {event : ReadEvent} (slot : u.pool.slots[event.slot]? ≠ some .inFlight) :
      Performs u (.complete event) u
  | resubmitted {slot : Nat} {buffer : Buffer} (taken : Bool) {t' : Traced τ}
      (onLoan : slot ∈ u.onLoan) (running : u.pool.cancelRequested = false)
      (calls : t'.calls = u.transport.calls ++ [.submit slot taken]) :
      Performs u (.resubmit slot buffer) { u with
        pool := { u.pool with
          slots := u.pool.slots.set slot (if taken then .inFlight else .empty)
          outstanding := u.pool.outstanding + if taken then 1 else 0 }
        transport := t'
        onLoan := u.onLoan.erase slot }
  | kept {slot : Nat} {buffer : Buffer} (onLoan : slot ∈ u.onLoan)
      (requested : u.pool.cancelRequested = true) :
      Performs u (.resubmit slot buffer) { u with
        pool := u.pool.park slot buffer, onLoan := u.onLoan.erase slot }
  | parked {slot : Nat} {buffer : Buffer} (onLoan : slot ∈ u.onLoan) :
      Performs u (.park slot buffer) { u with
        pool := u.pool.park slot buffer, onLoan := u.onLoan.erase slot }
  | cancelAll {t' : Traced τ} (calls : t'.calls = u.transport.calls ++ u.pool.cancelCalls) :
      Performs u .cancelAll { u with
        pool := { u.pool with cancelRequested := true }, transport := t' }
  /-- When reading stopped at once, all reads had been reported. -/
  | drained (events : List ReadEvent) {t' : Traced τ}
      (none_left : (events.foldl TransferPool.settle u.pool).outstanding = 0)
      (calls : t'.calls = u.transport.calls ++
        (u.pool.cancelCalls ++ events.map fun event => .next (some event))) :
      Performs u .abandon { u with
        pool := { events.foldl TransferPool.settle u.pool with cancelRequested := true }
        transport := t'
        reports := u.reports ++ u.pool.settledSlots events }
  /-- When reading stopped at once, there was no event for a read that was out. -/
  | gaveUp (events : List ReadEvent) {t' : Traced τ}
      (some_left : (events.foldl TransferPool.settle u.pool).outstanding ≠ 0)
      (calls : t'.calls = u.transport.calls ++
        (u.pool.cancelCalls ++ (events.map fun event => .next (some event)) ++
          [.next none, .forget])) :
      Performs u .abandon { u with
        pool := { (events.foldl TransferPool.settle u.pool).writeOff with cancelRequested := true }
        transport := t'
        reports := u.reports ++ u.pool.settledSlots events
        lost := []
        writtenOff := u.writtenOff ++
          ((events.foldl TransferPool.settle u.pool).inFlightSlots ++ u.lost) }

variable [Transport τ] {u u' : PoolUse τ}

theorem performs_resubmit {slot : Nat} {buffer : Buffer}
    (h : u.perform (.resubmit slot buffer) = some u') : Performs u (.resubmit slot buffer) u' := by
  simp only [perform] at h
  split at h
  · rename_i hslot
    obtain ⟨⟨result, pool, t'⟩, hback, heq⟩ := Option.bind_eq_some_iff.mp h
    cases heq
    have hresubmit := TransferPool.resubmit_of_handBack hback
    unfold TransferPool.resubmit at hresubmit
    cases hrequested : u.pool.cancelRequested with
    | true =>
      rw [if_pos hrequested] at hresubmit
      cases hresubmit
      exact .kept hslot hrequested
    | false =>
      rw [if_neg (by simp [hrequested])] at hresubmit
      obtain ⟨t₁, htaken, heq⟩ | ⟨e, t₁, hrefused, heq⟩ :=
        TransferPool.submit_cases u.transport u.pool slot buffer
      · cases heq.symm.trans hresubmit
        exact .resubmitted true hslot hrequested (Traced.submit_inner htaken).2
      · cases heq.symm.trans hresubmit
        exact .resubmitted false hslot hrequested (Traced.submit_inner hrefused).2
  · cases h

theorem performs_abandon (h : u.perform .abandon = some u') : Performs u .abandon u' := by
  obtain ⟨⟨p', t'⟩, hstop, hdone⟩ := Option.bind_eq_some_iff.mp h
  cases hdone
  obtain ⟨events, ⟨hdrained, rfl, hcalls⟩ | ⟨hleft, rfl, hcalls⟩⟩ :=
    TransferPool.abandon_traced hstop
  · have hevents : eventsOf (t'.calls.drop u.transport.calls.length) = events := by
      simp [hcalls, eventsOf_cancelCalls, eventsOf_map_next]
    simp only [hevents, if_pos hdrained, List.append_nil]
    exact .drained events hdrained hcalls
  · have hevents : eventsOf (t'.calls.drop u.transport.calls.length) = events := by
      simp only [hcalls, List.drop_left, eventsOf_append, eventsOf_cancelCalls, eventsOf_map_next,
        List.nil_append]
      exact List.append_nil _
    simp only [hevents, if_neg hleft]
    exact .gaveUp events hleft hcalls

/-- **What operations do.** -/
theorem performs {op : PoolOperation} (h : u.perform op = some u') : Performs u op u' := by
  cases op with
  | submitAll =>
    rcases hfill : u.pool.submitAll u.transport with ⟨result, p', t'⟩
    obtain ⟨walked, hrefill⟩ := TransferPool.exists_refill hfill
    simp only [perform, hfill] at h
    cases h
    exact .submitAll hrefill
  | complete event =>
    by_cases hslot : u.pool.slots[event.slot]? = some .inFlight
    · have haccepted := Performs.accepted hslot
      rw [TransferPool.accept_of_inFlight hslot] at haccepted
      simp only [perform, TransferPool.accept_of_inFlight hslot] at h
      cases h
      exact haccepted
    · simp only [perform, TransferPool.accept_of_not_inFlight hslot] at h
      cases h
      exact .stray hslot
  | resubmit slot buffer => exact performs_resubmit h
  | park slot buffer =>
    simp only [perform] at h
    split at h
    · rename_i hslot
      cases h
      exact .parked hslot
    · cases h
  | cancelAll =>
    have hpool := TransferPool.cancelAll_fst u.pool u.transport
    have hcalls := TransferPool.calls_cancelAll u.pool u.transport
    rcases hstop : u.pool.cancelAll u.transport with ⟨p', t'⟩
    rw [hstop] at hpool hcalls
    cases hpool
    simp only [perform, hstop] at h
    cases h
    exact .cancelAll hcalls
  | abandon => exact performs_abandon h

end PoolUse

end LogicAnalyzer
