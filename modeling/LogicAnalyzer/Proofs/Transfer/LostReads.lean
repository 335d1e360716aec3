import LogicAnalyzer.Device.Simulated
import LogicAnalyzer.Proofs.Transfer.Books

/-!
# Reads that are lost when a pool is filled again

A pool may be filled again at any time, and what is then submitted are the parked buffers.  But a
read that is out while the walk goes past its slot is lost: its report will not be accepted, and it
stays counted for ever.  If none is, all reads that are counted can still be reported.

## Main definitions

* `PoolUse.Refilled`: what filling a pool in use submits, keeps and loses

## Main results

* `TransferPool.submitAll_again`: filling a pool twice in a row
* `PoolUse.refilled_of_use`: what filling a pool in use does, whatever happened to it before
* `PoolUse.stranded_by_second_fill`: a pool that cannot be drained after it was filled twice
-/

namespace LogicAnalyzer

/-! ## Filling a pool twice in a row -/

namespace TransferPool

variable {τ : Type} {p p' : TransferPool} {t t' : Traced τ} {walked : List Slot}
  {result : Except TransferError Nat}

/-- Without a parked buffer, the walk changes the slots in flight only. -/
theorem Refill.eq_self_iff (h : Refill p t walked result p' t')
    (hnone : ∀ state ∈ p.slots, state.isParked = false) :
    p' = p ↔ p.cancelRequested = true ∨ ∀ slot : Nat, p.slots[slot]? ≠ some .inFlight := by
  cases h with
  | cancelled requested => exact iff_of_true rfl (.inl requested)
  | all t' running =>
    constructor
    · intro heq
      refine .inr fun slot hslot => ?_
      have hsame : p.slots.map Slot.walkedPast = p.slots := congrArg slots heq
      rw [← hsame, List.getElem?_map, Option.map_eq_some_iff] at hslot
      obtain ⟨state, hstate, hflight⟩ := hslot
      cases state with
      | parked => cases hnone _ (List.mem_of_getElem? hstate)
      | inFlight => cases hflight
      | empty => cases hflight
    · rintro (requested | hflight)
      · rw [running] at requested
        cases requested
      · have hcount : p.slots.countP Slot.isParked = 0 := by
          simpa [List.countP_eq_zero] using hnone
        have hsame : p.slots.map Slot.walkedPast = p.slots := by
          refine (List.map_congr_left fun state hmem => ?_).trans (List.map_id p.slots)
          cases state with
          | parked => cases hnone _ hmem
          | inFlight =>
            obtain ⟨slot, hslot⟩ := List.getElem?_of_mem hmem
            exact absurd hslot (hflight slot)
          | empty => rfl
        rw [hcount, hsame]
        rfl
  | refused walked buffer rest e t' running slots =>
    cases hnone (.parked buffer) (by simp [slots])

variable [Transport τ]

/-- The walk over slots without a parked buffer asks nothing of the transport. -/
theorem submitEach_of_not_parked (t : Traced τ) (count : Nat) (slots : List Nat)
    (hnone : ∀ state ∈ p.slots, state.isParked = false) :
    ∃ p', p.submitEach t count slots = (.ok count, p', t) := by
  induction slots generalizing p with
  | nil => exact ⟨p, rfl⟩
  | cons slot rest ih =>
    have hstep : p.submitEach t count (slot :: rest) =
        { p with slots := p.slots.set slot .empty }.submitEach t count rest := by
      rw [submitEach]
      split
      · rename_i hparked
        cases hnone _ (List.mem_of_getElem? hparked)
      · rfl
    rw [hstep]
    refine ih fun state hmem => ?_
    rcases List.mem_or_eq_of_mem_set hmem with hmem | rfl
    · exact hnone state hmem
    · rfl

/-- Filling a pool without a parked buffer submits nothing. -/
theorem submitAll_of_not_parked (t : Traced τ)
    (hnone : ∀ state ∈ p.slots, state.isParked = false) :
    ∃ p', p.submitAll t = (.ok 0, p', t) ∧
      (p' = p ↔ p.cancelRequested = true ∨ ∀ slot : Nat, p.slots[slot]? ≠ some .inFlight) := by
  have hfill : ∃ p', p.submitAll t = (.ok 0, p', t) := by
    unfold submitAll
    split
    · exact ⟨p, rfl⟩
    · exact submitEach_of_not_parked t 0 _ hnone
  obtain ⟨p', hfill⟩ := hfill
  obtain ⟨walked, hrefill⟩ := exists_refill hfill
  exact ⟨p', hfill, hrefill.eq_self_iff hnone⟩

/-- **Filling a pool twice in a row** submits nothing the second time, but the reads that are out by
then are lost. -/
theorem submitAll_again {count : Nat} (h : p.submitAll t = (.ok count, p', t')) :
    ∃ p'', p'.submitAll t' = (.ok 0, p'', t') ∧
      (p'' = p' ↔ p'.cancelRequested = true ∨ ∀ slot : Nat, p'.slots[slot]? ≠ some .inFlight) := by
  obtain ⟨walked, hrefill⟩ := exists_refill h
  cases hrefill with
  | cancelled requested => exact ⟨p, h, iff_of_true rfl (.inl requested)⟩
  | all =>
    refine submitAll_of_not_parked t' fun state hmem => ?_
    obtain ⟨before, -, rfl⟩ := List.mem_map.mp hmem
    exact before.isParked_walkedPast

end TransferPool

namespace PoolUse

variable {τ : Type} [Transport τ] {size : Nat} {u : PoolUse τ} {p' : TransferPool} {t' : Traced τ}
  {walked : List Slot} {result : Except TransferError Nat}

/-- **What filling a pool in use submits, keeps and loses**, if the walk goes past these slots. -/
structure Refilled (u : PoolUse τ) (walked : List Slot) (result : Except TransferError Nat)
    (p' : TransferPool) (t' : Traced τ) : Prop where
  /-- The parked buffers are submitted up to the first that is refused, and none once reading is to
  stop. -/
  refill : u.pool.Refill u.transport walked result p' t'
  /-- The slots in flight stay in flight unless the walk goes past one. -/
  keeps : (∀ slot : Nat, u.pool.slots[slot]? = some .inFlight → p'.slots[slot]? = some .inFlight) ↔
    .inFlight ∉ walked
  /-- The report of a read that was out before is accepted unless the walk went past its slot. -/
  accepts : ∀ event : ReadEvent, u.pool.slots[event.slot]? = some .inFlight →
    ((p'.accept event).1.isSome ↔ walked.length ≤ event.slot)
  /-- The reads that are counted are those of the slots in flight, and those that were lost. -/
  outstanding : p'.outstanding = p'.slots.countP Slot.isInFlight +
    (u.lost.length + walked.countP Slot.isInFlight)
  /-- So they are those of the slots in flight if they were before, and none is lost. -/
  sound_iff : p'.Sound ↔ u.pool.Sound ∧ .inFlight ∉ walked
  /-- Otherwise the pool cannot be drained. -/
  drains_iff : (∃ events, (p'.acceptAll events).outstanding = 0) ↔ p'.Sound
  /-- Filling it once more submits nothing, and changes nothing if reading is to stop or no read is
  out. -/
  again : ∀ count, result = .ok count → ∃ p'', p'.submitAll t' = (.ok 0, p'', t') ∧
    (p'' = p' ↔ p'.cancelRequested = true ∨ ∀ slot : Nat, p'.slots[slot]? ≠ some .inFlight)

/-- **Filling a pool in use**, whatever happened to it since it was new. -/
theorem refilled_of_use {bufferSize : Nat} {p : TransferPool} {t : τ} {ops : List PoolOperation}
    (hnew : TransferPool.allocate size bufferSize = .ok p)
    (hrun : (new p t).performAll ops = some u)
    (hfill : u.pool.submitAll u.transport = (result, p', t')) :
    ∃ walked, Refilled u walked result p' t' := by
  have hbooks := (books_new hnew t).performAll hrun
  obtain ⟨walked, hrefill⟩ := TransferPool.exists_refill hfill
  have hbefore := hbooks.outstanding
  have hcount := hrefill.countP_inFlight
  have hwalked : walked.countP Slot.isInFlight = 0 ↔ .inFlight ∉ walked := by
    rw [List.countP_eq_zero]
    refine ⟨fun hall hmem => hall _ hmem rfl, fun hnot state hmem hflight => hnot ?_⟩
    rwa [← Slot.isInFlight_iff.mp hflight]
  have houtstanding : p'.outstanding = p'.slots.countP Slot.isInFlight +
      (u.lost.length + walked.countP Slot.isInFlight) := by
    omega
  refine ⟨walked, hrefill, hrefill.keeps_iff, fun event hslot => ?_, houtstanding, ?_, ?_, ?_⟩
  · rw [TransferPool.isSome_accept_iff, hrefill.inFlight_iff hslot]
  · rw [← hwalked]
    unfold TransferPool.Sound
    omega
  · exact (TransferPool.sound_iff_drains (by omega)).symm
  · rintro count rfl
    exact TransferPool.submitAll_again hfill

/-- The only buffer of a pool comes back and is parked, and the pool is filled again. -/
theorem refilled_of_use_parked :
    ∃ p u filled walked, TransferPool.allocate 1 8 = .ok p ∧
      (new p ({ model := .lwla1016 } : SimulatedDevice)).performAll
        [.submitAll, .complete ⟨0, .allocate 8, .received⟩, .park 0 (.allocate 8)] = some u ∧
      u.pool.submitAll u.transport = filled ∧
      Refilled u walked filled.1 filled.2.1 filled.2.2 := by
  obtain ⟨p, hnew⟩ : ∃ p, TransferPool.allocate 1 8 = .ok p := ⟨_, rfl⟩
  obtain ⟨u, hrun⟩ : ∃ u, (new p ({ model := .lwla1016 } : SimulatedDevice)).performAll
      [.submitAll, .complete ⟨0, .allocate 8, .received⟩, .park 0 (.allocate 8)] = some u := by
    cases hnew
    exact ⟨_, rfl⟩
  obtain ⟨walked, hrefilled⟩ := refilled_of_use hnew hrun rfl
  exact ⟨p, u, _, walked, hnew, hrun, rfl, hrefilled⟩

/-- **A pool that cannot be drained after it was filled twice.**  Its only read is out when it is
filled again.  Nothing is submitted, but the slot is not in flight any more while the read is still
counted, so its report is not accepted and no reports drain the pool. -/
theorem stranded_by_second_fill :
    ∃ p u u', TransferPool.allocate 1 8 = .ok p ∧
      (new p ({ model := .lwla1016 } : SimulatedDevice)).perform .submitAll = some u ∧
      (u.pool.submitAll u.transport).1 = .ok 0 ∧ u.perform .submitAll = some u' ∧
      u'.transport.inner = u.transport.inner ∧ u'.transport.inner.pending.length = 1 ∧
      u.pool.slots[0]? = some .inFlight ∧ u'.pool.slots[0]? = some .empty ∧
      u'.pool.outstanding = 1 ∧ u'.pool.slots.countP Slot.isInFlight = 0 ∧
      (∀ buffer outcome, (u'.pool.accept ⟨0, buffer, outcome⟩).1 = none) ∧
      ∀ events, (u'.pool.acceptAll events).outstanding ≠ 0 := by
  refine ⟨_, _, _, rfl, rfl, rfl, rfl, rfl, rfl, rfl, rfl, rfl, rfl, fun _ _ => rfl, ?_⟩
  intro events hdrained
  have hsound := (TransferPool.sound_iff_drains ?_).mpr ⟨events, hdrained⟩
  · cases hsound
  · exact Nat.zero_le 1

end PoolUse

end LogicAnalyzer
