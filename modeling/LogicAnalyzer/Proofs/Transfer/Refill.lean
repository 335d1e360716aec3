import LogicAnalyzer.Proofs.Transfer.Ledger
import Mathlib.Data.List.Basic

/-!
# Refilling a pool

To fill a pool its slots are walked past in order, until the transport refuses a buffer.  Parked
buffers are submitted on the way.  A slot that is in flight holds no buffer to submit, but the walk
takes what it holds all the same: its read stays out and stays counted, and the pool will not know
its report.  So a pool can be drained by reports as long as no walk went past a slot in flight.

## Main definitions

* `Slot.walkedPast`: what the walk makes of a slot
* `TransferPool.Refill`: what filling a pool does, and how far it walks
* `TransferPool.Sound`: the reads that are counted are those of the slots in flight

## Main results

* `TransferPool.exists_refill`: what filling a pool does
* `TransferPool.Refill.countP_inFlight`: what becomes of the slots in flight
* `TransferPool.sound_iff_drains`: which pools can be drained by reports
-/

namespace LogicAnalyzer

/-- Whether the buffer of a slot is parked in it. -/
def Slot.isParked : Slot → Bool
  | parked _ => true
  | _ => false

/-- **What the walk makes of a slot**, if its buffer is not refused. -/
def Slot.walkedPast : Slot → Slot
  | parked _ => inFlight
  | _ => empty

@[simp] theorem Slot.isParked_walkedPast (state : Slot) : state.walkedPast.isParked = false := by
  cases state <;> rfl

/-- The slots of the reads that a transport took. -/
def submittedSlots (calls : List Call) : List Nat :=
  calls.filterMap fun
    | .submit slot true => some slot
    | _ => none

@[simp] theorem submittedSlots_append (calls more : List Call) :
    submittedSlots (calls ++ more) = submittedSlots calls ++ submittedSlots more :=
  List.filterMap_append

theorem submittedSlots_map_submit (slots : List Nat) :
    submittedSlots (slots.map (Call.submit · true)) = slots := by
  induction slots with
  | nil => rfl
  | cons slot slots ih => exact congrArg (slot :: ·) ih

namespace TransferPool

/-- The slots in flight. -/
def inFlightSlots (p : TransferPool) : List Nat := p.slots.findIdxs Slot.isInFlight

/-- The slots that are in flight in the one pool, and not in the other. -/
def droppedSlots (p p' : TransferPool) : List Nat :=
  p.inFlightSlots.filter fun slot => p'.slots[slot]? ≠ some .inFlight

variable {τ : Type} {p p' : TransferPool} {t t' : Traced τ}

/-! ## The walk -/

/-- **What filling a pool does.**  Once reading is to stop, nothing.  Otherwise all parked buffers
are submitted in the order of their slots, or those in front of the first that is refused. -/
inductive Refill (p : TransferPool) (t : Traced τ) :
    (walked : List Slot) → Except TransferError Nat → TransferPool → Traced τ → Prop where
  | cancelled (requested : p.cancelRequested = true) : Refill p t [] (.ok 0) p t
  | all (t' : Traced τ) (running : p.cancelRequested = false)
      (calls : t'.calls = t.calls ++ (p.slots.findIdxs Slot.isParked).map (Call.submit · true)) :
      Refill p t p.slots (.ok (p.slots.countP Slot.isParked))
        { p with
          slots := p.slots.map Slot.walkedPast
          outstanding := p.outstanding + p.slots.countP Slot.isParked } t'
  | refused (walked : List Slot) (buffer : Buffer) (rest : List Slot) (e : TransferError)
      (t' : Traced τ) (running : p.cancelRequested = false)
      (slots : p.slots = walked ++ .parked buffer :: rest)
      (calls : t'.calls = t.calls ++ ((walked.findIdxs Slot.isParked).map (Call.submit · true) ++
        [.submit walked.length false])) :
      Refill p t walked (.error e)
        { p with
          slots := walked.map Slot.walkedPast ++ .empty :: rest
          outstanding := p.outstanding + walked.countP Slot.isParked } t'

section

variable [Transport τ]

/-- One step of the walk: past the slot, or no further. -/
theorem submitEach_step {passed todo : List Slot} {state : Slot}
    (hslots : p.slots = passed ++ state :: todo) (t : Traced τ) (count : Nat) (slots : List Nat) :
    (∃ t', t'.calls = t.calls ++ ([state].findIdxs Slot.isParked passed.length).map
          (Call.submit · true) ∧
        p.submitEach t count (passed.length :: slots) =
          { p with
            slots := passed ++ [state.walkedPast] ++ todo
            outstanding := p.outstanding + [state].countP Slot.isParked }.submitEach t'
              (count + [state].countP Slot.isParked) slots) ∨
      ∃ buffer e t', state = .parked buffer ∧
        t'.calls = t.calls ++ [.submit passed.length false] ∧
        p.submitEach t count (passed.length :: slots) =
          (.error e, { p with slots := passed ++ [.empty] ++ todo }, t') := by
  have hstate : p.slots[passed.length]? = some state := by simp [hslots]
  have hset (state' : Slot) : p.slots.set passed.length state' = passed ++ [state'] ++ todo := by
    simp [hslots]
  cases state with
  | parked buffer =>
    obtain ⟨t', htaken, heq⟩ | ⟨e, t', hrefused, heq⟩ := submit_cases t p passed.length buffer
    · refine .inl ⟨t', (Traced.submit_inner htaken).2, ?_⟩
      simp only [submitEach, hstate, heq, hset]
      rfl
    · refine .inr ⟨buffer, e, t', rfl, (Traced.submit_inner hrefused).2, ?_⟩
      simp only [submitEach, hstate, heq, hset]
  | inFlight =>
    refine .inl ⟨t, (List.append_nil _).symm, ?_⟩
    simp only [submitEach, hstate, hset]
    rfl
  | empty =>
    refine .inl ⟨t, (List.append_nil _).symm, ?_⟩
    simp only [submitEach, hstate, hset]
    rfl

/-- A walk over the slots behind those that were walked past. -/
theorem submitEach_range' {passed todo : List Slot} {count : Nat}
    {result : Except TransferError Nat} (hslots : p.slots = passed ++ todo)
    (h : p.submitEach t count (List.range' passed.length todo.length) = (result, p', t')) :
    (result = .ok (count + todo.countP Slot.isParked) ∧
      p' = { p with
        slots := passed ++ todo.map Slot.walkedPast
        outstanding := p.outstanding + todo.countP Slot.isParked } ∧
      t'.calls = t.calls ++ (todo.findIdxs Slot.isParked passed.length).map (Call.submit · true)) ∨
    ∃ walked buffer rest e, todo = walked ++ .parked buffer :: rest ∧ result = .error e ∧
      p' = { p with
        slots := passed ++ (walked.map Slot.walkedPast ++ .empty :: rest)
        outstanding := p.outstanding + walked.countP Slot.isParked } ∧
      t'.calls = t.calls ++
        ((walked.findIdxs Slot.isParked passed.length).map (Call.submit · true) ++
          [.submit (passed.length + walked.length) false]) := by
  -- on the slots to come; the one in front of them joins those that were walked past
  induction todo generalizing passed p t count with
  | nil =>
    cases h
    exact .inl ⟨rfl, by simp [← hslots], by simp⟩
  | cons state todo ih =>
    rw [List.length_cons, List.range'_succ] at h
    obtain ⟨t₁, hcalls, heq⟩ | ⟨buffer, e, t₁, rfl, hcalls, heq⟩ :=
      submitEach_step hslots t count (List.range' (passed.length + 1) todo.length)
    · rw [heq] at h
      have hlength : passed.length + 1 = (passed ++ [state.walkedPast]).length := by simp
      rw [hlength] at h
      rw [← List.singleton_append (l := todo)]
      obtain ⟨rfl, rfl, hmore⟩ | ⟨walked, buffer, rest, e, rfl, rfl, rfl, hmore⟩ := ih rfl h
      · refine .inl ⟨?_, ?_, ?_⟩
        · rw [List.countP_append, Nat.add_assoc]
        · simp only [List.countP_append, List.map_append, List.map_cons, List.map_nil,
            List.append_assoc, Nat.add_assoc]
        · rw [hmore, hcalls, ← hlength, List.findIdxs_append, List.map_append, List.append_assoc]
          rfl
      · refine .inr ⟨[state] ++ walked, buffer, rest, e, by simp, rfl, ?_, ?_⟩
        · simp only [List.countP_append, List.map_append, List.map_cons, List.map_nil,
            List.append_assoc, Nat.add_assoc]
        · rw [hmore, hcalls, ← hlength, List.findIdxs_append, List.map_append, List.append_assoc,
            List.length_append, List.append_assoc, Nat.add_assoc]
          rfl
    · cases heq.symm.trans h
      exact .inr ⟨[], buffer, todo, e, rfl, rfl, by simp, by simpa using hcalls⟩

/-- **What filling a pool does.** -/
theorem exists_refill {result : Except TransferError Nat}
    (h : p.submitAll t = (result, p', t')) : ∃ walked, Refill p t walked result p' t' := by
  unfold submitAll at h
  split at h
  · rename_i hrequested
    cases h
    exact ⟨[], .cancelled hrequested⟩
  · rename_i hrunning
    rw [Bool.not_eq_true] at hrunning
    rw [size, List.range_eq_range'] at h
    obtain ⟨rfl, rfl, hcalls⟩ | ⟨walked, buffer, rest, e, hslots, rfl, rfl, hcalls⟩ :=
      submitEach_range' (List.nil_append p.slots).symm h
    · rw [Nat.zero_add]
      exact ⟨p.slots, .all t' hrunning hcalls⟩
    · rw [List.length_nil, Nat.zero_add] at hcalls
      exact ⟨walked, .refused walked buffer rest e t' hrunning hslots hcalls⟩

end

/-! ## What becomes of the slots in flight -/

section

variable {walked : List Slot} {result : Except TransferError Nat}

/-- Submitted buffers are in flight, and nothing else is that was walked past. -/
theorem countP_map_walkedPast (walked : List Slot) :
    (walked.map Slot.walkedPast).countP Slot.isInFlight = walked.countP Slot.isParked := by
  rw [List.countP_map]
  congr 1
  funext state
  cases state <;> rfl

/-- **What becomes of the slots in flight**: submitted buffers are, and are counted; those that were
walked past are no more, but are still counted. -/
theorem Refill.countP_inFlight (h : Refill p t walked result p' t') :
    p'.outstanding + p.slots.countP Slot.isInFlight =
      p.outstanding + p'.slots.countP Slot.isInFlight + walked.countP Slot.isInFlight := by
  cases h with
  | cancelled => rfl
  | all =>
    simp only [countP_map_walkedPast]
  | refused _ buffer rest e _ _ slots =>
    have hempty : Slot.empty.isInFlight = false := rfl
    have hparked : (Slot.parked buffer).isInFlight = false := rfl
    simp only [slots, List.countP_append, List.countP_cons, countP_map_walkedPast, hempty, hparked]
    omega

/-- Submitted buffers are counted. -/
theorem Refill.outstanding_eq (h : Refill p t walked result p' t') :
    p'.outstanding = p.outstanding + walked.countP Slot.isParked := by
  cases h with
  | cancelled => rfl
  | all => rfl
  | refused => rfl

/-- The walk begins at the first slot. -/
theorem Refill.walked_prefix (h : Refill p t walked result p' t') : walked <+: p.slots := by
  cases h with
  | cancelled => exact List.nil_prefix
  | all => exact List.prefix_rfl
  | refused _ buffer rest e _ _ slots => exact slots ▸ List.prefix_append ..

@[simp]
theorem Refill.length_slots (h : Refill p t walked result p' t') :
    p'.slots.length = p.slots.length := by
  cases h with
  | cancelled => rfl
  | all => exact List.length_map ..
  | refused _ buffer rest e _ _ slots => simp [slots]

/-- **What becomes of a slot**: it is walked past, or it is left alone unless its buffer is
refused. -/
theorem Refill.slot_cases (h : Refill p t walked result p' t') {slot : Nat} {state : Slot}
    (hslot : p.slots[slot]? = some state) :
    (slot < walked.length ∧ p'.slots[slot]? = some state.walkedPast) ∨
      (walked.length ≤ slot ∧ (p'.slots[slot]? = some state ∨
        state.isParked = true ∧ p'.slots[slot]? = some .empty)) := by
  cases h with
  | cancelled => exact .inr ⟨Nat.zero_le _, .inl hslot⟩
  | all =>
    refine .inl ⟨(List.getElem?_eq_some_iff.mp hslot).1, ?_⟩
    rw [List.getElem?_map, hslot, Option.map_some]
  | refused _ buffer rest e _ _ slots =>
    rw [slots] at hslot
    rcases Nat.lt_or_ge slot walked.length with hlt | hle
    · rw [List.getElem?_append_left hlt] at hslot
      refine .inl ⟨hlt, ?_⟩
      rw [List.getElem?_append_left (by rwa [List.length_map]), List.getElem?_map, hslot,
        Option.map_some]
    · rw [List.getElem?_append_right hle] at hslot
      refine .inr ⟨hle, ?_⟩
      rw [List.getElem?_append_right (by rwa [List.length_map]), List.length_map]
      cases hindex : slot - walked.length with
      | zero =>
        rw [hindex] at hslot
        cases hslot
        exact .inr ⟨rfl, rfl⟩
      | succ index =>
        rw [hindex] at hslot
        exact .inl hslot

/-- A slot in flight stays in flight unless it is walked past. -/
theorem Refill.inFlight_iff (h : Refill p t walked result p' t') {slot : Nat}
    (hslot : p.slots[slot]? = some .inFlight) :
    p'.slots[slot]? = some .inFlight ↔ walked.length ≤ slot := by
  obtain ⟨hlt, hgone⟩ | ⟨hle, hkept | ⟨hparked, -⟩⟩ := h.slot_cases hslot
  · rw [hgone, ← Nat.not_lt]
    exact iff_of_false (by simp [Slot.walkedPast]) (not_not_intro hlt)
  · exact iff_of_true hkept hle
  · cases hparked

/-- **Slots in flight stay in flight** if and only if none of them is walked past. -/
theorem Refill.keeps_iff (h : Refill p t walked result p' t') :
    (∀ slot : Nat, p.slots[slot]? = some .inFlight → p'.slots[slot]? = some .inFlight) ↔
      .inFlight ∉ walked := by
  obtain ⟨rest, hslots⟩ := h.walked_prefix
  constructor
  · intro hall hmem
    obtain ⟨slot, hslot⟩ := List.getElem?_of_mem hmem
    have hlt := (List.getElem?_eq_some_iff.mp hslot).1
    have hflight : p.slots[slot]? = some .inFlight := by
      rw [← hslots, List.getElem?_append_left hlt, hslot]
    exact absurd ((h.inFlight_iff hflight).mp (hall slot hflight)) (Nat.not_le.mpr hlt)
  · intro hnot slot hflight
    apply (h.inFlight_iff hflight).mpr
    rw [← Nat.not_lt]
    intro hlt
    rw [← hslots, List.getElem?_append_left hlt] at hflight
    exact hnot (List.mem_of_getElem? hflight)

theorem mem_inFlightSlots {slot : Nat} :
    slot ∈ p.inFlightSlots ↔ p.slots[slot]? = some .inFlight := by
  rw [inFlightSlots, List.mem_findIdxs_iff_exists_getElem_pos, List.getElem?_eq_some_iff]
  simp only [Slot.isInFlight_iff]

theorem count_inFlightSlots (p : TransferPool) (slot : Nat) :
    p.inFlightSlots.count slot = if p.slots[slot]? = some .inFlight then 1 else 0 := by
  have hnodup : p.inFlightSlots.Nodup := List.nodup_findIdxs
  simp only [hnodup.count, mem_inFlightSlots]

theorem mem_droppedSlots {slot : Nat} :
    slot ∈ p.droppedSlots p' ↔
      p.slots[slot]? = some .inFlight ∧ p'.slots[slot]? ≠ some .inFlight := by
  rw [droppedSlots, List.mem_filter, mem_inFlightSlots, decide_eq_true_eq]

theorem count_droppedSlots (p p' : TransferPool) (slot : Nat) :
    (p.droppedSlots p').count slot =
      if p.slots[slot]? = some .inFlight ∧ p'.slots[slot]? ≠ some .inFlight then 1 else 0 := by
  have hnodup : (p.droppedSlots p').Nodup := List.nodup_findIdxs.filter _
  simp only [hnodup.count, mem_droppedSlots]

/-- **The reads that are lost** are those of the slots in flight that were walked past. -/
theorem Refill.droppedSlots_eq (h : Refill p t walked result p' t') :
    p.droppedSlots p' = walked.findIdxs Slot.isInFlight := by
  obtain ⟨rest, hslots⟩ := h.walked_prefix
  have hall : p.inFlightSlots = walked.findIdxs Slot.isInFlight ++
      rest.findIdxs Slot.isInFlight walked.length := by
    rw [inFlightSlots, ← hslots, List.findIdxs_append, Nat.zero_add]
  have hdropped {slot : Nat} (hslot : slot ∈ p.inFlightSlots) :
      p'.slots[slot]? ≠ some .inFlight ↔ slot < walked.length := by
    rw [ne_eq, h.inFlight_iff (mem_inFlightSlots.mp hslot), Nat.not_le]
  rw [droppedSlots, hall, List.filter_append, List.filter_eq_self.mpr, List.filter_eq_nil_iff.mpr,
    List.append_nil]
  · intro slot hslot
    have hle := List.ge_of_mem_findIdxs slot hslot
    rw [decide_eq_true_eq, hdropped (hall ▸ List.mem_append_right _ hslot)]
    omega
  · intro slot hslot
    obtain ⟨hlt, -⟩ := List.mem_findIdxs_iff_exists_getElem_pos.mp hslot
    rwa [decide_eq_true_eq, hdropped (hall ▸ List.mem_append_left _ hslot)]

/-- A parked buffer is submitted if it is walked past. -/
theorem Refill.count_parked (h : Refill p t walked result p' t') (slot : Nat) :
    (walked.findIdxs Slot.isParked).count slot =
      if slot < walked.length ∧ p.slots[slot]?.any Slot.isParked then 1 else 0 := by
  obtain ⟨rest, hslots⟩ := h.walked_prefix
  have hnodup : (walked.findIdxs Slot.isParked).Nodup := List.nodup_findIdxs
  have hparked (hlt : slot < walked.length) :
      p.slots[slot]?.any Slot.isParked = walked[slot].isParked := by
    rw [← hslots, List.getElem?_append_left hlt, List.getElem?_eq_getElem hlt, Option.any_some]
  rw [hnodup.count]
  congr 1
  rw [List.mem_findIdxs_iff_exists_getElem_pos, eq_iff_iff]
  exact ⟨fun ⟨hlt, h⟩ => ⟨hlt, by rwa [hparked hlt]⟩, fun ⟨hlt, h⟩ => ⟨hlt, by rwa [← hparked hlt]⟩⟩

/-- **What becomes of one slot**: a buffer that is submitted puts it in flight. -/
theorem Refill.slotwise (h : Refill p t walked result p' t') (slot : Nat) :
    (walked.findIdxs Slot.isParked).count slot +
        (if p.slots[slot]? = some .inFlight then 1 else 0) =
      (p.droppedSlots p').count slot + if p'.slots[slot]? = some .inFlight then 1 else 0 := by
  rw [h.count_parked, count_droppedSlots]
  cases hslot : p.slots[slot]? with
  | none =>
    have hnone : p'.slots[slot]? = none := by
      rw [List.getElem?_eq_none_iff] at hslot ⊢
      rwa [h.length_slots]
    simp [hnone]
  | some state =>
    cases state with
    | inFlight =>
      by_cases hkept : p'.slots[slot]? = some .inFlight <;> simp [hkept, Slot.isParked]
    | parked buffer =>
      obtain ⟨hlt, hnext⟩ | ⟨hle, hnext | ⟨-, hnext⟩⟩ := h.slot_cases hslot
      · simp [hnext, hlt, Slot.walkedPast, Slot.isParked]
      · simp [hnext, Nat.not_lt.mpr hle]
      · simp [hnext, Nat.not_lt.mpr hle]
    | empty =>
      obtain ⟨-, hnext⟩ | ⟨-, hnext | ⟨-, hnext⟩⟩ := h.slot_cases hslot <;>
        simp [hnext, Slot.walkedPast, Slot.isParked]

theorem Refill.submittedSlots_eq (h : Refill p t walked result p' t') :
    submittedSlots t'.calls = submittedSlots t.calls ++ walked.findIdxs Slot.isParked := by
  cases h with
  | cancelled => simp
  | all _ _ calls => rw [calls, submittedSlots_append, submittedSlots_map_submit]
  | refused _ buffer rest e _ _ slots calls =>
    rw [calls, submittedSlots_append, submittedSlots_append, submittedSlots_map_submit]
    exact congrArg _ (List.append_nil _)

end

/-! ## Draining -/

/-- **The reads that are counted are those of the slots in flight.** -/
def Sound (p : TransferPool) : Prop := p.outstanding = p.slots.countP Slot.isInFlight

/-- What the reports of some events make of a pool. -/
def acceptAll (p : TransferPool) (events : List ReadEvent) : TransferPool :=
  events.foldl (fun p event => (p.accept event).2) p

/-- A report counts if and only if its slot is in flight. -/
theorem isSome_accept_iff {event : ReadEvent} :
    (p.accept event).1.isSome ↔ p.slots[event.slot]? = some .inFlight := by
  by_cases hslot : p.slots[event.slot]? = some .inFlight
  · simp [accept_of_inFlight hslot, hslot]
  · simp [accept_of_not_inFlight hslot, hslot]

/-- A report that counts takes its slot off those in flight. -/
theorem countP_inFlight_accept {event : ReadEvent} (h : p.slots[event.slot]? = some .inFlight) :
    (p.accept event).2.slots.countP Slot.isInFlight + 1 = p.slots.countP Slot.isInFlight := by
  obtain ⟨hlt, hget⟩ := List.getElem?_eq_some_iff.mp h
  have hflight : Slot.inFlight.isInFlight = true := rfl
  have hempty : Slot.empty.isInFlight = false := rfl
  have hsome : 0 < p.slots.countP Slot.isInFlight :=
    List.countP_pos_iff.mpr ⟨.inFlight, List.mem_of_getElem? h, hflight⟩
  rw [accept_of_inFlight h]
  simp only [List.countP_set hlt, hget, hflight, hempty, if_true, Bool.false_eq_true, if_false]
  omega

/-- **Reports take as many reads off as slots**, so a read that is counted without a slot in flight
is counted for ever. -/
theorem accept_balance (event : ReadEvent) (h : p.slots.countP Slot.isInFlight ≤ p.outstanding) :
    (p.accept event).2.outstanding + p.slots.countP Slot.isInFlight =
        p.outstanding + (p.accept event).2.slots.countP Slot.isInFlight ∧
      (p.accept event).2.slots.countP Slot.isInFlight ≤ (p.accept event).2.outstanding := by
  by_cases hslot : p.slots[event.slot]? = some .inFlight
  · have hcount := countP_inFlight_accept hslot
    rw [accept_of_inFlight hslot] at hcount ⊢
    dsimp only at hcount ⊢
    omega
  · rw [accept_of_not_inFlight hslot]
    exact ⟨rfl, h⟩

/-- **The pools that can be drained by reports.** -/
theorem sound_iff_drains (h : p.slots.countP Slot.isInFlight ≤ p.outstanding) :
    p.Sound ↔ ∃ events, (p.acceptAll events).outstanding = 0 := by
  constructor
  · intro hsound
    induction hcount : p.slots.countP Slot.isInFlight generalizing p with
    | zero => exact ⟨[], hsound.trans hcount⟩
    | succ count ih =>
      have hpos : 0 < p.slots.countP Slot.isInFlight := by omega
      obtain ⟨state, hmem, hflight⟩ := List.countP_pos_iff.mp hpos
      obtain ⟨slot, hslot⟩ := List.getElem?_of_mem hmem
      cases state with
      | inFlight =>
        let event : ReadEvent := ⟨slot, .allocate 0, .received⟩
        have hless : (p.accept event).2.slots.countP Slot.isInFlight + 1 =
            p.slots.countP Slot.isInFlight := countP_inFlight_accept hslot
        obtain ⟨hbalance, hle⟩ := accept_balance event h
        have hnext : (p.accept event).2.Sound := by
          unfold Sound at hsound ⊢
          omega
        obtain ⟨events, hdrained⟩ := ih hle hnext (by omega)
        exact ⟨event :: events, hdrained⟩
      | parked => cases hflight
      | empty => cases hflight
  · rintro ⟨events, hdrained⟩
    induction events generalizing p with
    | nil =>
      have hnone : p.outstanding = 0 := hdrained
      unfold Sound
      omega
    | cons event events ih =>
      obtain ⟨hbalance, hle⟩ := accept_balance event h
      have hnext := ih hle hdrained
      unfold Sound at hnext ⊢
      omega

end TransferPool

end LogicAnalyzer
