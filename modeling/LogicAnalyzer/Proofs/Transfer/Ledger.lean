import LogicAnalyzer.Proofs.Transfer.Calls
import LogicAnalyzer.Proofs.Transfer.Pools
import LogicAnalyzer.Wire.Command

/-!
# The books of a pool

Whoever notes when the transport takes a buffer and when the pool accepts a report has for every
slot a submission and a report by turns.  The last submission is without its report if and only if
the slot is in flight, and the pool counts just these slots.  So if the pool counts none, every
submission has been matched by one report.

## Main definitions

* `Moment`: what is noted of a capture
* `moments`: what is noted of some calls
* `Matched`: every submission was followed by one report
* `TransferPool.Ledger`: the slots of a pool are what its notes say

## Main results

* `TransferPool.Ledger.matched`: a pool without a read out has all its submissions matched
* `TransferPool.Ledger.settle`, `cancelAll`, `submitEach_traced`, `resubmit_traced`: pools keep their
  books
-/

namespace LogicAnalyzer

/-! ## Notes -/

/-- What is noted of a capture. -/
inductive Moment where
  /-- The transport took a buffer for this slot. -/
  | submitted (slot : Nat)
  /-- The pool accepted the report of the read of this slot. -/
  | reported (slot : Nat)
  /-- By this report the read had failed because it was cancelled. -/
  | withdrawn
  /-- The command that shuts the device down was sent, taken or not. -/
  | shutdown
deriving DecidableEq

/-- What is noted of a report that the pool accepts. -/
def ReadEvent.notes (event : ReadEvent) : List Moment :=
  .reported event.slot :: if event.outcome = .failed .cancelled then [.withdrawn] else []

/-- What is noted of a call. -/
def Call.moment? : Call → Option Moment
  | .submit slot true => some (.submitted slot)
  | .send frame _ => if frame = Command.shutdown.frame then some .shutdown else none
  | _ => none

/-- What is noted of some calls. -/
def moments (calls : List Call) : List Moment := calls.filterMap Call.moment?

/-- None of the calls shuts the device down. -/
def Quiet (calls : List Call) : Prop := .shutdown ∉ moments calls

@[simp] theorem moments_nil : moments [] = [] := rfl

@[simp] theorem moments_append (calls more : List Call) :
    moments (calls ++ more) = moments calls ++ moments more := List.filterMap_append

theorem quiet_nil : Quiet [] := List.not_mem_nil

theorem quiet_append {calls more : List Call} : Quiet (calls ++ more) ↔ Quiet calls ∧ Quiet more := by
  simp only [Quiet, moments_append, List.mem_append, not_or]

/-- From `t` to `t'` these calls were taken down, and none of them shuts the device down. -/
structure Tells {τ : Type} (t : Traced τ) (calls : List Call) (t' : Traced τ) : Prop where
  calls_eq : t'.calls = t.calls ++ calls
  quiet : Quiet calls

theorem Tells.refl {τ : Type} (t : Traced τ) : Tells t [] t := ⟨(List.append_nil _).symm, quiet_nil⟩

theorem Tells.trans {τ : Type} {t t' t'' : Traced τ} {calls more : List Call} (h : Tells t calls t')
    (h' : Tells t' more t'') : Tells t (calls ++ more) t'' :=
  ⟨by rw [h'.calls_eq, h.calls_eq, List.append_assoc], quiet_append.mpr ⟨h.quiet, h'.quiet⟩⟩

/-- The notes about one slot. -/
def notesOf (slot : Nat) (notes : List Moment) : List Moment :=
  notes.filter fun
    | .submitted other | .reported other => other = slot
    | .withdrawn | .shutdown => false

@[simp] theorem notesOf_append (slot : Nat) (notes more : List Moment) :
    notesOf slot (notes ++ more) = notesOf slot notes ++ notesOf slot more := List.filter_append ..

theorem notesOf_submitted (slot other : Nat) :
    notesOf slot [.submitted other] = if other = slot then [.submitted other] else [] := by
  by_cases h : other = slot <;> simp [notesOf, h]

theorem notesOf_reported (slot other : Nat) :
    notesOf slot [.reported other] = if other = slot then [.reported other] else [] := by
  by_cases h : other = slot <;> simp [notesOf, h]

/-- So many submissions of a slot, each followed by its report. -/
def turns (slot : Nat) : Nat → List Moment
  | 0 => []
  | count + 1 => turns slot count ++ [.submitted slot, .reported slot]

/-- **Every submission was followed by one report**, and every report follows a submission, slot by
slot. -/
def Matched (notes : List Moment) : Prop := ∀ slot, ∃ count, notesOf slot notes = turns slot count

theorem Slot.isInFlight_iff {state : Slot} : state.isInFlight = true ↔ state = .inFlight := by
  cases state <;> simp [isInFlight]

namespace TransferPool

/-- **The slots of a pool are what its notes say.** -/
structure Ledger (p : TransferPool) (notes : List Moment) : Prop where
  /-- The slots in flight are counted. -/
  outstanding : p.outstanding = p.slots.countP Slot.isInFlight
  /-- The last submission of a slot in flight is without its report, and of no other. -/
  turns : ∀ slot, ∃ count, notesOf slot notes =
    turns slot count ++ if p.slots[slot]? = some .inFlight then [.submitted slot] else []

variable {p p' : TransferPool} {notes : List Moment} {slot : Nat} {event : ReadEvent}

/-- The books of a new pool are empty. -/
theorem ledger_allocate {size bufferSize : Nat} {p : TransferPool}
    (h : allocate size bufferSize = .ok p) :
    p.Ledger [] ∧ ∀ slot : Nat, p.slots[slot]? ≠ some .inFlight := by
  have hparked := not_inFlight_of_allocate h
  refine ⟨⟨?_, ?_⟩, hparked⟩
  · rw [allocate_eq_ok h, List.countP_replicate]
    rfl
  · intro slot
    exact ⟨0, by rw [if_neg (hparked slot)]; rfl⟩

/-- **A pool without a read out** has all its submissions matched. -/
theorem Ledger.matched (h : p.Ledger notes) (hdrained : p.outstanding = 0) : Matched notes := by
  intro slot
  obtain ⟨count, hnotes⟩ := h.turns slot
  have hnone : p.slots[slot]? ≠ some .inFlight := by
    intro hslot
    have hcount := h.outstanding.symm.trans hdrained
    exact List.countP_eq_zero.mp hcount _ (List.mem_of_getElem? hslot) rfl
  refine ⟨count, ?_⟩
  rw [hnotes, if_neg hnone, List.append_nil]

/-- A pool has a read out in every slot if and only if it counts that many. -/
theorem Ledger.outstanding_eq_size_iff (h : p.Ledger notes) :
    p.outstanding = p.size ↔ ∀ slot < p.size, p.slots[slot]? = some .inFlight := by
  rw [h.outstanding, size, List.countP_eq_length]
  constructor
  · intro hall slot hlt
    rw [List.getElem?_eq_getElem hlt, Slot.isInFlight_iff.mp (hall _ (List.getElem_mem hlt))]
  · intro hall state hmem
    obtain ⟨slot, hlt, rfl⟩ := List.mem_iff_getElem.mp hmem
    have hslot := hall slot hlt
    rw [List.getElem?_eq_getElem hlt] at hslot
    exact Slot.isInFlight_iff.mpr (Option.some.inj hslot)

/-- Notes about something else do not matter. -/
theorem Ledger.skip (h : p.Ledger notes) {more : List Moment}
    (hmore : ∀ slot, notesOf slot more = []) : p.Ledger (notes ++ more) where
  outstanding := h.outstanding
  turns slot := by
    obtain ⟨count, hnotes⟩ := h.turns slot
    exact ⟨count, by rw [notesOf_append, hmore, List.append_nil, hnotes]⟩

/-- A slot in flight whose report is accepted. -/
theorem Ledger.report (h : p.Ledger notes) (hslot : p.slots[slot]? = some .inFlight) :
    Ledger { p with slots := p.slots.set slot .empty, outstanding := p.outstanding - 1 }
      (notes ++ [.reported slot]) where
  outstanding := by
    obtain ⟨hlt, hget⟩ := List.getElem?_eq_some_iff.mp hslot
    simp only [h.outstanding, List.countP_set hlt, hget]
    rfl
  turns other := by
    obtain ⟨count, hnotes⟩ := h.turns other
    rw [notesOf_append, hnotes, notesOf_reported, List.getElem?_set]
    by_cases heq : slot = other
    · subst heq
      refine ⟨count + 1, ?_⟩
      have hlt := (List.getElem?_eq_some_iff.mp hslot).1
      rw [if_pos hslot]
      simp [LogicAnalyzer.turns, hlt]
    · exact ⟨count, by rw [if_neg heq, if_neg heq, List.append_nil]⟩

theorem isInFlight_getElem (hslot : p.slots[slot]? ≠ some .inFlight)
    (hlt : slot < p.slots.length) : p.slots[slot].isInFlight = false := by
  apply Bool.eq_false_iff.mpr
  intro hflight
  rw [List.getElem?_eq_getElem hlt, Slot.isInFlight_iff.mp hflight] at hslot
  exact hslot rfl

/-- A slot that is not in flight may come to hold anything else. -/
theorem Ledger.put (h : p.Ledger notes) (hslot : p.slots[slot]? ≠ some .inFlight) {state : Slot}
    (hstate : state ≠ .inFlight) : Ledger { p with slots := p.slots.set slot state } notes where
  outstanding := by
    by_cases hlt : slot < p.slots.length
    · have hquiet : ¬state.isInFlight = true := mt Slot.isInFlight_iff.mp hstate
      simp [h.outstanding, List.countP_set hlt, isInFlight_getElem hslot hlt, hquiet]
    · rw [List.set_eq_of_length_le (Nat.le_of_not_lt hlt)]
      exact h.outstanding
  turns other := by
    obtain ⟨count, hnotes⟩ := h.turns other
    refine ⟨count, ?_⟩
    rw [hnotes, List.getElem?_set]
    by_cases heq : slot = other
    · subst heq
      rw [if_pos rfl, if_neg hslot, if_neg]
      split <;> simp [hstate]
    · rw [if_neg heq]

/-- A buffer that the transport takes for a slot that is not in flight. -/
theorem Ledger.submit (h : p.Ledger notes) (hslot : p.slots[slot]? ≠ some .inFlight)
    (hlt : slot < p.slots.length) :
    Ledger { p with slots := p.slots.set slot .inFlight, outstanding := p.outstanding + 1 }
      (notes ++ [.submitted slot]) where
  outstanding := by
    have hflight : Slot.inFlight.isInFlight = true := rfl
    simp [h.outstanding, List.countP_set hlt, isInFlight_getElem hslot hlt, hflight]
  turns other := by
    obtain ⟨count, hnotes⟩ := h.turns other
    refine ⟨count, ?_⟩
    rw [notesOf_append, hnotes, notesOf_submitted, List.getElem?_set]
    by_cases heq : slot = other
    · subst heq
      rw [if_neg hslot]
      simp [hlt]
    · rw [if_neg heq, if_neg heq, List.append_nil]

/-- The report of a read whose buffer is then on loan. -/
theorem Ledger.accept (h : p.Ledger notes) (hslot : p.slots[event.slot]? = some .inFlight) :
    (p.accept event).2.slots[event.slot]? = some .empty ∧
      (p.accept event).2.Ledger (notes ++ event.notes) := by
  rw [accept_of_inFlight hslot]
  refine ⟨List.getElem?_set_self (List.getElem?_eq_some_iff.mp hslot).1, ?_⟩
  rw [ReadEvent.notes, List.append_cons]
  apply (h.report hslot).skip
  intro slot
  split <;> rfl

/-- The report of a read whose buffer is then parked. -/
theorem Ledger.settle (h : p.Ledger notes) (hslot : p.slots[event.slot]? = some .inFlight) :
    (p.settle event).Ledger (notes ++ event.notes) := by
  obtain ⟨hempty, haccepted⟩ := h.accept hslot
  rw [settle_of_inFlight hslot]
  exact haccepted.put (by simp [hempty]) (by simp)

/-! ## What pools tell their transport -/

variable {τ : Type} [Transport τ] {t t' : Traced τ}

/-- A buffer that the transport takes or refuses, for a slot that is not in flight. -/
theorem Ledger.submit_traced (h : p.Ledger notes) (hslot : p.slots[slot]? ≠ some .inFlight)
    (hlt : slot < p.slots.length) {buffer : Buffer} {result : Except TransferError Unit}
    (hsubmit : p.submit t slot buffer = (result, p', t')) :
    ∃ calls, Tells t calls t' ∧ p'.Ledger (notes ++ moments calls) := by
  have hcalls : ∀ {taken t₁}, Transport.submit t slot buffer.clear = (taken, t₁) →
      t₁.calls = t.calls ++ [.submit slot taken.isOk] := by
    intro taken t₁ heq
    cases heq
    rfl
  obtain ⟨t₁, htaken, heq⟩ | ⟨e, t₁, hrefused, heq⟩ := submit_cases t p slot buffer
  · cases heq.symm.trans hsubmit
    refine ⟨[.submit slot true], ⟨hcalls htaken, ?_⟩, h.submit hslot hlt⟩
    simp [Quiet, moments, Call.moment?]
  · cases heq.symm.trans hsubmit
    refine ⟨[.submit slot false], ⟨hcalls hrefused, List.not_mem_nil⟩, ?_⟩
    exact (h.put hslot (by simp)).skip fun _ => rfl

/-- **Submitting parked buffers**, each of another slot. -/
theorem Ledger.submitEach_traced {slots : List Nat} {count : Nat}
    {result : Except TransferError Nat} (h : p.Ledger notes) (hnodup : slots.Nodup)
    (hslots : ∀ slot ∈ slots, p.slots[slot]? ≠ some .inFlight)
    (hsubmit : p.submitEach t count slots = (result, p', t')) :
    ∃ calls, Tells t calls t' ∧ p'.Ledger (notes ++ moments calls) := by
  refine of_submitEach
    (motive := fun p u => ∃ calls, Tells t calls u ∧ p.Ledger (notes ++ moments calls))
    ?_ ?_ hnodup hslots hsubmit ⟨[], .refl t, by rwa [moments_nil, List.append_nil]⟩
  · rintro p u slot buffer result p' u' ⟨calls, htells, hledger⟩ hparked hone
    have hlt := (List.getElem?_eq_some_iff.mp hparked).1
    obtain ⟨more, htells', hledger'⟩ := hledger.submit_traced (by simp [hparked]) hlt hone
    exact ⟨calls ++ more, htells.trans htells', by rwa [moments_append, ← List.append_assoc]⟩
  · rintro p u slot ⟨calls, htells, hledger⟩ hslot
    exact ⟨calls, htells, hledger.put hslot (by simp)⟩

/-- A buffer that is on loan is submitted again, or parked. -/
theorem Ledger.resubmit_traced (h : p.Ledger notes) (hslot : p.slots[slot]? = some .empty)
    {buffer : Buffer} {result : Except TransferError Unit}
    (hresubmit : p.resubmit t slot buffer = (result, p', t')) :
    ∃ calls, Tells t calls t' ∧ p'.Ledger (notes ++ moments calls) := by
  have hnot : p.slots[slot]? ≠ some .inFlight := by simp [hslot]
  unfold resubmit at hresubmit
  split at hresubmit
  · cases hresubmit
    refine ⟨[], .refl _, ?_⟩
    rw [moments_nil, List.append_nil]
    exact h.put hnot (by simp)
  · exact h.submit_traced hnot (List.getElem?_eq_some_iff.mp hslot).1 hresubmit

/-- Asking for the cancellation of all reads moves none of them. -/
theorem Ledger.cancelAll (h : p.Ledger notes) (t : Traced τ) : (p.cancelAll t).1.Ledger notes := by
  unfold TransferPool.cancelAll
  split
  · exact h
  · exact ⟨h.outstanding, h.turns⟩

/-- The transport hears of it at most once. -/
theorem exists_tells_cancelAll (p : TransferPool) (t : Traced τ) :
    ∃ calls, Tells t calls (p.cancelAll t).2 ∧ (calls = [] ∨ calls = [.cancelAll]) := by
  unfold cancelAll
  split
  · exact ⟨[], .refl t, .inl rfl⟩
  · split
    · exact ⟨[.cancelAll], ⟨rfl, List.not_mem_nil⟩, .inr rfl⟩
    · exact ⟨[], .refl t, .inl rfl⟩

/-- Stopping at once does not shut the device down. -/
theorem exists_tells_abandon (h : p.abandon t = some (p', t')) : ∃ calls, Tells t calls t' := by
  obtain ⟨p₁, t₁, hsettle, hdone⟩ := abandon_cases h
  have hnext {u u' : Traced τ} {event : Option ReadEvent} (htold : ∃ calls, Tells t calls u)
      (heq : Transport.next u = (event, u')) : ∃ calls, Tells t calls u' := by
    obtain ⟨calls, htells⟩ := htold
    cases heq
    exact ⟨_, htells.trans ⟨rfl, List.not_mem_nil⟩⟩
  have hsettled : ∃ calls, Tells t calls t₁ := by
    obtain ⟨calls, hcancel, -⟩ := exists_tells_cancelAll p t
    exact of_settleReady (motive := fun _ u => ∃ calls, Tells t calls u) hnext hnext hsettle
      ⟨calls, hcancel⟩
  obtain ⟨-, rfl⟩ | rfl := hdone
  · exact hsettled
  · obtain ⟨calls, htells⟩ := hsettled
    exact ⟨_, htells.trans ⟨rfl, List.not_mem_nil⟩⟩

end TransferPool

end LogicAnalyzer
