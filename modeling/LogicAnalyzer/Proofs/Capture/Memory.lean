import LogicAnalyzer.Proofs.Capture.Runs

/-!
# Memory for a capture

A start asks for memory before it does anything else: first for the slots of its pool, and then for
one buffer after another.  If a request is refused it fails, nothing is sent and nothing has
changed, and the failure tells how many bytes the refused request was for.  It tells that in a
machine word.  The slots of a very large pool take more bytes than a word can count, and then the
program ends where it counts them.

## Main definitions

* `TransferPool.requests`, `refused?`: what is asked for, and the first request that is refused
* `TransferPool.ofSize`: a pool with all buffers parked
* `Controller.launched`, `StartsWith`: what a launch comes to, and a start that goes on with a pool

## Main results

* `TransferPool.allocate_of_refused`, `allocate_of_granted`: how the requests are answered
* `Controller.start_of_allocate_error`, `startsWith_of_allocate_ok`: what a start makes of the
  answers
* `Controller.refused_request_told`: what a start does, and when it tells of a refused request
* `Controller.refused_request_untold`: a refused request that is not told of
-/

namespace LogicAnalyzer

namespace TransferPool

variable {size bufferSize bytes : Nat}

/-! ## Requests -/

/-- **The requests for memory** for a pool, one after another, in bytes. -/
def requests (size bufferSize : Nat) : List Nat :=
  slotBytes * size :: List.replicate size bufferSize

/-- The first request that is refused. -/
def refused? (size bufferSize : Nat) : Option Nat :=
  (requests size bufferSize).find? (maxAllocation < ·)

/-- A pool with all buffers parked, and nothing in them. -/
def ofSize (size bufferSize : Nat) : TransferPool where
  slots := List.replicate size (.parked (.allocate bufferSize))

/-- The slots are asked for first, and the buffers are all of one size. -/
theorem refused?_eq (size bufferSize : Nat) :
    refused? size bufferSize =
      if maxAllocation < slotBytes * size then some (slotBytes * size)
      else if size ≠ 0 ∧ maxAllocation < bufferSize then some bufferSize
      else none := by
  rw [refused?, requests, List.find?_cons, List.find?_replicate]
  by_cases hslots : maxAllocation < slotBytes * size
  · simp [hslots]
  · by_cases hsize : size = 0
    · simp [hsize]
    · simp [hslots, hsize]

/-- **A refused request** is told, if a machine word can count its bytes. -/
theorem allocate_of_refused (hbuffer : bufferSize < UInt64.size)
    (h : refused? size bufferSize = some bytes) :
    allocate size bufferSize =
      .error (if bytes < UInt64.size then .refused (UInt64.ofNat bytes) else .overflow) := by
  rw [refused?_eq] at h
  unfold allocate
  split at h
  · rename_i hslots
    cases h
    rw [if_pos hslots, slotRefusal]
  · rename_i hslots
    split at h
    · rename_i hbuffers
      cases h
      rw [if_neg hslots, if_pos hbuffers, if_pos hbuffer]
    · cases h

/-- **If none is refused** the pool is there. -/
theorem allocate_of_granted (h : refused? size bufferSize = none) :
    allocate size bufferSize = .ok (ofSize size bufferSize) := by
  rw [refused?_eq] at h
  unfold allocate
  split at h
  · cases h
  · rename_i hslots
    split at h
    · cases h
    · rename_i hbuffers
      rw [if_neg hslots, if_neg hbuffers]
      rfl

/-- Memory that is granted can be counted in a machine word. -/
theorem slotBytes_lt_of_granted (h : refused? size bufferSize = none) :
    slotBytes * size < UInt64.size := by
  have hgranted := List.find?_eq_none.mp h (slotBytes * size) (List.mem_cons_self ..)
  have hword : maxAllocation < UInt64.size := by decide
  rw [decide_eq_true_eq] at hgranted
  omega

/-- **The refused request can be counted** in a machine word if and only if the bytes of the slots
can. -/
theorem refused_lt_iff (hbuffer : bufferSize < UInt64.size)
    (h : refused? size bufferSize = some bytes) :
    bytes < UInt64.size ↔ slotBytes * size < UInt64.size := by
  rw [refused?_eq] at h
  split at h
  · cases h
    rfl
  · rename_i hslots
    split at h
    · cases h
      have hmax : maxAllocation < UInt64.size := by decide
      exact iff_of_true hbuffer (by omega)
    · cases h

end TransferPool

namespace Controller

variable {τ σ : Type} [Transport τ] [Sink σ] {c : Controller τ σ}

/-! ## Starts -/

/-- **What a start comes to**, by what its launch came to. -/
def launched (c : Controller τ σ) (rate : UInt64) :
    Except TransferError TransferPool × τ → Except Failure Unit × Controller τ σ
  | (.error e, transport) => (.error (.transfer e), c.withTransport transport)
  | (.ok pool, transport) => (.ok (), c.begun rate pool transport)

/-- **A start goes on with this pool**, and launches it, unless the commands cannot be encoded. -/
def StartsWith (c : Controller τ σ) (pool : TransferPool) : Prop :=
  (∃ e, c.start = some (.error (.command e), c)) ∨
    ∃ commands,
      c.prepare (c.session.sampleRate.getD SampleRate.standard) = .ok (pool, commands) ∧
      c.start = (launch c.session.transport pool commands).map
        (c.launched (c.session.sampleRate.getD SampleRate.standard))

omit [Transport τ] [Sink σ] in
theorem prepare_of_allocate_error {e : AllocationError} (rate : UInt64)
    (h : TransferPool.allocate c.poolSize c.bufferSize = .error e) :
    c.prepare rate = .error (.allocation e) := by
  rw [prepare, h]
  rfl

omit [Transport τ] [Sink σ] in
theorem prepare_of_allocate_ok {pool : TransferPool} (rate : UInt64)
    (h : TransferPool.allocate c.poolSize c.bufferSize = .ok pool) :
    (∃ e, c.prepare rate = .error (.command e)) ∨
      ∃ commands, c.prepare rate = .ok (pool, commands) := by
  unfold prepare
  dsimp only
  rw [h]
  cases Command.encode c.session.model.channelCount (.configureTriggers c.session.masks) with
  | error e => exact .inl ⟨e, rfl⟩
  | ok configure =>
    cases Command.encode c.session.model.channelCount (.arm rate c.session.sampleLimit) with
    | error e => exact .inl ⟨e, rfl⟩
    | ok arm => exact .inr ⟨[configure, arm], rfl⟩

/-- **Without memory** a start fails, and nothing has changed. -/
theorem start_of_allocate_error {e : AllocationError} (hactive : c.session.status = .active)
    (hidle : c.acquisition = none)
    (h : TransferPool.allocate c.poolSize c.bufferSize = .error e) :
    c.start = some (.error (.allocation e), c) := by
  have hdue : ¬c.session.status ≠ .active := not_not_intro hactive
  have hnone : ¬c.acquisition.isSome = true := by simp [hidle]
  simp only [start, if_neg hdue, if_neg hnone, prepare_of_allocate_error _ h]

/-- **With it** the pool is launched. -/
theorem startsWith_of_allocate_ok {pool : TransferPool} (hactive : c.session.status = .active)
    (hidle : c.acquisition = none)
    (h : TransferPool.allocate c.poolSize c.bufferSize = .ok pool) : c.StartsWith pool := by
  have hdue : ¬c.session.status ≠ .active := not_not_intro hactive
  have hnone : ¬c.acquisition.isSome = true := by simp [hidle]
  obtain ⟨e, hprepare⟩ | ⟨commands, hprepare⟩ :=
    prepare_of_allocate_ok (c.session.sampleRate.getD SampleRate.standard) h
  · refine .inl ⟨e, ?_⟩
    simp only [start, if_neg hdue, if_neg hnone, hprepare]
  · refine .inr ⟨commands, hprepare, ?_⟩
    simp only [start, if_neg hdue, if_neg hnone, hprepare]
    rfl

/-- **What a start of an active session makes of its memory**, for any size of pool and buffers.
While a capture is running it asks for none.  If a request is refused, nothing is sent and nothing
has changed, and the start fails with just the bytes of that request if a machine word can count
the bytes of the slots, and ends the program if it cannot.  If none is refused it always can, and
the start goes on with a pool of as many empty buffers as were chosen, one at least. -/
theorem refused_request_told (poolSize bufferSize : UInt64) (hactive : c.session.status = .active) :
    (c.isAcquiring = true →
      (c.withTransferPool poolSize.toNat bufferSize.toNat).start =
        some (.error (.session .acquisitionInProgress),
          c.withTransferPool poolSize.toNat bufferSize.toNat)) ∧
    (c.isAcquiring = false →
      match TransferPool.refused? (max poolSize.toNat 1) bufferSize.toNat with
      | some bytes =>
        (TransferPool.slotBytes * max poolSize.toNat 1 < UInt64.size →
          ∃ told : UInt64, told.toNat = bytes ∧
            (c.withTransferPool poolSize.toNat bufferSize.toNat).start =
              some (.error (.allocation (.refused told)),
                c.withTransferPool poolSize.toNat bufferSize.toNat)) ∧
        (UInt64.size ≤ TransferPool.slotBytes * max poolSize.toNat 1 →
          (c.withTransferPool poolSize.toNat bufferSize.toNat).start =
            some (.error (.allocation .overflow),
              c.withTransferPool poolSize.toNat bufferSize.toNat))
      | none =>
        TransferPool.slotBytes * max poolSize.toNat 1 < UInt64.size ∧
          (c.withTransferPool poolSize.toNat bufferSize.toNat).StartsWith
            (.ofSize (max poolSize.toNat 1) bufferSize.toNat)) := by
  refine ⟨?_, ?_⟩
  · intro hacquiring
    have hdue : ¬(c.withTransferPool poolSize.toNat bufferSize.toNat).session.status ≠ .active :=
      not_not_intro hactive
    have hrunning :
        (c.withTransferPool poolSize.toNat bufferSize.toNat).acquisition.isSome = true := hacquiring
    rw [start, if_neg hdue, if_pos hrunning]
  · intro hacquiring
    have hidle : (c.withTransferPool poolSize.toNat bufferSize.toNat).acquisition = none :=
      isAcquiring_eq_false.mp hacquiring
    split
    · rename_i bytes hrefused
      have hcounted := TransferPool.refused_lt_iff bufferSize.toNat_lt hrefused
      have hallocate := TransferPool.allocate_of_refused bufferSize.toNat_lt hrefused
      have hstart := start_of_allocate_error
        (c := c.withTransferPool poolSize.toNat bufferSize.toNat) hactive hidle hallocate
      refine ⟨?_, ?_⟩
      · intro hslots
        have hbytes := hcounted.mpr hslots
        rw [if_pos hbytes] at hstart
        exact ⟨UInt64.ofNat bytes, UInt64.toNat_ofNat_of_lt' hbytes, hstart⟩
      · intro hslots
        have hbytes : ¬bytes < UInt64.size := mt hcounted.mp (Nat.not_lt.mpr hslots)
        rwa [if_neg hbytes] at hstart
    · rename_i hgranted
      have hallocate := TransferPool.allocate_of_granted hgranted
      exact ⟨TransferPool.slotBytes_lt_of_granted hgranted,
        startsWith_of_allocate_ok hactive hidle hallocate⟩

/-- Two buffers of which none can be had. -/
theorem refused_request_told_of_large_buffer :
    ∃ (answers : List Answer) (c : Controller SimulatedDevice (List StreamEvent)) (told : UInt64),
      (new (.new { model := .lwla1016 } .lwla1016) []).performAll [.openDevice] =
          some (answers, c) ∧
        c.session.status = .active ∧ told.toNat = 9223372036854775808 ∧
        (c.withTransferPool 2 9223372036854775808).start =
          some (.error (.allocation (.refused told)),
            c.withTransferPool 2 9223372036854775808) := by
  have htold := refused_request_told (c := (new (.new { model := .lwla1016 } .lwla1016) [] :
    Controller SimulatedDevice (List StreamEvent)).onSession Session.openDevice |>.2) 2
    9223372036854775808 rfl
  obtain ⟨told, hbytes, hstart⟩ := (htold.2 rfl).1 (by decide)
  exact ⟨_, _, told, rfl, rfl, hbytes, hstart⟩

/-- **A refused request that is not told of**: the slots of this many reads take more bytes than a
machine word can count. -/
theorem refused_request_untold :
    ∃ (answers : List Answer) (c : Controller SimulatedDevice (List StreamEvent)),
      (new (.new { model := .lwla1016 } .lwla1016) []).performAll
          [.openDevice, .setTransferPool 1152921504606846976 8] = some (answers, c) ∧
        c.session.status = .active ∧ c.acquisition = none ∧
        TransferPool.refused? 1152921504606846976 8 =
          some (TransferPool.slotBytes * 1152921504606846976) ∧
        c.start = some (.error (.allocation .overflow), c) ∧
        ∀ (told : UInt64) (c' : Controller SimulatedDevice (List StreamEvent)),
          c.start ≠ some (.error (.allocation (.refused told)), c') := by
  refine ⟨_, _, rfl, rfl, rfl, rfl, rfl, ?_⟩
  intro told c' hstart
  cases hstart

end Controller

end LogicAnalyzer
