import LogicAnalyzer.Proofs.Device.Reads
import LogicAnalyzer.Proofs.Transfer.Pools

/-!
# Reads on a device with faults

Whatever faults it was told of, the simulated device reports its oldest read or none, and keeps a
buffer that it takes as its newest read.  So the pool and the device agree on the reads that are
out also where submissions are refused and reads fail, and after the pool has stopped at once no
read is left.

## Main definitions

* `SimulatedDevice.Readies`: how a read becomes ready

## Main results

* `SimulatedDevice.next_cases`, `next_none`, `submit_ok`, `submit_error`: reads and reports
* `TransferPool.Expects.settle`, `Expects.submitEach`, `Expects.cancelAll`: the agreement is kept
* `TransferPool.pending_of_abandon`: no read is left
-/

namespace LogicAnalyzer

namespace SimulatedDevice

variable {d d' : SimulatedDevice} {event : ReadEvent}

/-- **How a read becomes ready**: the event that reports it, and what is left of the stream. -/
inductive Readies (d : SimulatedDevice) (read : PendingRead) : ReadEvent → List UInt8 → Prop where
  /-- Its cancellation is confirmed. -/
  | confirms (cancelled : read.cancelled = true) (free : d.holdsCancellations = false) :
      Readies d read ⟨read.slot, read.buffer, .cancelled⟩ d.stream
  /-- It fails as the device was told. -/
  | fails {error : TransferError} (cancelled : read.cancelled = false)
      (failure : d.failure? = some error) :
      Readies d read ⟨read.slot, read.buffer, .failed error⟩ d.stream
  /-- It takes what there is room for. -/
  | receives (cancelled : read.cancelled = false) (failure : d.failure? = none)
      (stream : d.stream ≠ []) :
      Readies d read
        ⟨read.slot, read.buffer.append (d.stream.take (max read.buffer.capacity 1)), .received⟩
        (d.stream.drop (max read.buffer.capacity 1))

theorem readies_of_complete {read : PendingRead} {stream : List UInt8}
    (h : d.complete read = some (event, stream)) : d.Readies read event stream := by
  unfold complete at h
  split at h
  · rename_i hcancelled
    split at h
    · cases h
    · rename_i hfree
      cases h
      exact .confirms hcancelled (by simpa using hfree)
  · rename_i hcancelled
    have hkept : read.cancelled = false := by simpa using hcancelled
    split at h
    · rename_i error hfailure
      cases h
      exact .fails hkept hfailure
    · rename_i hfailure
      split at h
      · cases h
      · rename_i hstream
        cases h
        exact .receives hkept hfailure (mt List.isEmpty_iff.mpr hstream)

/-- **An event reports the oldest read**, which is not out any more. -/
theorem next_cases (h : d.next = (some event, d')) :
    ∃ read rest stream, d.pending = read :: rest ∧ d.Readies read event stream ∧
      d' = { d with stream, pending := rest, completions := d.completions + 1 } := by
  unfold next at h
  split at h
  · cases h
  · rename_i read rest hpending
    split at h
    · cases h
    · rename_i reported stream hcomplete
      cases h
      exact ⟨read, rest, stream, hpending, readies_of_complete hcomplete, rfl⟩

/-- **An event is the report of the oldest read**, and confirms a cancellation if and only if that
read was cancelled. -/
theorem next_some (h : d.next = (some event, d')) :
    ∃ read rest, d.pending = read :: rest ∧ d'.pending = rest ∧
      d'.holdsCancellations = d.holdsCancellations ∧ event.slot = read.slot ∧
      (event.outcome = .cancelled ↔ read.cancelled = true) := by
  obtain ⟨read, rest, stream, hpending, hready, rfl⟩ := next_cases h
  refine ⟨read, rest, hpending, rfl, rfl, ?_⟩
  cases hready with
  | confirms cancelled free => exact ⟨rfl, by simp [cancelled]⟩
  | fails cancelled failure => exact ⟨rfl, by simp [cancelled]⟩
  | receives cancelled failure stream => exact ⟨rfl, by simp [cancelled]⟩

theorem completionFailure_send (d : SimulatedDevice) (frame : Frame) :
    (d.send frame).2.completionFailure = d.completionFailure := by
  unfold send
  split <;> rfl

theorem completionFailure_submit (d : SimulatedDevice) (slot : Nat) (buffer : Buffer) :
    (d.submit slot buffer).2.completionFailure = d.completionFailure := by
  unfold submit
  dsimp only
  split <;> rfl

/-- The device stays told which read fails. -/
theorem completionFailure_next (h : d.next = (some event, d')) :
    d'.completionFailure = d.completionFailure := by
  obtain ⟨read, rest, stream, -, -, rfl⟩ := next_cases h
  rfl

theorem completionFailure_of_failure {error : TransferError} (h : d.failure? = some error) :
    ∃ index, d.completionFailure = some (index, error) := by
  unfold failure? at h
  split at h
  · rename_i index told hfault
    split at h
    · cases h
      exact ⟨index, hfault⟩
    · cases h
  · cases h

/-- A read fails only as the device is told. -/
theorem exists_of_next_failed {e : TransferError} (h : d.next = (some event, d'))
    (houtcome : event.outcome = .failed e) : ∃ index, d.completionFailure = some (index, e) := by
  obtain ⟨read, rest, stream, -, hready, -⟩ := next_cases h
  cases hready with
  | confirms cancelled free => cases houtcome
  | fails cancelled failure =>
    cases houtcome
    exact completionFailure_of_failure failure
  | receives cancelled failure stream => cases houtcome

/-- Without an event nothing changes. -/
theorem next_none (h : d.next = (none, d')) : d' = d := by
  unfold next at h
  split at h
  · cases h
    rfl
  · split at h
    · cases h
      rfl
    · cases h

/-- **What becomes of a cancelled read**: it is confirmed unless confirmations are held, whatever
fault the device was told of, and takes nothing off the stream. -/
theorem next_cancelled {read : PendingRead} {rest : List PendingRead}
    (hpending : d.pending = read :: rest) (hcancelled : read.cancelled = true) :
    d.next =
      if d.holdsCancellations then (none, d)
      else (some ⟨read.slot, read.buffer, .cancelled⟩,
        { d with pending := rest, completions := d.completions + 1 }) := by
  simp only [next, hpending, complete, hcancelled, if_true]
  cases d.holdsCancellations <;> rfl

theorem exists_next_of_cancelled {read : PendingRead} {rest : List PendingRead}
    (hpending : d.pending = read :: rest) (hcancelled : read.cancelled = true)
    (hholds : d.holdsCancellations = false) : ∃ event d', d.next = (some event, d') := by
  rw [next_cancelled hpending hcancelled, if_neg (by simp [hholds])]
  exact ⟨_, _, rfl⟩

theorem submit_ok {slot : Nat} {buffer : Buffer} (h : d.submit slot buffer = (.ok (), d')) :
    d'.pending = d.pending ++ [⟨slot, buffer, false⟩] ∧ d'.holdsCancellations = d.holdsCancellations := by
  unfold submit at h
  dsimp only at h
  split at h
  · cases h
  · cases h
    exact ⟨rfl, rfl⟩

theorem submit_error {slot : Nat} {buffer : Buffer} {e : TransferError}
    (h : d.submit slot buffer = (.error e, d')) :
    d'.pending = d.pending ∧ d'.holdsCancellations = d.holdsCancellations := by
  unfold submit at h
  dsimp only at h
  split at h
  · cases h
    exact ⟨rfl, rfl⟩
  · cases h

/-- A buffer that is refused is a fault. -/
theorem eq_fault_of_submit {slot : Nat} {buffer : Buffer} {e : TransferError}
    (h : d.submit slot buffer = (.error e, d')) : e = .fault := by
  unfold submit at h
  dsimp only at h
  split at h
  · cases h
    rfl
  · cases h

/-- Commands do not touch the reads. -/
theorem send_keeps (d : SimulatedDevice) (frame : Frame) :
    (d.send frame).2.pending = d.pending ∧
      (d.send frame).2.holdsCancellations = d.holdsCancellations := by
  unfold send
  split <;> exact ⟨rfl, rfl⟩

end SimulatedDevice

namespace TransferPool

variable {p p' : TransferPool} {d d' : SimulatedDevice} {reads rest : List PendingRead}
  {read : PendingRead}

/-- The report of the oldest read counts, and its buffer can be parked. -/
theorem Expects.settle (h : p.Expects (read :: rest)) {event : ReadEvent}
    (hslot : event.slot = read.slot) : (p.settle event).Expects rest := by
  obtain ⟨hfresh, -⟩ := List.nodup_cons.mp h.nodup
  obtain ⟨p', hp', -, -, haccept⟩ := h.accept event hslot
  simp only [TransferPool.settle, haccept]
  apply hp'.park
  rwa [hslot]

/-- A buffer is submitted for a slot that is not in flight: the device has it now, or it is lost. -/
theorem Expects.submit_device (h : p.Expects d.pending) {slot : Nat} {buffer : Buffer}
    {result : Except TransferError Unit} (hslot : p.slots[slot]? ≠ some .inFlight)
    (hlt : slot < p.slots.length) (hsubmit : p.submit d slot buffer = (result, p', d')) :
    p'.Expects d'.pending ∧
      ∀ read ∈ d'.pending, read ∈ d.pending ∨ read.cancelled = false := by
  have hfresh : slot ∉ d.pending.map PendingRead.slot := mt (h.inFlight slot).mpr hslot
  obtain ⟨d₁, htaken, heq⟩ | ⟨e, d₁, hrefused, heq⟩ := submit_cases d p slot buffer
  · cases heq.symm.trans hsubmit
    obtain ⟨hpending, -⟩ := SimulatedDevice.submit_ok htaken
    rw [hpending]
    refine ⟨h.submit { slot, buffer := buffer.clear } hfresh hlt, ?_⟩
    intro read hread
    apply (List.mem_append.mp hread).imp_right
    intro hnew
    rw [List.mem_singleton.mp hnew]
  · cases heq.symm.trans hsubmit
    obtain ⟨hpending, -⟩ := SimulatedDevice.submit_error hrefused
    rw [hpending]
    exact ⟨h.put hfresh (by simp), fun read hread => .inl hread⟩

/-- **Submitting parked buffers**, each of another slot, up to the first that is refused. -/
theorem Expects.submitEach {slots : List Nat} {count : Nat} {result : Except TransferError Nat}
    (h : p.Expects d.pending) (hnodup : slots.Nodup)
    (hslots : ∀ slot ∈ slots, p.slots[slot]? ≠ some .inFlight)
    (hsubmit : p.submitEach d count slots = (result, p', d')) :
    p'.Expects d'.pending ∧
      ∀ read ∈ d'.pending, read ∈ d.pending ∨ read.cancelled = false := by
  refine of_submitEach (motive := fun p u => p.Expects u.pending ∧
    ∀ read ∈ u.pending, read ∈ d.pending ∨ read.cancelled = false)
    ?_ ?_ hnodup hslots hsubmit ⟨h, fun read hread => .inl hread⟩
  · rintro p u slot buffer result p' u' ⟨hexpects, hreads⟩ hparked hone
    have hlt := (List.getElem?_eq_some_iff.mp hparked).1
    obtain ⟨hexpects', hreads'⟩ := hexpects.submit_device (by simp [hparked]) hlt hone
    refine ⟨hexpects', ?_⟩
    intro read hread
    rcases hreads' read hread with hread | hread
    · exact hreads read hread
    · exact .inr hread
  · rintro p u slot ⟨hexpects, hreads⟩ hslot
    have hfree : slot ∉ u.pending.map PendingRead.slot := mt (hexpects.inFlight slot).mpr hslot
    exact ⟨hexpects.put hfree (by simp), hreads⟩

/-- All reads can be cancelled. -/
theorem Expects.cancelAll (h : p.Expects d.pending) (hcancel : p.cancelRequested = false) :
    (p.cancelAll d).1.Expects (p.cancelAll d).2.pending ∧
      (∀ read ∈ (p.cancelAll d).2.pending, read.cancelled = true) ∧
      (p.cancelAll d).2.pending.map PendingRead.slot = d.pending.map PendingRead.slot ∧
      (p.cancelAll d).2.holdsCancellations = d.holdsCancellations := by
  obtain ⟨requests, heq⟩ := h.cancelAll_device hcancel
  have hmark := h.map (fun read => { read with cancelled := true }) fun _ => rfl
  rw [heq]
  refine ⟨⟨hmark.nodup, hmark.inFlight, hmark.outstanding⟩, ?_, List.map_map, rfl⟩
  intro other hmem
  obtain ⟨read, -, rfl⟩ := List.mem_map.mp hmem
  rfl

/-- **A pool that stops at once** leaves no read with the device. -/
theorem pending_of_abandon (h : p.Expects d.pending) (hcancel : p.cancelRequested = false)
    (habandon : p.abandon d = some (p', d')) : d'.pending = [] := by
  obtain ⟨p₁, d₁, hsettle, hdone⟩ := abandon_cases habandon
  have hsettled : p₁.Expects d₁.pending := by
    refine of_settleReady (motive := fun p d => p.Expects d.pending) ?_ ?_ hsettle
      (h.cancelAll hcancel).1
    · intro p d event d' hexpects hnext
      obtain ⟨read, rest, hpending, hpending', -, hslot, -⟩ := SimulatedDevice.next_some hnext
      rw [hpending] at hexpects
      rw [hpending']
      exact hexpects.settle hslot
    · intro p d d' hexpects hnext
      rwa [SimulatedDevice.next_none hnext]
  obtain ⟨hdrained, rfl⟩ | rfl := hdone
  · exact List.eq_nil_of_length_eq_zero (hsettled.outstanding.symm.trans hdrained)
  · rfl

end TransferPool

end LogicAnalyzer
