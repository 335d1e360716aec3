import LogicAnalyzer.Device.Simulated
import LogicAnalyzer.Transfer.Pool

/-!
# Reads between a pool and a device

A pool and the simulated device behind it agree on the reads that are out: the slots in flight
are those of the pending reads, each of them once.  Submissions, reports and cancellations keep
that up.  A device without faults takes every submission, and reports its oldest read once there
is something to stream or the read is cancelled.

## Main definitions

* `SimulatedDevice.Faultless`: the device was told of no fault
* `TransferPool.Expects`: the reads that are out are these
* `Serves`: a faultless device has the reads of a pool

## Main results

* `SimulatedDevice.next_of_stream`, `next_of_cancelled`: the reports of a faultless device
* `TransferPool.Expects.accept`, `Expects.submit`, `Expects.park`: the agreement is kept
* `TransferPool.Expects.cancelAll_device`: cancelling all reads marks them
* `TransferPool.submitEach_of_faultless`: submitting all reads of a pool
-/

namespace LogicAnalyzer

namespace SimulatedDevice

/-- The device was told of no fault. -/
structure Faultless (d : SimulatedDevice) : Prop where
  commands : d.commandFailure = none
  completions : d.completionFailure = none
  submissions : d.submissionFailure = none
  cancellations : d.holdsCancellations = false

variable {d : SimulatedDevice} {read : PendingRead} {rest : List PendingRead}

theorem send_of_faultless (h : d.Faultless) (frame : Frame) :
    d.send frame = (.ok (), { d with commands := d.commands ++ [frame] }) := by
  simp only [send, refusal?, h.commands]

theorem submit_of_faultless (h : d.Faultless) (slot : Nat) (buffer : Buffer) :
    d.submit slot buffer =
      (.ok (), { d with
        submissions := d.submissions + 1
        pending := d.pending ++ [{ slot, buffer }] }) := by
  simp [submit, h.submissions]

/-- A cancelled read is confirmed. -/
theorem next_of_cancelled (h : d.Faultless) (hpending : d.pending = read :: rest)
    (hcancelled : read.cancelled = true) :
    d.next = (some ⟨read.slot, read.buffer, .cancelled⟩,
      { d with pending := rest, completions := d.completions + 1 }) := by
  simp only [next, hpending, complete, hcancelled, h.cancellations, if_true, Bool.false_eq_true,
    if_false]

/-- Any other read takes what there is room for. -/
theorem next_of_stream (h : d.Faultless) (hpending : d.pending = read :: rest)
    (hcancelled : read.cancelled = false) (hstream : d.stream ≠ []) :
    d.next =
      (some ⟨read.slot, read.buffer.append (d.stream.take (max read.buffer.capacity 1)), .received⟩,
        { d with
          stream := d.stream.drop (max read.buffer.capacity 1)
          pending := rest
          completions := d.completions + 1 }) := by
  simp only [next, hpending, complete, hcancelled, failure?, h.completions, Bool.false_eq_true,
    if_false, List.isEmpty_iff, hstream]

/-- If there is nothing to stream, it stays pending. -/
theorem next_of_silence (h : d.Faultless) (hpending : d.pending = read :: rest)
    (hcancelled : read.cancelled = false) (hstream : d.stream = []) : d.next = (none, d) := by
  simp only [next, hpending, complete, hcancelled, failure?, h.completions, Bool.false_eq_true,
    if_false, hstream, List.isEmpty_nil, if_true]

end SimulatedDevice

namespace TransferPool

/-- The reads of the pool that are out are these. -/
structure Expects (p : TransferPool) (reads : List PendingRead) : Prop where
  nodup : (reads.map PendingRead.slot).Nodup
  /-- Their slots are those in flight. -/
  inFlight : ∀ slot, p.slots[slot]? = some .inFlight ↔ slot ∈ reads.map PendingRead.slot
  outstanding : p.outstanding = reads.length

variable {p : TransferPool} {reads rest : List PendingRead} {read : PendingRead} {slot : Nat}
  {buffer : Buffer}

/-- The report of the oldest read counts. -/
theorem Expects.accept (h : p.Expects (read :: rest)) (event : ReadEvent)
    (hslot : event.slot = read.slot) :
    ∃ p' : TransferPool, p'.Expects rest ∧ p'.cancelRequested = p.cancelRequested ∧
      read.slot < p'.slots.length ∧ p.accept event = (some { event with
          outcome := if event.outcome = .failed .cancelled then .cancelled else event.outcome },
        p') := by
  have hinFlight : p.slots[event.slot]? = some .inFlight := by
    rw [h.inFlight, hslot]
    exact List.mem_cons_self ..
  have hlt : read.slot < (p.slots.set event.slot .empty).length := by
    rw [List.length_set, ← hslot]
    exact (List.getElem?_eq_some_iff.mp hinFlight).1
  obtain ⟨hfresh, hnodup⟩ := List.nodup_cons.mp h.nodup
  refine ⟨{ p with slots := p.slots.set event.slot .empty, outstanding := p.outstanding - 1 },
    ⟨hnodup, ?_, ?_⟩, rfl, hlt, if_pos hinFlight⟩
  · intro slot
    rw [hslot, List.getElem?_set]
    split
    · rename_i heq
      subst heq
      simp [hfresh]
    · rename_i hne
      rw [h.inFlight, List.map_cons, List.mem_cons]
      simp [Ne.symm hne]
  · rw [h.outstanding, List.length_cons, Nat.add_sub_cancel]

/-- A slot that is not in flight may come to hold anything else. -/
theorem Expects.put (h : p.Expects reads) (hslot : slot ∉ reads.map PendingRead.slot) {state : Slot}
    (hstate : state ≠ .inFlight) : { p with slots := p.slots.set slot state }.Expects reads where
  nodup := h.nodup
  inFlight other := by
    rw [List.getElem?_set]
    split
    · rename_i heq
      subst heq
      simp [hslot, hstate]
    · exact h.inFlight other
  outstanding := h.outstanding

/-- A buffer that is on loan can be parked. -/
theorem Expects.park (h : p.Expects reads) (hslot : slot ∉ reads.map PendingRead.slot)
    (buffer : Buffer) : (p.park slot buffer).Expects reads :=
  h.put hslot (by simp)

/-- A buffer that is here or on loan can be submitted. -/
theorem Expects.submit (h : p.Expects reads) (read : PendingRead)
    (hread : read.slot ∉ reads.map PendingRead.slot) (hslot : read.slot < p.slots.length) :
    { p with
      slots := p.slots.set read.slot .inFlight
      outstanding := p.outstanding + 1 }.Expects (reads ++ [read]) where
  nodup := by
    rw [List.map_append, List.nodup_append]
    refine ⟨h.nodup, by simp, ?_⟩
    rintro slot hmem _ hlast rfl
    rw [List.map_singleton, List.mem_singleton] at hlast
    exact hread (hlast ▸ hmem)
  inFlight other := by
    rw [List.getElem?_set, List.map_append, List.mem_append, ← h.inFlight]
    split
    · rename_i heq
      subst heq
      simp [hslot]
    · rename_i hne
      simp [Ne.symm hne]
  outstanding := by rw [h.outstanding, List.length_append, List.length_singleton]

/-- Marking reads does not move them. -/
theorem Expects.map (h : p.Expects reads) (mark : PendingRead → PendingRead)
    (hmark : ∀ read, (mark read).slot = read.slot) : p.Expects (reads.map mark) := by
  have hslots : (reads.map mark).map PendingRead.slot = reads.map PendingRead.slot := by
    rw [List.map_map]
    exact List.map_congr_left fun read _ => hmark read
  exact ⟨hslots ▸ h.nodup, hslots ▸ h.inFlight, h.outstanding.trans (List.length_map _).symm⟩

/-! ## All reads of a pool -/

variable {d : SimulatedDevice} {slots : List Nat}

/-- **Submitting parked buffers** to a faultless device: it takes all of them. -/
theorem submitEach_of_faultless (hfaultless : d.Faultless) (h : p.Expects d.pending)
    (hnodup : slots.Nodup) (hparked : ∀ slot ∈ slots, p.slots[slot]? = some (.parked buffer))
    (count : Nat) :
    ∃ p' : TransferPool, p.submitEach d count slots =
        (.ok (count + slots.length), p', { d with
          submissions := d.submissions + slots.length
          pending := d.pending ++ slots.map fun slot => { slot, buffer := buffer.clear } }) ∧
      p'.Expects (d.pending ++ slots.map fun slot => { slot, buffer := buffer.clear }) := by
  induction slots generalizing p d count with
  | nil =>
    refine ⟨p, ?_, ?_⟩
    · simp [submitEach]
    · simpa using h
  | cons slot rest ih =>
    obtain ⟨hfresh, hrest⟩ := List.nodup_cons.mp hnodup
    have hslot := hparked slot (List.mem_cons_self ..)
    have hnot : slot ∉ d.pending.map PendingRead.slot := by
      rw [← h.inFlight, hslot]
      simp
    have hlt : slot < p.slots.length := (List.getElem?_eq_some_iff.mp hslot).1
    have hsubmitted := h.submit { slot, buffer := buffer.clear } hnot hlt
    have hothers : ∀ other ∈ rest,
        (p.slots.set slot .inFlight)[other]? = some (.parked buffer) := by
      intro other hmem
      have hne : slot ≠ other := fun heq => hfresh (heq ▸ hmem)
      rw [List.getElem?_set_ne hne]
      exact hparked other (List.mem_cons_of_mem _ hmem)
    have hdevice : SimulatedDevice.Faultless { d with
        submissions := d.submissions + 1
        pending := d.pending ++ [{ slot, buffer := buffer.clear }] } :=
      ⟨hfaultless.commands, hfaultless.completions, hfaultless.submissions,
        hfaultless.cancellations⟩
    obtain ⟨p', hp', hexpects⟩ := ih hdevice hsubmitted hrest hothers (count + 1)
    refine ⟨p', ?_, ?_⟩
    · have hcount : count + 1 + rest.length = count + (rest.length + 1) := by omega
      have hsubmissions : d.submissions + 1 + rest.length = d.submissions + (rest.length + 1) := by
        omega
      rw [submitEach, hslot]
      simp only [submit, Transport.submit, SimulatedDevice.submit_of_faultless hfaultless]
      rw [hp']
      simp only [List.length_cons, List.map_cons, List.append_assoc, List.singleton_append, hcount,
        hsubmissions]
    · rwa [List.append_assoc] at hexpects

/-- **Cancelling all reads** marks them, and moves none. -/
theorem Expects.cancelAll_device (h : p.Expects d.pending) (hcancel : p.cancelRequested = false) :
    ∃ requests, p.cancelAll d = ({ p with cancelRequested := true }, { d with
      pending := d.pending.map fun read => { read with cancelled := true }
      cancelRequests := requests }) := by
  simp only [TransferPool.cancelAll, hcancel, Bool.false_eq_true, if_false]
  split
  · exact ⟨d.cancelRequests + 1, rfl⟩
  · rename_i hnone
    have hempty : d.pending = [] := by
      rw [h.outstanding] at hnone
      exact List.eq_nil_of_length_eq_zero (Nat.eq_zero_of_not_pos hnone)
    refine ⟨d.cancelRequests, ?_⟩
    rw [hempty, List.map_nil, ← hempty]

end TransferPool

/-! ## A pool and its device -/

/-- The device has these reads of the pool, as it has accepted these commands. -/
structure Serves (d : SimulatedDevice) (p : TransferPool) (commands : List Frame)
    (cancelled : Bool) : Prop where
  faultless : d.Faultless
  expects : p.Expects d.pending
  /-- Their buffers are empty, and they are all cancelled or none is. -/
  pending : ∀ read ∈ d.pending, read.buffer.bytes = [] ∧ read.cancelled = cancelled
  commands : d.commands = commands

namespace Serves

variable {d : SimulatedDevice} {p : TransferPool} {commands : List Frame} {cancelled : Bool}
  {slot : Nat}

/-- The report of the oldest read counts. -/
theorem accept (h : Serves d p commands cancelled) {read : PendingRead} {rest : List PendingRead}
    (hpending : d.pending = read :: rest) (event : ReadEvent) (hslot : event.slot = read.slot)
    (stream : List UInt8) :
    ∃ p' : TransferPool,
      p.accept event = (some { event with
          outcome := if event.outcome = .failed .cancelled then .cancelled else event.outcome },
        p') ∧
      Serves { d with stream, pending := rest, completions := d.completions + 1 } p' commands
        cancelled ∧
      p'.cancelRequested = p.cancelRequested ∧ read.slot < p'.slots.length ∧
      read.slot ∉ rest.map PendingRead.slot := by
  have hexpects := h.expects
  rw [hpending] at hexpects
  obtain ⟨p', hp', hcancel, hlt, haccept⟩ := hexpects.accept event hslot
  refine ⟨p', haccept, ⟨⟨h.faultless.1, h.faultless.2, h.faultless.3, h.faultless.4⟩, hp',
    ?_, h.commands⟩, hcancel, hlt, (List.nodup_cons.mp hexpects.nodup).1⟩
  intro other hmem
  exact h.pending other (hpending ▸ List.mem_cons_of_mem _ hmem)

/-- A buffer that is on loan can be parked. -/
theorem park (h : Serves d p commands cancelled) (hslot : slot ∉ d.pending.map PendingRead.slot)
    (buffer : Buffer) : Serves d (p.park slot buffer) commands cancelled :=
  ⟨h.faultless, h.expects.park hslot buffer, h.pending, h.commands⟩

/-- A buffer that is on loan can be submitted again. -/
theorem resubmit (h : Serves d p commands false) (hcancel : p.cancelRequested = false)
    (hslot : slot ∉ d.pending.map PendingRead.slot) (hlt : slot < p.slots.length)
    (buffer : Buffer) :
    ∃ p' d', p.resubmit d slot buffer = (.ok (), p', d') ∧ Serves d' p' commands false ∧
      p'.cancelRequested = false ∧ d'.stream = d.stream ∧
      d'.pending = d.pending ++ [{ slot, buffer := buffer.clear }] := by
  have hexpects := h.expects.submit { slot, buffer := buffer.clear } hslot hlt
  refine ⟨_, { d with
      submissions := d.submissions + 1
      pending := d.pending ++ [{ slot, buffer := buffer.clear }] },
    ?_, ⟨⟨h.faultless.1, h.faultless.2, h.faultless.3, h.faultless.4⟩, hexpects, ?_, h.commands⟩,
    hcancel, rfl, rfl⟩
  · simp only [TransferPool.resubmit, hcancel, Bool.false_eq_true, if_false, TransferPool.submit,
      Transport.submit, SimulatedDevice.submit_of_faultless h.faultless]
  · intro other hmem
    rcases List.mem_append.mp hmem with hmem | hmem
    · exact h.pending other hmem
    · rw [List.mem_singleton.mp hmem]
      exact ⟨rfl, rfl⟩

/-- All reads can be cancelled. -/
theorem cancelAll (h : Serves d p commands false) (hcancel : p.cancelRequested = false) :
    Serves (p.cancelAll d).2 (p.cancelAll d).1 commands true ∧
      (p.cancelAll d).2.stream = d.stream ∧
      (p.cancelAll d).2.pending.length = d.pending.length := by
  obtain ⟨requests, heq⟩ := h.expects.cancelAll_device hcancel
  have hmark := h.expects.map (fun read => { read with cancelled := true }) fun _ => rfl
  rw [heq]
  refine ⟨⟨⟨h.faultless.1, h.faultless.2, h.faultless.3, h.faultless.4⟩,
    ⟨hmark.nodup, hmark.inFlight, hmark.outstanding⟩, ?_, h.commands⟩, rfl, List.length_map _⟩
  intro other hmem
  obtain ⟨read, hread, rfl⟩ := List.mem_map.mp hmem
  exact ⟨(h.pending read hread).1, rfl⟩

end Serves

end LogicAnalyzer
