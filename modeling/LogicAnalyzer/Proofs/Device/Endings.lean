import LogicAnalyzer.Proofs.Device.Chronicle
import LogicAnalyzer.Proofs.Device.Faults

/-!
# What became of every read

A read that a simulated device took ends once: it is reported, or it is given up together with all
others that are out.  Until then it waits behind those that were taken before it.  So the reports
come in the order in which the reads were taken, whatever is done in between, and what they deliver
is the beginning of the stream.

## Main definitions

* `ReadEnd`: how a read ended
* `Reported`, `Forgotten`: what that means
* `ReadsAccounted`: the reads that ended, and those that wait

## Main results

* `ReadsAccounted.perform`: one operation keeps the account
* `SimulatedDevice.every_read_ends_once`: any sequence of operations does
-/

namespace LogicAnalyzer

/-- How a read ended. -/
inductive ReadEnd where
  /-- It was reported, at this place in the chronicle. -/
  | reported (time : Nat) (event : ReadEvent)
  /-- All reads that were out were given up, at this place in the chronicle. -/
  | forgotten (time : Nat)

namespace ReadEnd

/-- The report of a read, and when it came. -/
def report? : ReadEnd → Option (Nat × ReadEvent)
  | reported time event => some (time, event)
  | forgotten _ => none

/-- Whether the read was given up. -/
def isForgotten : ReadEnd → Bool
  | reported _ _ => false
  | forgotten _ => true

end ReadEnd

variable {steps : List DeviceStep} {step : DeviceStep} {read : TakenRead}

/-- **A read was reported.** -/
structure Reported (steps : List DeviceStep) (read : TakenRead) (time : Nat) (event : ReadEvent) :
    Prop where
  after : read.time < time
  /-- It was not given up before. -/
  kept : occurs DeviceOperation.isForget steps read.time time = false
  slot : event.slot = read.slot
  /-- The report confirms a cancellation if and only if all reads were to be cancelled meanwhile. -/
  cancelled : event.outcome = .cancelled ↔
    occurs DeviceOperation.isCancelAll steps read.time time = true
  /-- A successful report has as many bytes of the stream as there is room for, and at least one. -/
  received : ∃ step, steps[time]? = some step ∧ step.report? = some event ∧
    (event.outcome = .received →
      event.buffer.bytes.length = min (max read.capacity 1) step.device.stream.length ∧
        1 ≤ event.buffer.bytes.length)
  /-- Any other has none. -/
  empty : event.outcome ≠ .received → event.buffer.bytes = []

/-- **A read was given up**, with all others that were out. -/
structure Forgotten (steps : List DeviceStep) (read : TakenRead) (time : Nat) : Prop where
  after : read.time < time
  step : ∃ step, steps[time]? = some step ∧ step.operation = .forget
  /-- It was not given up before. -/
  kept : occurs DeviceOperation.isForget steps read.time time = false

/-- A read ended in this way. -/
def Ended (steps : List DeviceStep) (read : TakenRead) : ReadEnd → Prop
  | .reported time event => Reported steps read time event
  | .forgotten time => Forgotten steps read time

/-- A read that waits, as the device has it: it is to be cancelled if that was asked for since. -/
def TakenRead.pending (steps : List DeviceStep) (read : TakenRead) : PendingRead where
  slot := read.slot
  buffer := .allocate read.capacity
  cancelled := occurs DeviceOperation.isCancelAll steps read.time steps.length

/-- **The account of the reads** that a device `d` took, by its chronicle. -/
structure ReadsAccounted (steps : List DeviceStep) (d : SimulatedDevice)
    (ended : List (TakenRead × ReadEnd)) (waiting : List TakenRead) : Prop where
  /-- Every read that was taken ended, in one way, or waits, and those that wait came last. -/
  reads : takenReads steps = ended.map Prod.fst ++ waiting
  ends : ∀ entry ∈ ended, Ended steps entry.1 entry.2
  /-- Every report is that of one read, and they came in the order of the reads. -/
  reports : reports steps = ended.filterMap fun entry => entry.2.report?
  pending : d.pending = waiting.map (TakenRead.pending steps)
  /-- No read that waits was given up. -/
  kept : ∀ read ∈ waiting, occurs DeviceOperation.isForget steps read.time steps.length = false
  /-- What was delivered and what is left of the stream is what was queued. -/
  stream : steps.flatMap DeviceStep.delivered ++ d.stream = steps.flatMap DeviceStep.queued
  completions : d.completions = (LogicAnalyzer.reports steps).length
  forgotten : d.forgotten = ended.countP fun entry => entry.2.isForgotten

/-! ## A report -/

/-- **What a report says** of a read whose buffer was empty, on a device with this stream, and what
is left of the stream. -/
structure PendingRead.Completes (read : PendingRead) (before : List UInt8) (event : ReadEvent)
    (after : List UInt8) : Prop where
  slot : event.slot = read.slot
  cancelled : event.outcome = .cancelled ↔ read.cancelled = true
  received : event.outcome = .received →
    event.buffer.bytes.length = min (max read.buffer.capacity 1) before.length ∧
      1 ≤ event.buffer.bytes.length
  empty : event.outcome ≠ .received → event.buffer.bytes = []
  stream : (if event.outcome = .received then event.buffer.bytes else []) ++ after = before

/-- However its read becomes ready, a report says so. -/
theorem SimulatedDevice.completes_of_complete {d : SimulatedDevice} {read : PendingRead}
    {event : ReadEvent} {stream : List UInt8} (hempty : read.buffer.bytes = [])
    (h : d.complete read = some (event, stream)) : read.Completes d.stream event stream := by
  cases readies_of_complete h with
  | confirms cancelled free =>
    exact ⟨rfl, ⟨fun _ => cancelled, fun _ => rfl⟩, nofun, fun _ => hempty, rfl⟩
  | fails cancelled failure =>
    exact ⟨rfl, by simp [cancelled], nofun, fun _ => hempty, rfl⟩
  | receives cancelled failure stream =>
    have hlength : 0 < d.stream.length := List.length_pos_iff.mpr stream
    have hbytes : (read.buffer.append (d.stream.take (max read.buffer.capacity 1))).bytes =
        d.stream.take (max read.buffer.capacity 1) := by
      rw [Buffer.bytes_append, hempty, List.nil_append]
    refine ⟨rfl, by simp [cancelled], fun _ => ?_, fun hne => absurd rfl hne, ?_⟩
    · rw [hbytes, List.length_take]
      omega
    · rw [if_pos rfl, hbytes, List.take_append_drop]

/-! ## A chronicle that goes on -/

/-- How a read ended does not change any more. -/
theorem Ended.snoc {ending : ReadEnd} (h : Ended steps read ending) (step : DeviceStep) :
    Ended (steps ++ [step]) read ending := by
  rcases ending with ⟨time, event⟩ | time
  · obtain ⟨last, hlast, hreport⟩ := h.received
    obtain ⟨hlt, -⟩ := List.getElem?_eq_some_iff.mp hlast
    refine ⟨h.after, ?_, h.slot, ?_, ⟨last, ?_, hreport⟩, h.empty⟩
    · rw [occurs_append (Nat.le_of_lt hlt), h.kept]
    · rw [occurs_append (Nat.le_of_lt hlt), h.cancelled]
    · rw [List.getElem?_append_left hlt, hlast]
  · obtain ⟨last, hlast, hforget⟩ := h.step
    obtain ⟨hlt, -⟩ := List.getElem?_eq_some_iff.mp hlast
    refine ⟨h.after, ⟨last, ?_, hforget⟩, ?_⟩
    · rw [List.getElem?_append_left hlt, hlast]
    · rw [occurs_append (Nat.le_of_lt hlt), h.kept]

theorem TakenRead.pending_snoc (h : read.time < steps.length) (step : DeviceStep) :
    read.pending (steps ++ [step]) = { read.pending steps with
      cancelled := (read.pending steps).cancelled || step.operation.isCancelAll } := by
  simp only [TakenRead.pending, occurs_snoc h]

namespace ReadsAccounted

variable {d : SimulatedDevice} {ended : List (TakenRead × ReadEnd)} {waiting : List TakenRead}

theorem time_lt (h : ReadsAccounted steps d ended waiting) (hread : read ∈ waiting) :
    read.time < steps.length := by
  apply time_lt_of_mem_takenReads
  rw [h.reads]
  exact List.mem_append_right _ hread

/-- The reads that wait go on waiting, and are to be cancelled if that is asked for. -/
theorem map_pending_snoc (h : ReadsAccounted steps d ended waiting) (step : DeviceStep) :
    waiting.map (TakenRead.pending (steps ++ [step])) = d.pending.map fun read =>
      { read with cancelled := read.cancelled || step.operation.isCancelAll } := by
  rw [h.pending, List.map_map]
  apply List.map_congr_left
  intro read hread
  exact TakenRead.pending_snoc (h.time_lt hread) step

theorem kept_snoc (h : ReadsAccounted steps d ended waiting)
    (hforget : step.operation.isForget = false) (hread : read ∈ waiting) :
    occurs DeviceOperation.isForget (steps ++ [step]) read.time (steps ++ [step]).length =
      false := by
  rw [occurs_snoc (h.time_lt hread), h.kept read hread, hforget]
  rfl

/-- A step that reports nothing adds to the stream what it queues. -/
theorem stream_snoc (h : ReadsAccounted steps d ended waiting) (hreport : step.report? = none)
    {stream : List UInt8} (hstream : stream = d.stream ++ step.queued) :
    (steps ++ [step]).flatMap DeviceStep.delivered ++ stream =
      (steps ++ [step]).flatMap DeviceStep.queued := by
  have hnone : step.delivered = [] := by
    rw [DeviceStep.delivered, hreport]
  simp only [hstream, List.flatMap_append, List.flatMap_singleton, hnone, List.append_nil]
  rw [← List.append_assoc, h.stream]

/-! ## One step -/

/-- A step that concerns no read. -/
theorem quiet {d' : SimulatedDevice} (h : ReadsAccounted steps d ended waiting)
    (htaken : step.taken? = none) (hreport : step.report? = none)
    (hcancel : step.operation.isCancelAll = false) (hforget : step.operation.isForget = false)
    (hpending : d'.pending = d.pending) (hstream : d'.stream = d.stream ++ step.queued)
    (hcompletions : d'.completions = d.completions) (hforgotten : d'.forgotten = d.forgotten) :
    ReadsAccounted (steps ++ [step]) d' ended waiting where
  reads := by rw [takenReads_snoc_of_none htaken, h.reads]
  ends entry hentry := (h.ends entry hentry).snoc step
  reports := by rw [reports_snoc_of_none hreport, h.reports]
  pending := by
    rw [h.map_pending_snoc, hpending, hcancel]
    simp
  kept read hread := h.kept_snoc hforget hread
  stream := h.stream_snoc hreport hstream
  completions := by rw [hcompletions, reports_snoc_of_none hreport, h.completions]
  forgotten := by rw [hforgotten, h.forgotten]

/-- A read is taken: it waits behind the others. -/
theorem take {slot capacity : Nat} (h : ReadsAccounted steps d ended waiting)
    (htaken : DeviceStep.taken? ⟨d, .submit slot capacity⟩ = some (slot, capacity)) :
    ReadsAccounted (steps ++ [⟨d, .submit slot capacity⟩])
      { d with
        submissions := d.submissions + 1
        pending := d.pending ++ [⟨slot, .allocate capacity, false⟩] }
      ended (waiting ++ [⟨steps.length, slot, capacity⟩]) where
  reads := by rw [takenReads_snoc_of_taken htaken, h.reads, List.append_assoc]
  ends entry hentry := (h.ends entry hentry).snoc _
  reports := by rw [reports_snoc_of_none rfl, h.reports]
  pending := by
    have hnew : TakenRead.pending (steps ++ [⟨d, .submit slot capacity⟩])
        ⟨steps.length, slot, capacity⟩ = ⟨slot, .allocate capacity, false⟩ := by
      rw [TakenRead.pending, occurs_last]
    rw [List.map_append, h.map_pending_snoc, List.map_singleton, hnew]
    simp [DeviceOperation.isCancelAll]
  kept read hread := by
    rcases List.mem_append.mp hread with hold | hnew
    · exact h.kept_snoc rfl hold
    · rw [List.mem_singleton.mp hnew]
      exact occurs_last steps _
  stream := h.stream_snoc rfl (List.append_nil d.stream).symm
  completions := by rw [reports_snoc_of_none rfl, ← h.completions]
  forgotten := h.forgotten

/-- All reads that wait are to be cancelled. -/
theorem cancelAll (h : ReadsAccounted steps d ended waiting) :
    ReadsAccounted (steps ++ [⟨d, .cancelAll⟩]) d.cancelAll ended waiting where
  reads := by rw [takenReads_snoc_of_none rfl, h.reads]
  ends entry hentry := (h.ends entry hentry).snoc _
  reports := by rw [reports_snoc_of_none rfl, h.reports]
  pending := by
    rw [h.map_pending_snoc]
    simp [SimulatedDevice.cancelAll, DeviceOperation.isCancelAll]
  kept read hread := h.kept_snoc rfl hread
  stream := h.stream_snoc rfl (List.append_nil d.stream).symm
  completions := by rw [reports_snoc_of_none rfl, ← h.completions]; rfl
  forgotten := h.forgotten

/-- All reads that wait are given up. -/
theorem forget (h : ReadsAccounted steps d ended waiting) :
    ReadsAccounted (steps ++ [⟨d, .forget⟩]) d.forget
      (ended ++ waiting.map fun read => (read, .forgotten steps.length)) [] where
  reads := by
    rw [takenReads_snoc_of_none rfl, h.reads, List.map_append, List.map_map, List.append_nil]
    exact congrArg _ (List.map_id waiting).symm
  ends entry hentry := by
    rcases List.mem_append.mp hentry with hold | hnew
    · exact (h.ends entry hold).snoc _
    · obtain ⟨read, hread, rfl⟩ := List.mem_map.mp hnew
      refine ⟨h.time_lt hread, ⟨⟨d, .forget⟩, ?_, rfl⟩, ?_⟩
      · rw [List.getElem?_concat_length]
      · rw [occurs_append (Nat.le_refl _), h.kept read hread]
  reports := by
    rw [reports_snoc_of_none rfl, h.reports, List.filterMap_append]
    simp [ReadEnd.report?, List.filterMap_map]
  pending := rfl
  kept _ hread := absurd hread List.not_mem_nil
  stream := h.stream_snoc rfl (List.append_nil d.stream).symm
  completions := by rw [reports_snoc_of_none rfl, ← h.completions]; rfl
  forgotten := by
    have hall : (waiting.map fun read => (read, ReadEnd.forgotten steps.length)).countP
        (fun entry => entry.2.isForgotten) = d.pending.length := by
      rw [h.pending, List.length_map, List.countP_map]
      exact List.countP_eq_length.mpr fun _ _ => rfl
    rw [List.countP_append, hall, ← h.forgotten]
    rfl

/-- What was done to a read that waits is what is known of it when it is reported. -/
theorem reported {event : ReadEvent} {stream : List UInt8}
    (h : ReadsAccounted steps d ended waiting) (hread : read ∈ waiting)
    (hreport : DeviceStep.report? ⟨d, .next⟩ = some event)
    (hcompletes : (read.pending steps).Completes d.stream event stream) :
    Reported (steps ++ [⟨d, .next⟩]) read steps.length event where
  after := h.time_lt hread
  kept := by rw [occurs_append (Nat.le_refl _), h.kept read hread]
  slot := hcompletes.slot
  cancelled := by
    rw [occurs_append (Nat.le_refl _)]
    exact hcompletes.cancelled
  received := ⟨⟨d, .next⟩, List.getElem?_concat_length, hreport, hcompletes.received⟩
  empty := hcompletes.empty

/-- The oldest read is reported. -/
theorem report {oldest : PendingRead} {others : List PendingRead} {event : ReadEvent}
    {stream : List UInt8} (h : ReadsAccounted steps d ended waiting)
    (hreport : DeviceStep.report? ⟨d, .next⟩ = some event) (hpending : d.pending = oldest :: others)
    (hcomplete : d.complete oldest = some (event, stream)) :
    ∃ read rest, waiting = read :: rest ∧
      ReadsAccounted (steps ++ [⟨d, .next⟩])
        { d with stream, pending := others, completions := d.completions + 1 }
        (ended ++ [(read, .reported steps.length event)]) rest := by
  obtain ⟨read, rest, rfl, rfl, -⟩ := List.map_eq_cons_iff.mp (h.pending.symm.trans hpending)
  have hcompletes : (read.pending steps).Completes d.stream event stream :=
    SimulatedDevice.completes_of_complete rfl hcomplete
  refine ⟨read, rest, rfl, ⟨?_, ?_, ?_, ?_, ?_, ?_, ?_, ?_⟩⟩
  · rw [takenReads_snoc_of_none rfl, h.reads, List.map_append, List.append_assoc]
    rfl
  · intro entry hentry
    rcases List.mem_append.mp hentry with hold | hnew
    · exact (h.ends entry hold).snoc _
    · rw [List.mem_singleton.mp hnew]
      exact h.reported List.mem_cons_self hreport hcompletes
  · rw [reports_snoc_of_report hreport, h.reports, List.filterMap_append]
    rfl
  · have hwaiting := h.map_pending_snoc ⟨d, .next⟩
    rw [hpending, List.map_cons, List.map_cons] at hwaiting
    rw [(List.cons.inj hwaiting).2]
    simp [DeviceOperation.isCancelAll]
  · intro later hlater
    exact h.kept_snoc rfl (List.mem_cons_of_mem read hlater)
  · have hdelivered : DeviceStep.delivered ⟨d, .next⟩ ++ stream = d.stream := by
      rw [DeviceStep.delivered, hreport]
      exact hcompletes.stream
    rw [List.flatMap_append, List.flatMap_append, List.flatMap_singleton, List.flatMap_singleton,
      List.append_assoc, hdelivered, h.stream]
    exact (List.append_nil _).symm
  · rw [reports_snoc_of_report hreport, List.length_append, ← h.completions]
    rfl
  · rw [List.countP_append, ← h.forgotten]
    rfl

/-- **One step keeps the account.** -/
theorem perform (h : ReadsAccounted steps d ended waiting) (op : DeviceOperation) :
    ∃ ended' waiting', ReadsAccounted (steps ++ [⟨d, op⟩]) (d.perform op) ended' waiting' := by
  rcases DeviceStep.effect ⟨d, op⟩ with
    ⟨htaken, hreport, hcancel, hforget, hpending, hstream, hcompletions, hforgotten⟩ |
    ⟨slot, capacity, htaken, rfl, hafter⟩ | ⟨rfl, hafter⟩ |
    ⟨oldest, others, event, stream, rfl, hreport, hpending, hcomplete, hafter⟩ | ⟨rfl, hafter⟩
  · exact ⟨ended, waiting,
      h.quiet htaken hreport hcancel hforget hpending hstream hcompletions hforgotten⟩
  · rw [hafter]
    exact ⟨ended, _, h.take htaken⟩
  · exact ⟨ended, waiting, h.cancelAll⟩
  · rw [hafter]
    obtain ⟨read, rest, -, haccounted⟩ := h.report hreport hpending hcomplete
    exact ⟨_, rest, haccounted⟩
  · exact ⟨_, [], h.forget⟩

end ReadsAccounted

/-- **Every read ends once.**  A new device streams the bytes that are queued, takes empty buffers,
is asked for events, to cancel all reads or to give them up, and is told of faults, in any order.
Then every read that it took, each at its own time, ended, in one way, or waits still; the reports
come in the order of the reads, each of a read that was not given up before; those that were to be
cancelled are confirmed, and no others; a successful report has what of the stream there is room
for, at least a byte, and any other has nothing; and what was delivered, with what is left of the
stream, is what was queued. -/
theorem SimulatedDevice.every_read_ends_once (model : Model) (ops : List DeviceOperation) :
    (takenReads (chronicle { model } ops)).Pairwise (fun first second => first.time < second.time) ∧
      ∃ ended waiting, ReadsAccounted (chronicle { model } ops) (performAll { model } ops) ended
        waiting := by
  refine ⟨pairwise_time_takenReads _, ?_⟩
  induction ops using List.reverseRecOn with
  | nil => exact ⟨[], [], rfl, nofun, rfl, rfl, nofun, rfl, rfl, rfl⟩
  | append_singleton ops op ih =>
    obtain ⟨ended, waiting, haccounted⟩ := ih
    rw [chronicle_snoc, performAll_snoc]
    exact haccounted.perform op

end LogicAnalyzer
