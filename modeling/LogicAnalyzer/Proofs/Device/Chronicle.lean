import LogicAnalyzer.Device.Simulated
import Mathlib.Data.List.Induction

/-!
# The chronicle of a device

Whoever uses a simulated device queues bytes, submits empty buffers, asks for cancellations and
events, and tells it of faults, in any order.  The chronicle has all of that, one step after the
other, each with the device as it was before.  From the chronicle it can be read which reads the
device took, what it reported when, and what happened in between.

## Main definitions

* `DeviceOperation`: what may be done to a device
* `SimulatedDevice.performAll`, `SimulatedDevice.chronicle`: one operation after another, and the
  steps
* `takenReads`, `reports`: the reads that the device took, and what it reported, with the times
* `occurs`: whether something happens between two times

## Main results

* `DeviceStep.effect`: what a step does, case by case
* `shown_snoc`, `occurs_snoc`: a chronicle that goes on
-/

namespace LogicAnalyzer

/-- What may be done to a device. -/
inductive DeviceOperation where
  /-- Add bytes to its stream. -/
  | queue (bytes : List UInt8)
  | send (frame : Frame)
  /-- Submit an empty buffer with this much room. -/
  | submit (slot capacity : Nat)
  | cancelAll
  /-- Ask for an event. -/
  | next
  /-- Give up on all reads that are out. -/
  | forget
  | failCommand (opcode : UInt16) (error : TransferError)
  | failCompletion (index : Nat) (error : TransferError)
  | failSubmission (index : Nat)
  | holdCancellations (hold : Bool)
  | clearFailures

namespace DeviceOperation

/-- Whether the operation asks for the cancellation of all reads. -/
def isCancelAll : DeviceOperation → Bool
  | cancelAll => true
  | _ => false

/-- Whether the operation gives up on all reads. -/
def isForget : DeviceOperation → Bool
  | forget => true
  | _ => false

end DeviceOperation

/-- An operation, and the device that it is done to. -/
structure DeviceStep where
  device : SimulatedDevice
  operation : DeviceOperation

namespace SimulatedDevice

/-- The device after an operation. -/
def perform (d : SimulatedDevice) : DeviceOperation → SimulatedDevice
  | .queue bytes => d.queue bytes
  | .send frame => (d.send frame).2
  | .submit slot capacity => (d.submit slot (.allocate capacity)).2
  | .cancelAll => d.cancelAll
  | .next => d.next.2
  | .forget => d.forget
  | .failCommand opcode error => d.failCommand opcode error
  | .failCompletion index error => d.failCompletion index error
  | .failSubmission index => d.failSubmission index
  | .holdCancellations hold => d.holdCancellations hold
  | .clearFailures => d.clearFailures

/-- The device after one operation after another. -/
def performAll (d : SimulatedDevice) (ops : List DeviceOperation) : SimulatedDevice :=
  ops.foldl perform d

/-- **The chronicle of a device** to which one operation after another is done. -/
def chronicle (d : SimulatedDevice) : List DeviceOperation → List DeviceStep
  | [] => []
  | op :: rest => ⟨d, op⟩ :: (d.perform op).chronicle rest

theorem performAll_snoc (d : SimulatedDevice) (ops : List DeviceOperation) (op : DeviceOperation) :
    d.performAll (ops ++ [op]) = (d.performAll ops).perform op := by
  rw [performAll, List.foldl_append]
  rfl

theorem chronicle_snoc (d : SimulatedDevice) (ops : List DeviceOperation) (op : DeviceOperation) :
    d.chronicle (ops ++ [op]) = d.chronicle ops ++ [⟨d.performAll ops, op⟩] := by
  induction ops generalizing d with
  | nil => rfl
  | cons first rest ih =>
    simp only [List.cons_append, chronicle, ih]
    rfl

end SimulatedDevice

/-! ## One step -/

namespace DeviceStep

/-- The read that the device took in a step: its slot, and the room of its buffer. -/
def taken? : DeviceStep → Option (Nat × Nat)
  | ⟨d, .submit slot capacity⟩ =>
    match (d.submit slot (.allocate capacity)).1 with
    | .ok () => some (slot, capacity)
    | .error _ => none
  | _ => none

/-- The event that the device gave in a step. -/
def report? : DeviceStep → Option ReadEvent
  | ⟨d, .next⟩ => d.next.1
  | _ => none

/-- The bytes that a step added to the stream. -/
def queued : DeviceStep → List UInt8
  | ⟨_, .queue bytes⟩ => bytes
  | _ => []

/-- The bytes that the device reported to be received in a step. -/
def delivered (s : DeviceStep) : List UInt8 :=
  match s.report? with
  | some event => if event.outcome = .received then event.buffer.bytes else []
  | none => []

/-- **What a step does**, case by case, where `d` is the device after it. -/
inductive Effect (s : DeviceStep) (d : SimulatedDevice) : Prop where
  /-- No read is concerned. -/
  | quiet (taken : s.taken? = none) (report : s.report? = none)
      (cancel : s.operation.isCancelAll = false) (forget : s.operation.isForget = false)
      (pending : d.pending = s.device.pending) (stream : d.stream = s.device.stream ++ s.queued)
      (completions : d.completions = s.device.completions)
      (forgotten : d.forgotten = s.device.forgotten)
  /-- A read is taken. -/
  | taken (slot capacity : Nat) (taken : s.taken? = some (slot, capacity))
      (operation : s.operation = .submit slot capacity)
      (after : d = { s.device with
        submissions := s.device.submissions + 1
        pending := s.device.pending ++ [⟨slot, .allocate capacity, false⟩] })
  /-- All reads that are out are to be cancelled. -/
  | cancelled (operation : s.operation = .cancelAll) (after : d = s.device.cancelAll)
  /-- The oldest read is reported. -/
  | reported (read : PendingRead) (rest : List PendingRead) (event : ReadEvent)
      (stream : List UInt8) (operation : s.operation = .next) (report : s.report? = some event)
      (pending : s.device.pending = read :: rest)
      (complete : s.device.complete read = some (event, stream))
      (after : d = { s.device with
        stream, pending := rest, completions := s.device.completions + 1 })
  /-- All reads that are out are given up. -/
  | forgot (operation : s.operation = .forget) (after : d = s.device.forget)

/-- An event is the report of the oldest read, and without one nothing happens. -/
theorem effect_next (d : SimulatedDevice) : Effect ⟨d, .next⟩ d.next.2 := by
  have hreport : report? ⟨d, .next⟩ = d.next.1 := rfl
  rcases hpending : d.pending with _ | ⟨read, rest⟩
  · have hnext : d.next = (none, d) := by
      simp only [SimulatedDevice.next, hpending]
    rw [hnext] at hreport ⊢
    exact .quiet rfl hreport rfl rfl rfl (List.append_nil _).symm rfl rfl
  · rcases hcomplete : d.complete read with _ | ⟨event, stream⟩
    · have hnext : d.next = (none, d) := by
        simp only [SimulatedDevice.next, hpending, hcomplete]
      rw [hnext] at hreport ⊢
      exact .quiet rfl hreport rfl rfl rfl (List.append_nil _).symm rfl rfl
    · have hnext : d.next = (some event, { d with
          stream, pending := rest, completions := d.completions + 1 }) := by
        simp only [SimulatedDevice.next, hpending, hcomplete]
      rw [hnext] at hreport ⊢
      exact .reported read rest event stream rfl hreport hpending hcomplete rfl

/-- A buffer is taken or refused. -/
theorem effect_submit (d : SimulatedDevice) (slot capacity : Nat) :
    Effect ⟨d, .submit slot capacity⟩ (d.submit slot (.allocate capacity)).2 := by
  have htaken : taken? ⟨d, .submit slot capacity⟩ =
      match (d.submit slot (.allocate capacity)).1 with
      | .ok () => some (slot, capacity)
      | .error _ => none := rfl
  by_cases hrefused : d.submissionFailure = some d.submissions
  · have hsubmit : d.submit slot (.allocate capacity) =
        (.error .fault, { d with submissions := d.submissions + 1 }) := by
      simp only [SimulatedDevice.submit, if_pos hrefused]
    rw [hsubmit] at htaken ⊢
    exact .quiet htaken rfl rfl rfl rfl (List.append_nil _).symm rfl rfl
  · have hsubmit : d.submit slot (.allocate capacity) = (.ok (), { d with
        submissions := d.submissions + 1
        pending := d.pending ++ [⟨slot, .allocate capacity, false⟩] }) := by
      simp only [SimulatedDevice.submit, if_neg hrefused]
    rw [hsubmit] at htaken ⊢
    exact .taken slot capacity htaken rfl rfl

/-- A command is accepted or refused; neither has to do with reads. -/
theorem effect_send (d : SimulatedDevice) (frame : Frame) :
    Effect ⟨d, .send frame⟩ (d.send frame).2 := by
  unfold SimulatedDevice.send
  split
  · exact .quiet rfl rfl rfl rfl rfl (List.append_nil _).symm rfl rfl
  · exact .quiet rfl rfl rfl rfl rfl (List.append_nil _).symm rfl rfl

/-- **Every step** is one of the cases. -/
theorem effect (s : DeviceStep) : s.Effect (s.device.perform s.operation) := by
  obtain ⟨d, operation⟩ := s
  cases operation with
  | queue bytes => exact .quiet rfl rfl rfl rfl rfl rfl rfl rfl
  | send frame => exact effect_send d frame
  | submit slot capacity => exact effect_submit d slot capacity
  | cancelAll => exact .cancelled rfl rfl
  | next => exact effect_next d
  | forget => exact .forgot rfl rfl
  | failCommand | failCompletion | failSubmission | holdCancellations | clearFailures =>
    exact .quiet rfl rfl rfl rfl rfl (List.append_nil _).symm rfl rfl

end DeviceStep

/-! ## What is read in a chronicle -/

variable {α : Type} {shows : DeviceStep → Option α} {steps : List DeviceStep}

/-- **What the steps of a chronicle show**, in order, and when. -/
def shown (shows : DeviceStep → Option α) (steps : List DeviceStep) : List (Nat × α) :=
  steps.zipIdx.filterMap fun entry => (shows entry.1).map fun what => (entry.2, what)

theorem shown_snoc (shows : DeviceStep → Option α) (steps : List DeviceStep) (step : DeviceStep) :
    shown shows (steps ++ [step]) =
      shown shows steps ++ ((shows step).map fun what => (steps.length, what)).toList := by
  simp only [shown, List.zipIdx_append, List.filterMap_append, List.zipIdx_singleton, Nat.zero_add]
  rcases hshows : shows step with _ | what
  · simp [hshows]
  · simp [hshows]

theorem lt_of_mem_shown {time : Nat} {what : α} (h : (time, what) ∈ shown shows steps) :
    time < steps.length := by
  obtain ⟨⟨step, _⟩, hmem, hshows⟩ := List.mem_filterMap.mp h
  obtain ⟨_, -, heq⟩ := Option.map_eq_some_iff.mp hshows
  cases heq
  exact (List.getElem?_eq_some_iff.mp (List.mem_zipIdx_iff_getElem?.mp hmem)).1

/-- It shows one thing at a time. -/
theorem pairwise_shown (shows : DeviceStep → Option α) (steps : List DeviceStep) :
    (shown shows steps).Pairwise fun first second => first.1 < second.1 := by
  induction steps using List.reverseRecOn with
  | nil => exact .nil
  | append_singleton steps step ih =>
    rw [shown_snoc, List.pairwise_append]
    refine ⟨ih, ?_, ?_⟩
    · rcases (shows step) with _ | what
      · exact .nil
      · exact List.pairwise_singleton _ _
    · intro first hfirst second hsecond
      obtain ⟨what, -, rfl⟩ := Option.map_eq_some_iff.mp (Option.mem_toList.mp hsecond)
      exact lt_of_mem_shown hfirst

/-- **What a device reported**, in order, and when. -/
def reports (steps : List DeviceStep) : List (Nat × ReadEvent) := shown DeviceStep.report? steps

/-- A read that a device took. -/
structure TakenRead where
  /-- Its place in the chronicle. -/
  time : Nat
  slot : Nat
  /-- How much room its buffer has. -/
  capacity : Nat

/-- **The reads that a device took**, in order. -/
def takenReads (steps : List DeviceStep) : List TakenRead :=
  (shown DeviceStep.taken? steps).map fun taken => ⟨taken.1, taken.2.1, taken.2.2⟩

theorem reports_snoc_of_report {step : DeviceStep} {event : ReadEvent}
    (h : step.report? = some event) :
    reports (steps ++ [step]) = reports steps ++ [(steps.length, event)] := by
  rw [reports, shown_snoc, h]
  rfl

theorem reports_snoc_of_none {step : DeviceStep} (h : step.report? = none) :
    reports (steps ++ [step]) = reports steps := by
  rw [reports, shown_snoc, h]
  exact List.append_nil _

theorem takenReads_snoc_of_taken {step : DeviceStep} {slot capacity : Nat}
    (h : step.taken? = some (slot, capacity)) :
    takenReads (steps ++ [step]) = takenReads steps ++ [⟨steps.length, slot, capacity⟩] := by
  rw [takenReads, shown_snoc, h, List.map_append]
  rfl

theorem takenReads_snoc_of_none {step : DeviceStep} (h : step.taken? = none) :
    takenReads (steps ++ [step]) = takenReads steps := by
  rw [takenReads, shown_snoc, h]
  simp only [Option.map_none, Option.toList_none, List.append_nil, takenReads]

theorem time_lt_of_mem_takenReads {read : TakenRead} (h : read ∈ takenReads steps) :
    read.time < steps.length := by
  obtain ⟨taken, hmem, rfl⟩ := List.mem_map.mp h
  exact lt_of_mem_shown hmem

theorem pairwise_time_takenReads (steps : List DeviceStep) :
    (takenReads steps).Pairwise fun first second => first.time < second.time :=
  List.pairwise_map.mpr (pairwise_shown DeviceStep.taken? steps)

/-- **Whether an operation of some kind was done** after one time and before another. -/
def occurs (kind : DeviceOperation → Bool) (steps : List DeviceStep) (start stop : Nat) : Bool :=
  ((steps.take stop).drop (start + 1)).any fun step => kind step.operation

variable {kind : DeviceOperation → Bool} {start stop : Nat}

/-- What comes later does not matter. -/
theorem occurs_append (h : stop ≤ steps.length) (later : List DeviceStep) :
    occurs kind (steps ++ later) start stop = occurs kind steps start stop := by
  rw [occurs, occurs, List.take_append_of_le_length h]

theorem occurs_snoc (h : start < steps.length) (step : DeviceStep) :
    occurs kind (steps ++ [step]) start (steps ++ [step]).length =
      (occurs kind steps start steps.length || kind step.operation) := by
  rw [occurs, occurs, List.take_length, List.take_length, List.drop_append_of_le_length h,
    List.any_append]
  simp

/-- Nothing comes after the last step. -/
theorem occurs_last (steps : List DeviceStep) (step : DeviceStep) :
    occurs kind (steps ++ [step]) steps.length (steps ++ [step]).length = false := by
  rw [occurs, List.take_length, List.drop_eq_nil_of_le (by simp)]
  rfl

end LogicAnalyzer
