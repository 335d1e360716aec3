import LogicAnalyzer.Device.Simulated
import LogicAnalyzer.Proofs.Transfer.Calls

/-!
# Devices in another guise

A device keeps its commands and counts what was done with it, and its counts decide when a fault
strikes that it was told of.  Most of that is out of the picture when it is used.  Reads have
nothing to do with commands.  And a device that has a past differs from a new one with the same
stream in its counts alone, if all faults that it was told of are over.

## Main definitions

* `SimulatedDevice.mapCommands`: a device that was told, and refuses, something else
* `SimulatedDevice.withPast`: a device with which other things were done before
* `SimulatedDevice.Unfailing`: no fault can strike any more

## Main results

* `SimulatedDevice.readHom_mapCommands`: commands make no difference to reads
* `SimulatedDevice.hom_withPast`: the past makes none at all
* `SimulatedDevice.Unfailing.exists_past`: without faults to come, a device is a new one with a past
-/

namespace LogicAnalyzer.SimulatedDevice

/-! ## Other commands -/

/-- The device, but it accepted other commands, refused others, and is to refuse others. -/
def mapCommands (accepted : List Frame → List Frame) (refused : Nat → Nat)
    (failure : Option (UInt16 × TransferError) → Option (UInt16 × TransferError))
    (d : SimulatedDevice) : SimulatedDevice :=
  { d with
    commands := accepted d.commands
    refusedCommands := refused d.refusedCommands
    commandFailure := failure d.commandFailure }

/-- **Commands make no difference to reads.** -/
theorem readHom_mapCommands (accepted : List Frame → List Frame) (refused : Nat → Nat)
    (failure : Option (UInt16 × TransferError) → Option (UInt16 × TransferError)) :
    Transport.ReadHom (mapCommands accepted refused failure) where
  submit d slot buffer := by
    by_cases hrefused : d.submissionFailure = some d.submissions
    · simp [Transport.submit, submit, mapCommands, hrefused]
    · simp [Transport.submit, submit, mapCommands, hrefused]
  cancelAll _ := rfl
  next d := by
    have hcomplete (read : PendingRead) :
        (mapCommands accepted refused failure d).complete read = d.complete read := rfl
    have hpending : (mapCommands accepted refused failure d).pending = d.pending := rfl
    simp only [Transport.next, next, hpending, hcomplete]
    split
    · rfl
    · split <;> rfl
  forget _ := rfl

/-! ## Another past -/

/-- **What was done with a device**: commands, counts, and the faults that are over. -/
structure Past where
  commands : List Frame
  refusedCommands : Nat
  completions : Nat
  submissions : Nat
  cancelRequests : Nat
  forgotten : Nat
  /-- The report that was to fail. -/
  completionFailure : Option (Nat × TransferError)
  completion_over : ∀ fault ∈ completionFailure, fault.1 < completions
  /-- The submission that was to be refused. -/
  submissionFailure : Option Nat
  submission_over : ∀ index ∈ submissionFailure, index < submissions

/-- **A device with which other things were done before.**  Its faults are as far ahead as they
were. -/
def withPast (past : Past) (d : SimulatedDevice) : SimulatedDevice :=
  { d with
    commands := past.commands ++ d.commands
    refusedCommands := past.refusedCommands + d.refusedCommands
    completionFailure := (d.completionFailure.map fun fault =>
      (past.completions + fault.1, fault.2)).or past.completionFailure
    submissionFailure := (d.submissionFailure.map (past.submissions + ·)).or past.submissionFailure
    completions := past.completions + d.completions
    submissions := past.submissions + d.submissions
    cancelRequests := past.cancelRequests + d.cancelRequests
    forgotten := past.forgotten + d.forgotten }

variable {past : Past} {d : SimulatedDevice}

/-- The same reports fail. -/
theorem failure?_withPast (past : Past) (d : SimulatedDevice) :
    (d.withPast past).failure? = d.failure? := by
  rcases hfault : d.completionFailure with _ | ⟨index, error⟩
  · rcases hover : past.completionFailure with _ | ⟨index, error⟩
    · simp only [failure?, withPast, hfault, hover, Option.map_none, Option.or_none]
    · have hlt : index < past.completions := past.completion_over _ hover
      have hne : index ≠ past.completions + d.completions := by omega
      simp only [failure?, withPast, hfault, hover, Option.map_none, Option.none_or, if_neg hne]
  · simp only [failure?, withPast, hfault, Option.map_some, Option.some_or,
      Nat.add_right_inj]

/-- The same submissions are refused. -/
theorem submissionFailure_withPast (past : Past) (d : SimulatedDevice) :
    (d.withPast past).submissionFailure = some (d.withPast past).submissions ↔
      d.submissionFailure = some d.submissions := by
  rcases hfault : d.submissionFailure with _ | index
  · rcases hover : past.submissionFailure with _ | index
    · simp [withPast, hfault, hover]
    · have hlt : index < past.submissions := past.submission_over _ hover
      have hne : index ≠ past.submissions + d.submissions := by omega
      simp [withPast, hfault, hover, hne]
  · simp [withPast, hfault]

/-- **The past makes no difference.** -/
theorem hom_withPast (past : Past) : Transport.Hom (withPast past) where
  send d frame := by
    have hrefusal : (d.withPast past).refusal? frame.opcode = d.refusal? frame.opcode := rfl
    simp only [Transport.send, send, hrefusal]
    split
    · rfl
    · simp only [withPast, Prod.map, id, List.append_assoc]
  submit d slot buffer := by
    by_cases hrefused : d.submissionFailure = some d.submissions
    · have hrefused' := (submissionFailure_withPast past d).mpr hrefused
      simp only [Transport.submit, submit, if_pos hrefused, if_pos hrefused']
      rfl
    · have htaken := mt (submissionFailure_withPast past d).mp hrefused
      simp only [Transport.submit, submit, if_neg hrefused, if_neg htaken]
      rfl
  cancelAll _ := rfl
  next d := by
    have hcomplete (read : PendingRead) :
        (d.withPast past).complete read = d.complete read := by
      simp only [complete, failure?_withPast]
      rfl
    have hpending : (d.withPast past).pending = d.pending := rfl
    simp only [Transport.next, next, hpending, hcomplete]
    split
    · rfl
    · split <;> rfl
  forget d := by
    simp only [Transport.forget, forget, withPast, Nat.add_assoc]

/-- **No fault can strike any more** that the device was told of, and it does not hold
confirmations.  Faults that have struck, or were passed by, need not have been taken back. -/
structure Unfailing (d : SimulatedDevice) : Prop where
  commands : d.commandFailure = none
  completions : ∀ fault ∈ d.completionFailure, fault.1 < d.completions
  submissions : ∀ index ∈ d.submissionFailure, index < d.submissions
  cancellations : d.holdsCancellations = false

/-- **Such a device without a read is a new one with a past.** -/
theorem Unfailing.exists_past (h : d.Unfailing) (hpending : d.pending = []) :
    ∃ past, d = withPast past { model := d.model, stream := d.stream } := by
  refine ⟨⟨d.commands, d.refusedCommands, d.completions, d.submissions, d.cancelRequests,
    d.forgotten, d.completionFailure, h.completions, d.submissionFailure, h.submissions⟩, ?_⟩
  obtain ⟨model, stream, pending, commands, refused, commandFailure, completionFailure,
    submissionFailure, holds, completions, submissions, cancelRequests, forgotten⟩ := d
  obtain rfl : commandFailure = none := h.commands
  obtain rfl : holds = false := h.cancellations
  obtain rfl : pending = [] := hpending
  simp [withPast]

end LogicAnalyzer.SimulatedDevice
