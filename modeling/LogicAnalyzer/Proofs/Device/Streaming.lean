import LogicAnalyzer.Proofs.Device.Faults

/-!
# What leaves the stream of a device

Only a report takes bytes off the stream, and it has all of them in its buffer.  Nothing else that a
pool asks of the device touches the stream: neither submissions nor cancellations, and not the
reports that confirm these.

## Main definitions

* `SimulatedDevice.Cleared`: the reads that are out have empty buffers
* `SimulatedDevice.StreamKept`, `Undisturbed`: from one device to another nothing left the stream,
  and no command was accepted either

## Main results

* `SimulatedDevice.next_takes`: what a report takes off the stream
* `TransferPool.undisturbed_submitAll`, `undisturbed_cancelAll`: what takes
  nothing
* `TransferPool.undisturbed_abandon`: neither does a pool that stops at once
-/

namespace LogicAnalyzer

namespace SimulatedDevice

variable {d d' d'' : SimulatedDevice} {event : ReadEvent}

/-- **The reads that are out have empty buffers.** -/
def Cleared (d : SimulatedDevice) : Prop := ∀ read ∈ d.pending, read.buffer.bytes = []

/-! ## Reports -/

/-- **What a report takes off the stream**: what its buffer has more than it had, and nothing unless
it says that bytes were received. -/
theorem next_takes (h : d.next = (some event, d')) :
    ∃ read ∈ d.pending, ∃ taken,
      d.stream = taken ++ d'.stream ∧ event.buffer.bytes = read.buffer.bytes ++ taken ∧
      (event.outcome ≠ .received → taken = []) := by
  obtain ⟨read, rest, stream, hpending, hready, rfl⟩ := next_cases h
  refine ⟨read, hpending ▸ List.mem_cons_self .., ?_⟩
  cases hready with
  | confirms cancelled free => exact ⟨[], rfl, (List.append_nil _).symm, fun _ => rfl⟩
  | fails cancelled failure => exact ⟨[], rfl, (List.append_nil _).symm, fun _ => rfl⟩
  | receives cancelled failure stream =>
    exact ⟨_, (List.take_append_drop ..).symm, rfl, fun houtcome => absurd rfl houtcome⟩

/-- So a read with an empty buffer reports just what it takes. -/
theorem stream_of_next (h : d.next = (some event, d')) (hcleared : d.Cleared) :
    d.stream = event.buffer.bytes ++ d'.stream ∧
      (event.outcome ≠ .received → event.buffer.bytes = []) := by
  obtain ⟨read, hread, taken, hstream, hbytes, hnone⟩ := next_takes h
  rw [hcleared read hread, List.nil_append] at hbytes
  rw [hbytes]
  exact ⟨hstream, hnone⟩

theorem cleared_of_next (h : d.next = (some event, d')) (hcleared : d.Cleared) : d'.Cleared := by
  obtain ⟨first, rest, hpending, hpending', -⟩ := next_some h
  intro other hmem
  rw [hpending'] at hmem
  exact hcleared other (hpending ▸ List.mem_cons_of_mem _ hmem)

theorem commands_next (d : SimulatedDevice) : d.next.2.commands = d.commands := by
  unfold next
  split
  · rfl
  · split <;> rfl

/-! ## What takes nothing -/

/-- **From `d` to `d'` nothing left the stream**, and no buffer was handed over that has something in
it. -/
structure StreamKept (d d' : SimulatedDevice) : Prop where
  stream : d'.stream = d.stream
  cleared : d.Cleared → d'.Cleared

/-- Nor was a command accepted. -/
structure Undisturbed (d d' : SimulatedDevice) : Prop extends StreamKept d d' where
  commands : d'.commands = d.commands

theorem StreamKept.refl (d : SimulatedDevice) : d.StreamKept d := ⟨rfl, id⟩

theorem StreamKept.trans (h : d.StreamKept d') (h' : d'.StreamKept d'') : d.StreamKept d'' :=
  ⟨h'.stream.trans h.stream, h'.cleared ∘ h.cleared⟩

theorem StreamKept.of_eq (hstream : d'.stream = d.stream) (hpending : d'.pending = d.pending) :
    d.StreamKept d' := by
  refine ⟨hstream, ?_⟩
  intro h
  unfold Cleared
  rwa [hpending]

theorem Undisturbed.refl (d : SimulatedDevice) : d.Undisturbed d := ⟨.refl d, rfl⟩

theorem Undisturbed.trans (h : d.Undisturbed d') (h' : d'.Undisturbed d'') : d.Undisturbed d'' :=
  ⟨h.toStreamKept.trans h'.toStreamKept, h'.commands.trans h.commands⟩

theorem streamKept_send (d : SimulatedDevice) (frame : Frame) : d.StreamKept (d.send frame).2 := by
  unfold send
  split
  · exact .of_eq rfl rfl
  · exact .of_eq rfl rfl

theorem commands_of_send_ok {frame : Frame} (h : d.send frame = (.ok (), d')) :
    d'.commands = d.commands ++ [frame] := by
  unfold send at h
  split at h
  · cases h
  · cases h
    rfl

theorem commands_of_send_error {frame : Frame} {e : TransferError}
    (h : d.send frame = (.error e, d')) : d'.commands = d.commands := by
  unfold send at h
  split at h
  · cases h
    rfl
  · cases h

theorem undisturbed_submit (d : SimulatedDevice) (slot : Nat) (buffer : Buffer) :
    d.Undisturbed (d.submit slot buffer.clear).2 := by
  unfold submit
  dsimp only
  split
  · exact ⟨.of_eq rfl rfl, rfl⟩
  · refine ⟨⟨rfl, ?_⟩, rfl⟩
    intro h read hread
    rcases List.mem_append.mp hread with hold | hnew
    · exact h read hold
    · rw [List.mem_singleton.mp hnew]
      rfl

theorem undisturbed_cancelAll (d : SimulatedDevice) : d.Undisturbed d.cancelAll := by
  refine ⟨⟨rfl, ?_⟩, rfl⟩
  intro h other hmem
  obtain ⟨read, hread, rfl⟩ := List.mem_map.mp hmem
  exact h read hread

/-- **A report that is not of received bytes** takes nothing. -/
theorem undisturbed_next (h : d.next = (some event, d')) (houtcome : event.outcome ≠ .received) :
    d.Undisturbed d' := by
  obtain ⟨read, -, taken, hstream, -, hnone⟩ := next_takes h
  rw [hnone houtcome, List.nil_append] at hstream
  have hcommands := commands_next d
  rw [h] at hcommands
  exact ⟨⟨hstream.symm, cleared_of_next h⟩, hcommands⟩

theorem undisturbed_forget (d : SimulatedDevice) : d.Undisturbed d.forget :=
  ⟨⟨rfl, fun _ _ hread => absurd hread List.not_mem_nil⟩, rfl⟩

end SimulatedDevice

namespace TransferPool

variable {p p' : TransferPool} {d d' : SimulatedDevice}

/-! ## What a pool asks of a device -/

/-- Handing over buffers empties them first. -/
theorem undisturbed_submitAll {result : Except TransferError Nat}
    (h : p.submitAll d = (result, p', d')) : d.Undisturbed d' := by
  refine of_submitAll (motive := d.Undisturbed) ?_ h (.refl d)
  intro d₁ slot buffer hkept
  exact hkept.trans (SimulatedDevice.undisturbed_submit d₁ slot buffer)

theorem undisturbed_cancelAll (p : TransferPool) (d : SimulatedDevice) :
    d.Undisturbed (p.cancelAll d).2 := by
  refine of_cancelAll (motive := d.Undisturbed) ?_ p (.refl d)
  intro d₁ hkept
  exact hkept.trans (SimulatedDevice.undisturbed_cancelAll d₁)

/-- **A pool that stops at once** takes nothing off the stream: it settles reads only once all of
them are cancelled. -/
theorem undisturbed_abandon (hcancel : p.cancelRequested = false)
    (habandon : p.abandon d = some (p', d')) : d.Undisturbed d' := by
  obtain ⟨p₁, d₁, hsettle, hdone⟩ := abandon_cases habandon
  have hstopped := undisturbed_cancelAll p d
  have hsettled : d.Undisturbed d₁ := by
    rcases Nat.eq_zero_or_pos p.outstanding with hnone | hsome
    · have hsame : p.cancelAll d = ({ p with cancelRequested := true }, d) := by
        simp [cancelAll, hcancel, hnone]
      rw [hsame] at hsettle
      have hdrained : settleNext ({ p with cancelRequested := true }, d) =
          .inr ({ p with cancelRequested := true }, d) := if_pos hnone
      cases (loop_of_inr hdrained).symm.trans hsettle
      exact .refl d
    · have hcancelled : ∀ read ∈ (p.cancelAll d).2.pending, read.cancelled = true := by
        simp only [cancelAll, hcancel, Bool.false_eq_true, if_false, if_pos hsome]
        intro other hmem
        obtain ⟨read, -, rfl⟩ := List.mem_map.mp hmem
        rfl
      refine (of_settleReady (motive := fun _ u => d.Undisturbed u ∧
        ∀ read ∈ u.pending, read.cancelled = true) ?_ ?_ hsettle ⟨hstopped, hcancelled⟩).1
      · rintro q u event u' ⟨hkept, hall⟩ hnext
        obtain ⟨read, rest, hpending, hpending', -, -, houtcome⟩ := SimulatedDevice.next_some hnext
        have hconfirmed := houtcome.mpr (hall read (hpending ▸ List.mem_cons_self ..))
        refine ⟨hkept.trans (SimulatedDevice.undisturbed_next hnext (by simp [hconfirmed])), ?_⟩
        intro other hmem
        rw [hpending'] at hmem
        exact hall other (hpending ▸ List.mem_cons_of_mem _ hmem)
      · rintro q u u' hboth hnext
        rwa [SimulatedDevice.next_none hnext]
  obtain ⟨-, rfl⟩ | rfl := hdone
  · exact hsettled
  · exact hsettled.trans (SimulatedDevice.undisturbed_forget d₁)

end TransferPool

end LogicAnalyzer
