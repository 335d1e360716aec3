import LogicAnalyzer.Proofs.Capture.Shutdown
import LogicAnalyzer.Proofs.Device.Streaming

/-!
# Starts that fail

A start may fail before the device is told anything, when it refuses a command, or when it refuses a
read while others are out already.  Whatever was begun by then is undone: the reads are taken back
without a byte of the stream, and the controller is as it was.  The commands that the device
accepted are the only trace.

## Main definitions

* `Controller.LeavesNothing`: what a start may leave behind that fails

## Main results

* `Controller.launch_keeps`: a launch takes nothing off the stream
* `Controller.failed_start_leaves_nothing`: a start that fails leaves nothing behind
-/

namespace LogicAnalyzer.Controller

variable {σ : Type} {c c' : Controller SimulatedDevice σ}

section

variable {d d' : SimulatedDevice} {pool : TransferPool} {frames : List Frame}

/-- Commands are accepted up to the first that is refused. -/
theorem sendEach_keeps (frames : List Frame) (d : SimulatedDevice) :
    d.StreamKept (sendEach d frames).2 ∧
      ∃ sent, sent <+: frames ∧ (sendEach d frames).2.commands = d.commands ++ sent := by
  induction frames generalizing d with
  | nil => exact ⟨.refl d, [], List.nil_prefix, (List.append_nil _).symm⟩
  | cons frame rest ih =>
    have hsent := SimulatedDevice.streamKept_send d frame
    rw [sendEach]
    simp only [Transport.send]
    rcases hsend : d.send frame with ⟨e | _, d₁⟩
    · rw [hsend] at hsent
      refine ⟨hsent, [], List.nil_prefix, ?_⟩
      rw [List.append_nil]
      exact SimulatedDevice.commands_of_send_error hsend
    · rw [hsend] at hsent
      obtain ⟨hkept, sent, hprefix, hcommands⟩ := ih d₁
      refine ⟨hsent.trans hkept, frame :: sent, List.cons_prefix_cons.mpr ⟨rfl, hprefix⟩, ?_⟩
      rw [hcommands, SimulatedDevice.commands_of_send_ok hsend, List.append_assoc,
        List.singleton_append]

/-- **A launch**, whether it works or not, takes nothing off the stream, and the device accepts some
of the commands. -/
theorem launch_keeps {result : Except TransferError TransferPool}
    (hcancel : pool.cancelRequested = false) (h : launch d pool frames = some (result, d')) :
    d.StreamKept d' ∧ ∃ sent, sent <+: frames ∧ d'.commands = d.commands ++ sent := by
  obtain ⟨hkept, sent, hprefix, hcommands⟩ := sendEach_keeps frames d
  unfold launch at h
  split at h
  · rename_i e d₁ hsend
    cases h
    rw [hsend] at hkept hcommands
    exact ⟨hkept, sent, hprefix, hcommands⟩
  · rename_i d₁ hsend
    rw [hsend] at hkept hcommands
    split at h
    · rename_i count pool₁ d₂ hsubmit
      cases h
      have hsubmitted := TransferPool.undisturbed_submitAll hsubmit
      exact ⟨hkept.trans hsubmitted.toStreamKept, sent, hprefix,
        hsubmitted.commands.trans hcommands⟩
    · rename_i e pool₁ d₂ hsubmit
      obtain ⟨⟨pool₂, d₃⟩, habandon, heq⟩ := Option.map_eq_some_iff.mp h
      cases heq
      have hcancel₁ := TransferPool.cancelRequested_submitAll (p := pool) d₁
      rw [hsubmit, hcancel] at hcancel₁
      have hundone := (TransferPool.undisturbed_submitAll hsubmit).trans
        (TransferPool.undisturbed_abandon hcancel₁ habandon)
      exact ⟨hkept.trans hundone.toStreamKept, sent, hprefix, hundone.commands.trans hcommands⟩

end

/-- **What a start leaves behind** that fails while no capture is running: nothing, but commands that
the device accepted. -/
structure LeavesNothing (c c' : Controller SimulatedDevice σ) : Prop where
  acquisition : c'.acquisition = none
  status : c'.session.status = c.session.status
  sampleRate : c'.session.sampleRate = c.session.sampleRate
  sampleLimit : c'.session.sampleLimit = c.session.sampleLimit
  clockSource : c'.session.clockSource = c.session.clockSource
  masks : c'.session.masks = c.session.masks
  lastTrailer : c'.lastTrailer = c.lastTrailer
  sink : c'.sink = c.sink
  pending : c'.session.transport.pending = []
  stream : c'.session.transport.stream = c.session.transport.stream
  /-- The device may have accepted the masks, and after them the command to start sampling. -/
  commands : ∃ sent,
    sent <+: [(Command.configureTriggers c.session.masks).frame,
      (Command.arm (c.session.sampleRate.getD SampleRate.standard) c.session.sampleLimit).frame] ∧
    c'.session.transport.commands = c.session.transport.commands ++ sent

theorem LeavesNothing.refl (hc : c.acquisition = none) (hpending : c.session.transport.pending = []) :
    c.LeavesNothing c where
  acquisition := hc
  status := rfl
  sampleRate := rfl
  sampleLimit := rfl
  clockSource := rfl
  masks := rfl
  lastTrailer := rfl
  sink := rfl
  pending := hpending
  stream := rfl
  commands := ⟨[], List.nil_prefix, (List.append_nil _).symm⟩

variable [Sink σ]

/-- **A start that fails** on a device without a read. -/
theorem leavesNothing_of_start {e : Failure} (hc : c.acquisition = none)
    (hpending : c.session.transport.pending = []) (h : c.start = some (.error e, c')) :
    c.LeavesNothing c' := by
  obtain rfl | ⟨pool, frames, e', d, hprepare, hlaunch, rfl⟩ := start_error_cases h
  · exact .refl hc hpending
  · obtain ⟨hallocate, configure, arm, hconfigure, harm, rfl⟩ := prepare_eq_ok.mp hprepare
    obtain ⟨hkept, sent, hprefix, hcommands⟩ :=
      launch_keeps (TransferPool.cancelRequested_of_allocate hallocate) hlaunch
    rw [Command.encode_eq_ok hconfigure, Command.encode_eq_ok harm] at hprefix
    obtain ⟨-, -, hempty⟩ | ⟨launched, hno, -⟩ := launch_cases hpending hallocate hlaunch
    · exact
        { LeavesNothing.refl hc hpending with
          acquisition := hc
          pending := hempty
          stream := hkept.stream
          commands := ⟨sent, hprefix, hcommands⟩ }
    · cases hno

/-- **A start that fails leaves nothing behind.**  On the simulated device, whatever faults it was
told of and whatever was done with it before, a start comes back.  If it fails while no capture is
running, there is none afterwards, the session, the sink and the last trailer are as before, the
device has no read and still streams the same bytes, and it accepted at most the masks and the
command to start sampling.  While a capture is running it fails, and nothing changes at all. -/
theorem failed_start_leaves_nothing (h : c.Genuine) :
    ∃ result c', c.start = some (result, c') ∧
      (c.acquisition = none → ∀ e, result = .error e → c.LeavesNothing c') ∧
      (c.acquisition ≠ none → (∃ e, result = .error e) ∧ c' = c) := by
  cases hc : c.acquisition with
  | none =>
    obtain ⟨⟨result, c'⟩, hstart⟩ := exists_start c
    refine ⟨result, c', hstart, ?_, fun hsome => absurd rfl hsome⟩
    rintro - e rfl
    exact leavesNothing_of_start hc (h.attached.idle hc) hstart
  | some a =>
    obtain ⟨e, hstart⟩ := start_of_acquiring hc
    refine ⟨.error e, c, hstart, ?_, fun _ => ⟨⟨e, rfl⟩, rfl⟩⟩
    intro hnone
    cases hnone

/-- A start whose second command is refused, on a device with a byte to stream. -/
theorem failed_start_leaves_nothing_of_refused_command :
    ∃ (answers : List Answer) (c c' : Controller SimulatedDevice (List StreamEvent)),
      (new (.new { model := .lwla1016, stream := [1] } .lwla1016) []).performAll
          [.openDevice, .adjust fun d => d.failCommand Command.armOpcode .stall] =
        some (answers, c) ∧
        c.start = some (.error (.transfer .stall), c') ∧ c.LeavesNothing c' := by
  have hnew :=
    genuine_new (d := { model := .lwla1016, stream := [1] }) rfl .lwla1016 ([] : List StreamEvent)
  have hgenuine := hnew.performAll (by simp [Operation.Genuine, SimulatedDevice.failCommand])
    (show performAll _ [.openDevice, .adjust fun d => d.failCommand Command.armOpcode .stall] = _
      from rfl)
  obtain ⟨result, c', hstart, hundone, -⟩ := failed_start_leaves_nothing hgenuine
  cases hstart
  exact ⟨_, _, _, rfl, rfl, hundone rfl _ rfl⟩

end LogicAnalyzer.Controller
