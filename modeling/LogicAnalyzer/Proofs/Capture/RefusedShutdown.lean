import LogicAnalyzer.Proofs.Capture.Shutdown
import LogicAnalyzer.Proofs.Device.Guises

/-!
# Captures and a refused shutdown

Once a capture has started it sends one more command, which shuts the device down, and does not
look whether that was taken.  So captures over two devices of which one refuses this command run
alongside: every poll gives the same answer, and but for the devices themselves the controllers are
the same at every moment, also when the captures are over.

## Main definitions

* `SimulatedDevice.withShutdownFailure`: a device that refuses to be shut down, or takes all commands
* `Controller.Alongside f`: two controllers that differ in their transports at most

## Main results

* `Controller.start_withShutdownFailure`: both captures start alike
* `Controller.Alongside.poll`, `performAll_polls`: and are polled alike
-/

namespace LogicAnalyzer

namespace SimulatedDevice

/-- The device, but it refuses to be shut down with this error, or without one takes all commands. -/
def withShutdownFailure (error : Option TransferError) (d : SimulatedDevice) : SimulatedDevice :=
  { d with commandFailure := error.map fun e => (Command.shutdown.frame.opcode, e) }

/-- It makes no difference to reads. -/
theorem readHom_withShutdownFailure (error : Option TransferError) :
    Transport.ReadHom (withShutdownFailure error) :=
  readHom_mapCommands id id fun _ => error.map fun e => (Command.shutdown.frame.opcode, e)

/-- Other commands are taken. -/
theorem send_withShutdownFailure (error : Option TransferError) (d : SimulatedDevice)
    {frame : Frame} (hother : frame.opcode ≠ Command.shutdown.frame.opcode) :
    (d.withShutdownFailure error).send frame =
      (.ok (), withShutdownFailure error { d with commands := d.commands ++ [frame] }) := by
  have htaken : (d.withShutdownFailure error).refusal? frame.opcode = none := by
    cases error with
    | none => rfl
    | some e => exact if_neg hother.symm
  simp only [send, htaken]
  rfl

end SimulatedDevice

namespace Controller

section

variable {τ σ : Type} {f : τ → τ} {c c' d : Controller τ σ} {answers : List Answer}

/-- **The controllers differ in their transports at most**, and while a capture is running these
agree along `f`. -/
structure Alongside (f : τ → τ) (c c' : Controller τ σ) : Prop where
  same : c' = c.withTransport c'.session.transport
  running : c.acquisition ≠ none → c'.session.transport = f c.session.transport

theorem alongside_mapTransport (c : Controller τ σ) : Alongside f c (c.mapTransport f) :=
  ⟨rfl, fun _ => rfl⟩

theorem Alongside.eq_mapTransport (h : Alongside f c c') (hc : c.acquisition ≠ none) :
    c' = c.mapTransport f := by
  rw [h.same, h.running hc]
  rfl

variable [Transport τ] [Sink σ]

/-- A capture that is over may leave the transports different: the command that shut the device down
was taken by one of them only. -/
theorem alongside_finishIfDrained (c : Controller τ σ) :
    (c.mapTransport f).finishIfDrained.1 = c.finishIfDrained.1 ∧
      Alongside f c.finishIfDrained.2 (c.mapTransport f).finishIfDrained.2 := by
  rcases c with ⟨session, sink, _ | a, trailer, poolSize, bufferSize⟩
  · exact ⟨rfl, alongside_mapTransport _⟩
  · simp only [finishIfDrained, mapTransport]
    split
    · exact ⟨rfl, rfl, fun hrunning => absurd rfl hrunning⟩
    · exact ⟨rfl, alongside_mapTransport _⟩

/-- **One poll** gives the same answer from both. -/
theorem Alongside.poll (hf : Transport.ReadHom f) (h : Alongside f c c') :
    c'.poll.1 = c.poll.1 ∧ Alongside f c.poll.2 c'.poll.2 := by
  by_cases hc : c.acquisition = none
  · have hc' : c'.acquisition = none := by rw [h.same]; exact hc
    rw [poll_of_idle hc, poll_of_idle hc']
    exact ⟨rfl, h⟩
  · obtain ⟨c₁, heq, heq'⟩ := exists_poll_hom hf c
    rw [h.eq_mapTransport hc, heq, heq']
    exact alongside_finishIfDrained c₁

/-- **Any number of polls** gives the same answers from both. -/
theorem Alongside.performAll_polls (hf : Transport.ReadHom f) (h : Alongside f c c') {n : Nat}
    (hpolls : c.performAll (List.replicate n .poll) = some (answers, d)) :
    ∃ d', c'.performAll (List.replicate n .poll) = some (answers, d') ∧ Alongside f d d' := by
  induction n generalizing c c' answers with
  | zero =>
    cases hpolls
    exact ⟨c', rfl, h⟩
  | succ n ih =>
    obtain ⟨answer, c₁, answers', hpoll, hrest, rfl⟩ := performAll_cons_eq_some.mp hpolls
    cases hpoll
    obtain ⟨hanswer, hnext⟩ := h.poll hf
    obtain ⟨d', hrest', hlast⟩ := ih hnext hrest
    refine ⟨d', performAll_cons_eq_some.mpr ⟨_, _, _, rfl, hrest', ?_⟩, hlast⟩
    exact congrArg (fun progress => .progress progress :: answers') hanswer.symm

end

/-! ## The start -/

section

variable {d d' : SimulatedDevice} {frames : List Frame} {pool pool' : TransferPool}

/-- Commands that are taken are taken down, and nothing else. -/
theorem sendEach_of_ok (h : sendEach d frames = (.ok (), d')) :
    d' = { d with commands := d.commands ++ frames } := by
  induction frames generalizing d with
  | nil =>
    cases h
    rw [List.append_nil]
  | cons frame rest ih =>
    rw [sendEach] at h
    simp only [Transport.send, SimulatedDevice.send] at h
    cases hrefusal : d.refusal? frame.opcode with
    | some e =>
      simp only [hrefusal] at h
      cases h
    | none =>
      simp only [hrefusal] at h
      rw [ih h, List.append_assoc, List.singleton_append]

theorem sendEach_withShutdownFailure (error : Option TransferError) (d : SimulatedDevice)
    (hothers : ∀ frame ∈ frames, frame.opcode ≠ Command.shutdown.frame.opcode) :
    sendEach (d.withShutdownFailure error) frames =
      (.ok (), SimulatedDevice.withShutdownFailure error
        { d with commands := d.commands ++ frames }) := by
  induction frames generalizing d with
  | nil => rw [sendEach, List.append_nil]
  | cons frame rest ih =>
    have hfirst := SimulatedDevice.send_withShutdownFailure error d
      (hothers frame (List.mem_cons_self ..))
    have hrest := ih { d with commands := d.commands ++ [frame] } fun other hmem =>
      hothers other (List.mem_cons_of_mem _ hmem)
    rw [List.append_assoc, List.singleton_append] at hrest
    simp only [sendEach, Transport.send, hfirst]
    exact hrest

theorem launch_withShutdownFailure (error : Option TransferError)
    (hothers : ∀ frame ∈ frames, frame.opcode ≠ Command.shutdown.frame.opcode)
    (h : launch d pool frames = some (.ok pool', d')) :
    launch (d.withShutdownFailure error) pool frames =
      some (.ok pool', d'.withShutdownFailure error) := by
  obtain ⟨sent, count, hsend, hsubmit⟩ := exists_of_launch_ok h
  have hsame := TransferPool.submitAll_hom (SimulatedDevice.readHom_withShutdownFailure error) pool
    sent
  rw [hsubmit] at hsame
  rw [launch, sendEach_withShutdownFailure error d hothers, ← sendEach_of_ok hsend]
  simp only [hsame, Prod.map, id]

end

/-- What is prepared for a capture does not look like the shutdown. -/
theorem opcode_of_prepare {τ σ : Type} {c : Controller τ σ} {rate : UInt64} {pool : TransferPool}
    {commands : List Frame} (h : c.prepare rate = .ok (pool, commands)) :
    ∀ frame ∈ commands, frame.opcode ≠ Command.shutdown.frame.opcode := by
  obtain ⟨-, configure, arm, hconfigure, harm, rfl⟩ := prepare_eq_ok.mp h
  rw [Command.encode_eq_ok hconfigure, Command.encode_eq_ok harm]
  intro frame hframe
  rcases List.mem_cons.mp hframe with rfl | hframe
  · show Command.configureTriggersOpcode ≠ Command.selectClockOpcode
    decide
  · rw [List.mem_singleton.mp hframe]
    show Command.armOpcode ≠ Command.selectClockOpcode
    decide

/-- **A capture that starts** on a device starts alike on one that refuses to be shut down. -/
theorem start_withShutdownFailure {σ : Type} [Sink σ] {c c₁ : Controller SimulatedDevice σ}
    (h : c.start = some (.ok (), c₁)) (error : Option TransferError) :
    (c.mapTransport (SimulatedDevice.withShutdownFailure error)).start =
      some (.ok (), c₁.mapTransport (SimulatedDevice.withShutdownFailure error)) := by
  obtain ⟨e, d, hno, -⟩ | ⟨-, hactive, hidle, pool, commands, pool', d, hprepare, hlaunch, rfl⟩ :=
    start_cases h
  · cases hno
  have hlaunch' := launch_withShutdownFailure error (opcode_of_prepare hprepare) hlaunch
  have hactive' :
      ¬(c.mapTransport (SimulatedDevice.withShutdownFailure error)).session.status ≠ .active :=
    not_not_intro hactive
  have hidle' :
      ¬(c.mapTransport (SimulatedDevice.withShutdownFailure error)).acquisition.isSome = true := by
    simp [mapTransport, hidle]
  have hprepare' : (c.mapTransport (SimulatedDevice.withShutdownFailure error)).prepare
      (c.session.sampleRate.getD SampleRate.standard) = .ok (pool, commands) := hprepare
  rw [start, if_neg hactive', if_neg hidle']
  simp only [mapTransport, Session.mapTransport] at hprepare' ⊢
  simp only [hprepare', hlaunch', Option.map_some]
  rfl

end Controller

end LogicAnalyzer
