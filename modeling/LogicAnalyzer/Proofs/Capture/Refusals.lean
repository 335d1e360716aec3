import LogicAnalyzer.Proofs.Capture.ClockAgreement

/-!
# What a refusal leaves behind

An operation is refused by the session, which looks at it before anything is done, or by a device
that is told of a clock.  Either way it is not made.  All that moves on is the transport, and only if
the device was told; a device that could not be brought up leaves its session a rate, too.

A start is no such operation: it may tell the device several things before one is refused.

## Main definitions

* `Session.Refuses`: a session that refused a setting
* `Controller.Refusal`: a controller that refused an operation

## Main results

* `Session.refuses_setClockSource`, `openDevice_refused` and their like: what is left of a session
* `Controller.refusal_of_perform`: what is left of a controller
* `Controller.refusals_change_nothing`: the same, with what the transport was told
-/

namespace LogicAnalyzer

variable {τ σ : Type}

/-! ## Sessions -/

namespace Session

variable [Transport τ] {s s' : Session τ} {asked : Option ClockSource} {e : Failure}

/-- **What is left of a session that refused a setting**, and the frame that its device refused, if it
was told of one.  The setting may have asked for a clock. -/
inductive Refuses (s : Session τ) (asked : Option ClockSource) (e : Failure) :
    Session τ → Option Frame → Prop where
  /-- The device was not told. -/
  | unheard : Refuses s asked e s none
  /-- The device is up, and was told of the clock. -/
  | heard {source : ClockSource} {cause : TransferError} {transport : τ}
      (asks : asked = some source) (active : s.status = .active)
      (refused : Transport.send s.transport (Command.selectClock source).frame =
        (.error cause, transport))
      (reported : e = .transfer cause) :
      Refuses s asked e { s with transport } (some (Command.selectClock source).frame)

omit [Transport τ] in
theorem eq_of_setSampleRate_error {rate : UInt64} (h : s.setSampleRate rate = (.error e, s')) :
    s' = s := by
  unfold setSampleRate at h
  split at h
  · cases h
  · cases h
    rfl

omit [Transport τ] in
theorem eq_of_takeMasks_error {action : SettledAction} {masks : Except TriggerError TriggerMasks}
    (h : s.takeMasks action masks = (.error e, s')) : s' = s := by
  unfold takeMasks at h
  split at h
  · cases h
    rfl
  · split at h
    · cases h
    · cases h
      rfl

/-- **A clock** is refused by the session if it is the one that shuts the device down, and else by an
active device. -/
theorem refuses_setClockSource {source : ClockSource}
    (h : s.setClockSource source = (.error e, s')) :
    ∃ frame?, s.Refuses (some source) e s' frame? := by
  unfold setClockSource at h
  split at h
  · cases h
    exact ⟨none, .unheard⟩
  · split at h
    · rename_i hactive
      simp only [send] at h
      rcases hsend : Transport.send s.transport (Command.selectClock source).frame with
        ⟨cause | _, transport⟩
      · rw [hsend] at h
        cases h
        exact ⟨_, .heard rfl hactive hsend rfl⟩
      · rw [hsend] at h
        cases h
    · cases h

/-- **An option** is refused for its key, for the type of its value, or as the setting that it stands
for. -/
theorem refuses_setOption {key : OptionKey} {value : OptionValue}
    (h : s.setOption key value = (.error e, s')) :
    ∃ frame?, s.Refuses (Operation.setOption key value : Operation τ).clock? e s' frame? := by
  unfold setOption at h
  split at h
  · obtain rfl := eq_of_setSampleRate_error h
    exact ⟨none, .unheard⟩
  · cases h
  · exact refuses_setClockSource h
  all_goals
    cases h
    exact ⟨none, .unheard⟩

/-- **A device that could not be brought up**: either it was up, or it refused its clock, and then the
session has a rate all the same. -/
theorem openDevice_refused (h : s.openDevice = (.error e, s')) :
    s.status ≠ .inactive ∧ s' = s ∨
      s.status = .inactive ∧ ∃ cause transport,
        Transport.send s.transport (Command.selectClock s.clockSource).frame =
          (.error cause, transport) ∧
        e = .transfer cause ∧
        s' = { s with
          transport
          status := .inactive
          sampleRate := some (s.sampleRate.getD SampleRate.standard) } := by
  unfold openDevice at h
  split at h
  · rename_i hup
    cases h
    exact .inl ⟨hup, rfl⟩
  · rename_i hdown
    simp only [send] at h
    rcases hsend : Transport.send s.transport (Command.selectClock s.clockSource).frame with
      ⟨cause | _, transport⟩
    · rw [hsend] at h
      cases h
      exact .inr ⟨Decidable.not_not.mp hdown, cause, transport, rfl, rfl, rfl⟩
    · rw [hsend] at h
      cases h

end Session

/-! ## Controllers -/

namespace Controller

variable [Transport τ] {c c' : Controller τ σ} {op : Operation τ} {e : Failure}

/-- **What is left of a controller that refused an operation**, and the frame that its device refused,
if it was told of one. -/
inductive Refusal (c : Controller τ σ) (op : Operation τ) (e : Failure) :
    Controller τ σ → Option Frame → Prop where
  /-- The device was not told, and all is as it was. -/
  | unheard (up : op = .openDevice → c.session.status ≠ .inactive) : Refusal c op e c none
  /-- The device is up, and was told of the clock that was asked for.  All is as it was, but for the
  transport. -/
  | clock {source : ClockSource} {cause : TransferError} {transport : τ}
      (asks : op.clock? = some source) (active : c.session.status = .active)
      (refused : Transport.send c.session.transport (Command.selectClock source).frame =
        (.error cause, transport))
      (reported : e = .transfer cause) :
      Refusal c op e (c.withTransport transport) (some (Command.selectClock source).frame)
  /-- The device was to be brought up.  All is as it was, but for the transport and for a rate, if
  there was none. -/
  | bringUp {cause : TransferError} {transport : τ} (opens : op = .openDevice)
      (inactive : c.session.status = .inactive)
      (refused : Transport.send c.session.transport
        (Command.selectClock c.session.clockSource).frame = (.error cause, transport))
      (reported : e = .transfer cause) :
      Refusal c op e
        { c with session := { c.session with
          transport
          status := .inactive
          sampleRate := some (c.session.sampleRate.getD SampleRate.standard) } }
        (some (Command.selectClock c.session.clockSource).frame)

/-- A refused setting of the session. -/
theorem refusal_of_refuses {asked : Option ClockSource} {s' : Session τ} {frame? : Option Frame}
    (h : c.session.Refuses asked e s' frame?) (hasked : op.clock? = asked)
    (hop : op ≠ .openDevice) : c.Refusal op e { c with session := s' } frame? := by
  subst hasked
  cases h with
  | unheard => exact .unheard fun hopens => absurd hopens hop
  | heard asks active refused reported => exact .clock asks active refused reported

omit [Transport τ] in
/-- What an operation of the session answers, and what it makes of the controller. -/
theorem exists_of_onSession {operation : Session τ → Except Failure Unit × Session τ}
    (h : some ((c.onSession operation).map Answer.result id) = some (.result (.error e), c')) :
    ∃ s', operation c.session = (.error e, s') ∧ c' = { c with session := s' } := by
  simp only [onSession] at h
  rcases hoperation : operation c.session with ⟨result, s'⟩
  rw [hoperation] at h
  cases h
  exact ⟨s', rfl, rfl⟩

variable [Sink σ]

/-- **What is left of a controller** by any operation that it refused, except for a start. -/
theorem refusal_of_perform (hstart : op ≠ .start)
    (hop : c.perform op = some (.result (.error e), c')) : ∃ frame?, c.Refusal op e c' frame? := by
  cases op with
  | openDevice =>
    obtain ⟨s', hopen, rfl⟩ := exists_of_onSession hop
    obtain ⟨hup, rfl⟩ | ⟨hdown, cause, transport, hrefused, hreported, rfl⟩ :=
      Session.openDevice_refused hopen
    · exact ⟨none, .unheard fun _ => hup⟩
    · exact ⟨_, .bringUp rfl hdown hrefused hreported⟩
  | setSampleRate rate =>
    obtain ⟨s', hset, rfl⟩ := exists_of_onSession hop
    obtain rfl := Session.eq_of_setSampleRate_error hset
    exact ⟨none, .unheard (by simp)⟩
  | setSampleLimit limit =>
    obtain ⟨s', hset, -⟩ := exists_of_onSession hop
    cases hset
  | setClockSource source =>
    obtain ⟨s', hset, rfl⟩ := exists_of_onSession hop
    obtain ⟨frame?, hrefuses⟩ := Session.refuses_setClockSource hset
    exact ⟨frame?, refusal_of_refuses hrefuses rfl (by simp)⟩
  | setOption key value =>
    obtain ⟨s', hset, rfl⟩ := exists_of_onSession hop
    obtain ⟨frame?, hrefuses⟩ := Session.refuses_setOption hset
    exact ⟨frame?, refusal_of_refuses hrefuses rfl (by simp)⟩
  | configureChannels settings =>
    obtain ⟨s', hset, rfl⟩ := exists_of_onSession hop
    obtain rfl := Session.eq_of_takeMasks_error hset
    exact ⟨none, .unheard (by simp)⟩
  | configureTriggers masks =>
    obtain ⟨s', hset, rfl⟩ := exists_of_onSession hop
    obtain rfl := Session.eq_of_takeMasks_error hset
    exact ⟨none, .unheard (by simp)⟩
  | setTransferPool poolSize bufferSize => cases hop
  | start => exact absurd rfl hstart
  | requestStop =>
    have hunchanged : c.requestStop = (.error e, c') := by
      simp only [perform] at hop
      rcases hstop : c.requestStop with ⟨result, d⟩
      rw [hstop] at hop
      cases hop
      rfl
    unfold requestStop at hunchanged
    split at hunchanged
    · cases hunchanged
      exact ⟨none, .unheard (by simp)⟩
    · split at hunchanged
      · cases hunchanged
        exact ⟨none, .unheard (by simp)⟩
      · cases hunchanged
  | dispatch event => cases hop
  | poll => cases hop
  | adjust change => cases hop

omit [Transport τ] [Sink σ] in
/-- The trace of the transport makes no difference to the clock that is asked for. -/
theorem clock?_traced (op : Operation τ) : op.traced.clock? = op.clock? := by
  cases op with
  | setOption key value => cases key <;> cases value <;> rfl
  | _ => rfl

omit [Sink σ] in
/-- **On a traced transport** the refusal is the same, and the trace has the frame that was refused, if
there was one. -/
theorem refusal_of_traced {d : Controller (Traced τ) σ} {frame? : Option Frame}
    (h : c.traced.Refusal op.traced e d frame?) :
    c.Refusal op e (d.mapTransport Traced.inner) frame? ∧
      d.session.transport.calls = frame?.toList.map (Call.send · false) := by
  cases h with
  | unheard up =>
    refine ⟨.unheard ?_, rfl⟩
    rintro rfl
    exact up rfl
  | clock asks active refused reported =>
    obtain ⟨hinner, hcalls⟩ := Traced.send_inner refused
    exact ⟨.clock ((clock?_traced op).symm.trans asks) active hinner reported, hcalls⟩
  | bringUp opens inactive refused reported =>
    obtain ⟨hinner, hcalls⟩ := Traced.send_inner refused
    have hopens : op = .openDevice := by
      cases op with
      | openDevice => rfl
      | _ => cases opens
    exact ⟨.bringUp hopens inactive hinner reported, hcalls⟩

/-- **Refusals change nothing.**  Let any operation but a start be refused, on any transport and in any
state.  If the device was not told of it, the transport was told nothing, and the whole controller is
as it was.  The device is told of a clock that it is to take while it is up; then the transport was
told that, once, refused it, and all but the transport is as it was.  A device that is to be brought
up is told of the clock of the session; if it refuses, the session is as inactive as before, has a
rate if it had none, and all else but the transport is as it was. -/
theorem refusals_change_nothing (hstart : op ≠ .start)
    (hop : c.perform op = some (.result (.error e), c')) :
    ∃ frame?, c.Refusal op e c' frame? ∧ c.calls op = frame?.toList.map (Call.send · false) := by
  have htraced : op.traced ≠ .start := by
    cases op with
    | start => exact absurd rfl hstart
    | _ => nofun
  obtain ⟨d, hd, rfl, hcalls⟩ := perform_traced hop
  obtain ⟨frame?, hrefusal⟩ := refusal_of_perform htraced hd
  obtain ⟨hsame, htrace⟩ := refusal_of_traced hrefusal
  exact ⟨frame?, hsame, hcalls.symm.trans htrace⟩

/-- An external clock that a device refuses in the middle of a capture. -/
theorem refusals_change_nothing_of_stalled_clock :
    ∃ (answers : List Answer) (c c' : Controller SimulatedDevice (List StreamEvent)),
      (new (.new { model := .lwla1016 } .lwla1016) []).performAll
          [.openDevice, .setTransferPool 1 8, .start,
            .adjust fun d => d.failCommand Command.selectClockOpcode .stall] = some (answers, c) ∧
        c.isAcquiring = true ∧
        c.perform (.setOption .externalClock (.flag true)) =
          some (.result (.error (.transfer .stall)), c') ∧
        ∃ frame?, c.Refusal (.setOption .externalClock (.flag true)) (.transfer .stall) c' frame? ∧
          c.calls (.setOption .externalClock (.flag true)) =
            frame?.toList.map (Call.send · false) :=
  ⟨_, _, _, rfl, rfl, rfl, refusals_change_nothing nofun rfl⟩

end Controller

end LogicAnalyzer
