import LogicAnalyzer.Proofs.Capture.Runs
import LogicAnalyzer.Proofs.Session.Acceptable

/-!
# What a capture can fail to start for

The settings of a session are acceptable throughout its captures.  So what a start tells the
device needs no check of its own: once it is due, it can fail for want of memory or at the
transport, but not for the settings.

## Main results

* `Controller.prepare_of_acceptable`: settings that are acceptable can be told
* `Controller.acceptable_perform`: operations keep them acceptable
* `Controller.settings_always_acceptable`: settings are never what a start fails for
-/

namespace LogicAnalyzer.Controller

variable {τ σ : Type} {c c' : Controller τ σ}

/-- **Acceptable settings** can be told to a device that is up, if there is a pool. -/
theorem prepare_of_acceptable {pool : TransferPool} (h : c.session.Acceptable)
    (hactive : c.session.status = .active)
    (hpool : TransferPool.allocate c.poolSize c.bufferSize = .ok pool) :
    ∃ commands, c.prepare (c.session.sampleRate.getD SampleRate.standard) = .ok (pool, commands) := by
  obtain ⟨rate, hrate⟩ := Option.ne_none_iff_exists'.mp (h.chosen (by simp [hactive]))
  have hoffered := h.offered rate hrate
  rw [hrate, Option.getD_some]
  exact ⟨_, prepare_eq_ok.mpr
    ⟨hpool, _, _, Command.encode_configureTriggers h.masks, Command.encode_arm hoffered _, rfl⟩⟩

variable [Transport τ] [Sink σ]

/-- **A start that is due** fails for want of memory or at the transport. -/
theorem start_error_of_acceptable {e : Failure} (h : c.session.Acceptable)
    (hactive : c.session.status = .active) (hc : c.acquisition = none)
    (hstart : c.start = some (.error e, c')) :
    (∃ cause, e = .allocation cause) ∨ ∃ cause, e = .transfer cause := by
  unfold start at hstart
  rw [if_neg (not_not.mpr hactive), if_neg (by simp [hc])] at hstart
  cases hallocate : TransferPool.allocate c.poolSize c.bufferSize with
  | error cause =>
    simp only [prepare, hallocate] at hstart
    cases hstart
    exact .inl ⟨cause, rfl⟩
  | ok pool =>
    obtain ⟨commands, hprepare⟩ := prepare_of_acceptable h hactive hallocate
    simp only [hprepare] at hstart
    obtain ⟨⟨launched, transport⟩, -, heq⟩ := Option.map_eq_some_iff.mp hstart
    cases launched with
    | error cause =>
      cases heq
      exact .inr ⟨cause, rfl⟩
    | ok pool' => cases heq

/-! ## Operations -/

theorem persists_acceptable : Persists fun c : Controller τ σ => c.session.Acceptable :=
  persists_session (fun transport h => h.withTransport transport) (fun h => h.beginStop)
    (fun h => h.finishStop)

theorem acceptable_start {result : Except Failure Unit} (h : c.session.Acceptable)
    (hstart : c.start = some (result, c')) : c'.session.Acceptable := by
  obtain ⟨e, transport, -, rfl⟩ | ⟨-, -, -, pool, commands, pool', transport, -, -, rfl⟩ :=
    start_cases hstart
  · exact h.withTransport transport
  · exact h.withTransport transport

/-- **Operations** keep settings acceptable. -/
theorem acceptable_perform {op : Operation τ} {answer : Answer} (h : c.session.Acceptable)
    (hop : c.perform op = some (answer, c')) : c'.session.Acceptable := by
  cases op with
  | openDevice =>
    cases hop
    exact h.openDevice
  | setSampleRate rate =>
    cases hop
    exact h.setSampleRate rate
  | setSampleLimit limit =>
    cases hop
    exact h.setSampleLimit limit
  | setClockSource source =>
    cases hop
    exact h.setClockSource source
  | setOption key value =>
    cases hop
    exact h.setOption key value
  | configureChannels settings =>
    cases hop
    exact h.configureChannels settings
  | configureTriggers masks =>
    cases hop
    exact h.configureTriggers masks
  | setTransferPool poolSize bufferSize =>
    cases hop
    exact h
  | start =>
    obtain ⟨⟨result, started⟩, hstart, heq⟩ := Option.map_eq_some_iff.mp hop
    cases heq
    exact acceptable_start h hstart
  | requestStop =>
    cases hop
    exact persists_acceptable.requestStop h
  | dispatch event =>
    cases hop
    exact persists_acceptable.dispatch h event
  | poll =>
    cases hop
    exact persists_acceptable.poll h
  | adjust change =>
    cases hop
    exact h.withTransport _

theorem ReachableBy.acceptable {allowed : Operation τ → Prop}
    (h : c.ReachableBy Session.Reached allowed) : c.session.Acceptable := by
  induction h with
  | new session sink h => exact h.acceptable
  | perform _ _ hop ih => exact acceptable_perform ih hop

/-- **Settings are always acceptable.**  Whatever is done with a session, alone or as that of a
controller, and whatever its device and transport are: its rate is offered, and chosen if the
device is up, its clock is not the one that shuts the device down, and its masks pass the check
of the device.  So a start that is due, on an active session without a capture, fails for want
of memory or at the transport, and for nothing else. -/
theorem settings_always_acceptable :
    (∀ s : Session τ, s.Reached → s.Acceptable) ∧
      ∀ c : Controller τ σ, c.ReachableBy Session.Reached (fun _ => True) →
        c.session.Acceptable ∧
          (c.session.status = .active → c.acquisition = none →
            ∀ e c', c.start = some (.error e, c') →
              (∃ cause, e = .allocation cause) ∨ ∃ cause, e = .transfer cause) := by
  refine ⟨fun s h => h.acceptable, ?_⟩
  intro c h
  refine ⟨h.acceptable, ?_⟩
  intro hactive hc e c' hstart
  exact start_error_of_acceptable h.acceptable hactive hc hstart

/-- A device that comes up and then refuses to arm, with a rate and masks that were chosen before
and a setting that was refused. -/
theorem settings_always_acceptable_of_refused_command :
    ∃ (answers : List Answer) (c c' : Controller SimulatedDevice (List StreamEvent)) (e : Failure),
      (new (.new { model := .lwla1016 } .lwla1016) []).performAll
          [.setSampleRate 1000, .configureTriggers { channels := ⟨7⟩, edges := ⟨8⟩ },
            .configureTriggers { channels := ⟨7⟩, triggers := ⟨1⟩ }, .openDevice,
            .adjust fun d => d.failCommand Command.armOpcode .stall] =
        some (answers, c) ∧
      c.session.masks = { channels := ⟨7⟩, triggers := ⟨1⟩ } ∧ c.session.Acceptable ∧
      c.start = some (.error e, c') ∧
      ((∃ cause, e = .allocation cause) ∨ ∃ cause, e = .transfer cause) := by
  have hnew : (new (.new { model := .lwla1016 } .lwla1016) [] :
      Controller SimulatedDevice (List StreamEvent)).ReachableBy Session.Reached fun _ => True :=
    .new _ _ (.new _ _)
  have hreached := hnew.performAll (fun _ _ => trivial)
    (show performAll _ [.setSampleRate 1000, .configureTriggers { channels := ⟨7⟩, edges := ⟨8⟩ },
      .configureTriggers { channels := ⟨7⟩, triggers := ⟨1⟩ }, .openDevice,
      .adjust fun d => d.failCommand Command.armOpcode .stall] = _ from rfl)
  obtain ⟨hacceptable, hdue⟩ := settings_always_acceptable.2 _ hreached
  exact ⟨_, _, _, _, rfl, rfl, hacceptable, rfl, hdue rfl rfl _ _ rfl⟩

end LogicAnalyzer.Controller
