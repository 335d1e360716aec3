import LogicAnalyzer.Capture.Recording
import LogicAnalyzer.Proofs.Capture.Acceptance
import LogicAnalyzer.Proofs.Capture.Genuine
import LogicAnalyzer.Proofs.Device.Guises

/-!
# Captures and their history

A controller takes one capture after another, and earlier ones may have been stopped, aborted, or
failed to start.  They leave their traces: commands and counts in the device, a recording in the
sink, the trailer of the last capture.  None of them reaches the next capture.  It goes as it would
with a new controller, brought to the same configuration, over a new device with the same stream.

## Main definitions

* `Controller.replica`, `configuration`: the new controller, and what configures it
* `Operation.Drives`: what is done in the course of a capture

## Main results

* `Controller.performAll_configuration`: the replica can be configured alike
* `Controller.start_over`: a start makes away with the old recording
* `Controller.capture_independent_of_history`: both captures are recorded alike
-/

namespace LogicAnalyzer

/-- **What is done in the course of a capture**: it is polled and stopped, and the device is given
bytes to stream. -/
def Operation.Drives : Operation SimulatedDevice → Prop
  | .poll | .requestStop => True
  | .adjust change => ∃ bytes, change = fun d => d.queue bytes
  | _ => False

namespace Controller

open SimulatedDevice (Past withPast)

/-! ## The past of the device -/

section

variable {σ : Type} [Sink σ] {op : Operation SimulatedDevice}

theorem perform_withPast (past : Past) (hdrives : op.Drives) (c : Controller SimulatedDevice σ) :
    (c.mapTransport (withPast past)).perform op =
      (c.perform op).map (Prod.map id (mapTransport (withPast past))) := by
  have hf := SimulatedDevice.hom_withPast past
  cases op with
  | poll =>
    simp only [perform, poll_hom hf]
    rfl
  | requestStop =>
    simp only [perform, requestStop_hom hf]
    rfl
  | adjust change =>
    obtain ⟨bytes, rfl⟩ := hdrives
    rfl
  | _ => cases hdrives

/-- **A capture is driven alike** over a device with any past. -/
theorem performAll_withPast {ops : List (Operation SimulatedDevice)}
    (hdrive : ∀ op ∈ ops, op.Drives) (c : Controller SimulatedDevice σ) :
    ∃ (answers : List Answer) (d : Controller SimulatedDevice σ), ∀ past,
      (c.mapTransport (withPast past)).performAll ops =
        some (answers, d.mapTransport (withPast past)) := by
  induction ops generalizing c with
  | nil => exact ⟨[], c, fun past => rfl⟩
  | cons op rest ih =>
    obtain ⟨hfirst, hothers⟩ := List.forall_mem_cons.mp hdrive
    obtain ⟨answer, c₁, hop⟩ := exists_perform c op
    obtain ⟨answers, d, hrest⟩ := ih hothers c₁
    refine ⟨answer :: answers, d, fun past => ?_⟩
    rw [performAll_cons_eq_some]
    refine ⟨answer, c₁.mapTransport (withPast past), answers, ?_, hrest past, rfl⟩
    rw [perform_withPast past hfirst, hop]
    rfl

end

/-! ## The start -/

/-- **A start makes away with the old recording** and the trailer of the last capture, if it works.
Whether it does is up to neither of them. -/
theorem start_over (c : Controller SimulatedDevice Recording) (sink : Recording)
    (lastTrailer : Option StreamTrailer) :
    ∃ result c₁ c₁', c.start = some (result, c₁) ∧
      Controller.start { c with sink, lastTrailer } = some (result, c₁') ∧
      (result = .ok () → c₁' = c₁) := by
  have hprepare (rate : UInt64) :
      prepare { c with sink, lastTrailer } rate = c.prepare rate := rfl
  have hbegun (rate : UInt64) (pool : TransferPool) (d : SimulatedDevice) :
      begun { c with sink, lastTrailer } rate pool d = c.begun rate pool d := rfl
  unfold start
  by_cases hactive : c.session.status ≠ .active
  · rw [if_pos hactive, if_pos hactive]
    exact ⟨_, _, _, rfl, rfl, nofun⟩
  rw [if_neg hactive, if_neg hactive]
  by_cases hrunning : c.acquisition.isSome = true
  · rw [if_pos hrunning, if_pos hrunning]
    exact ⟨_, _, _, rfl, rfl, nofun⟩
  rw [if_neg hrunning, if_neg hrunning]
  simp only [hprepare, hbegun]
  rcases c.prepare (c.session.sampleRate.getD SampleRate.standard) with e | ⟨pool, commands⟩
  · exact ⟨_, _, _, rfl, rfl, nofun⟩
  · obtain ⟨⟨launched, d⟩, hlaunch⟩ := exists_launch_of_dwindles SimulatedDevice.backlog_next
      c.session.transport pool commands
    simp only [hlaunch, Option.map_some]
    rcases launched with e | pool'
    · exact ⟨_, _, _, rfl, rfl, nofun⟩
    · exact ⟨_, _, _, rfl, rfl, fun _ => rfl⟩

/-! ## The replica -/

/-- **A new controller** of the same model, over a new device with the same stream. -/
def replica (c : Controller SimulatedDevice Recording) : Controller SimulatedDevice Recording :=
  new (.new { model := c.session.transport.model, stream := c.session.transport.stream }
    c.session.model) {}

/-- **What configures it** like the controller, and brings its device up. -/
def configuration (c : Controller SimulatedDevice Recording) : List (Operation SimulatedDevice) :=
  [.setSampleRate (c.session.sampleRate.getD SampleRate.standard),
    .setSampleLimit c.session.sampleLimit, .setClockSource c.session.clockSource,
    .configureTriggers c.session.masks, .setTransferPool c.poolSize c.bufferSize, .openDevice]

/-- **The replica can be configured alike.**  It has the settings of the controller then, and a
device that has accepted the clock. -/
theorem performAll_configuration {c : Controller SimulatedDevice Recording}
    (hacceptable : c.session.Acceptable) (hactive : c.session.status = .active)
    (hpool : 0 < c.poolSize) (hidle : c.acquisition = none) :
    c.replica.performAll c.configuration =
      some (List.replicate 6 (.result (.ok ())),
        { c with
          session := { c.session with
            transport := {
              model := c.session.transport.model
              stream := c.session.transport.stream
              commands := [(Command.selectClock c.session.clockSource).frame] } }
          sink := {}
          lastTrailer := none }) := by
  obtain ⟨rate, hrate⟩ := Option.ne_none_iff_exists'.mp (hacceptable.chosen (by simp [hactive]))
  have hoffered : SampleRate.isOffered rate = true :=
    SampleRate.isOffered_iff.mpr (hacceptable.offered rate hrate)
  have hclock := hacceptable.clock
  have hchecked : c.session.masks.checked c.session.model.channelCount = .ok c.session.masks := by
    rw [TriggerMasks.checked, hacceptable.masks]
    rfl
  have hreads : max c.poolSize 1 = c.poolSize := Nat.max_eq_left hpool
  obtain ⟨⟨d, model, status, sampleRate, limit, clock, masks⟩, sink, acquisition, trailer, poolSize,
    bufferSize⟩ := c
  dsimp only at hrate hactive hidle hclock hchecked hreads
  subst hrate hactive hidle
  simp [replica, configuration, performAll, perform, onSession, new, Session.new,
    Session.setSampleRate, hoffered, Session.setSampleLimit, Session.setClockSource, hclock,
    Session.configureTriggers, Session.takeMasks, Session.unsettled?, hchecked, withTransferPool,
    hreads, Session.openDevice, Session.send, Transport.send, SimulatedDevice.send,
    SimulatedDevice.refusal?]

/-! ## Two captures -/

section

variable {τ σ : Type} [Transport τ] {c c' : Controller τ σ}

theorem poolSize_beginStop (c : Controller τ σ) (reason : EndReason) :
    (c.beginStop reason).poolSize = c.poolSize := by
  obtain ⟨-, heq⟩ | ⟨a, -, -, heq⟩ := beginStop_cases c reason
  · rw [heq]
  · rw [heq]

variable [Sink σ]

/-- A capture does not change how many reads the next one keeps out. -/
theorem persists_poolSize (size : Nat) :
    Persists fun c : Controller τ σ => c.poolSize = size where
  withTransport _ h := h
  beginStop reason h := (poolSize_beginStop _ reason).trans h
  handles := by
    intro c c₁ a event _ hhandles h
    cases hhandles with
    | parks why => exact h
    | fails stopping outcome asked => exact (poolSize_beginStop ..).trans h
    | concludes stopping outcome hreason => exact (poolSize_beginStop ..).trans h
    | resubmits stopping outcome hresubmit => exact h
    | refuses stopping outcome hresubmit => exact (poolSize_beginStop ..).trans h
  finishIfDrained := by
    intro c h
    obtain ⟨-, heq⟩ | ⟨a, -, -, -, heq⟩ := finishIfDrained_cases c
    · rwa [heq]
    · rw [heq]
      exact h

/-- There is at least one read in a pool. -/
theorem ReachableBy.poolSize_pos {initial : Session τ → Prop} {allowed : Operation τ → Prop}
    (h : c.ReachableBy initial allowed) : 0 < c.poolSize := by
  induction h with
  | new session sink h => exact Nat.zero_lt_succ _
  | @perform c c' op answer _ _ hop ih =>
    have hkept := persists_poolSize (τ := τ) (σ := σ) c.poolSize
    have hpos (heq : c'.poolSize = c.poolSize) : 0 < c'.poolSize := heq ▸ ih
    cases performs_of_perform hop with
    | tunes event tuned => exact ih
    | resizes poolSize bufferSize => exact Nat.lt_of_lt_of_le Nat.one_pos (Nat.le_max_right ..)
    | adjusts change => exact ih
    | starts hstart =>
      obtain ⟨e, transport, -, rfl⟩ | ⟨-, -, -, pool, commands, pool', transport, -, -, rfl⟩ :=
        start_cases hstart
      · exact ih
      · exact ih
    | requestsStop => exact hpos (hkept.requestStop rfl)
    | dispatches event => exact hpos (hkept.dispatch rfl event)
    | polls => exact hpos (hkept.poll rfl)

end

/-- **Captures are independent of their history.**  Whatever was done with a controller over a
simulated device, if it is active now without a capture, and no fault can strike any more, then a
new controller over a new device with the same stream can be brought to the same configuration.  A
start works with both or fails with both for the same reason.  If it works, then whatever is polled,
stopped and queued from there gives the same answers, and the same recording at every moment.  In
particular polling to the end comes to the same trailer and the same recording, or never does. -/
theorem capture_independent_of_history {c : Controller SimulatedDevice Recording}
    (h : c.ReachableBy (fun s => ∃ d model, d.pending = [] ∧ s = .new d model) Operation.Genuine)
    (hactive : c.session.status = .active) (hidle : c.acquisition = none)
    (hunfailing : c.session.transport.Unfailing) :
    ∃ fresh, c.replica.performAll c.configuration =
        some (List.replicate 6 (.result (.ok ())), fresh) ∧
      ∃ result c₁ fresh₁, c.start = some (result, c₁) ∧ fresh.start = some (result, fresh₁) ∧
        (result = .ok () →
          (∀ ops, (∀ op ∈ ops, op.Drives) → ∃ answers d d',
            c₁.performAll ops = some (answers, d) ∧ fresh₁.performAll ops = some (answers, d') ∧
            d.sink = d'.sink) ∧
          c₁.run.map (fun done => (done.1, done.2.sink)) =
            fresh₁.run.map fun done => (done.1, done.2.sink)) := by
  have hgenuine : c.Genuine := by
    apply h.mono
    rintro s ⟨d, model, hd, rfl⟩
    exact ⟨⟨.inl rfl, nofun⟩, hd⟩
  have hreached : c.ReachableBy Session.Reached Operation.Genuine := by
    apply h.mono
    rintro s ⟨d, model, -, rfl⟩
    exact .new d model
  have hconfigured :=
    performAll_configuration hreached.acceptable hactive h.poolSize_pos hidle
  refine ⟨_, hconfigured, ?_⟩
  let base : SimulatedDevice :=
    { model := c.session.transport.model, stream := c.session.transport.stream }
  let opened : SimulatedDevice :=
    { base with commands := [(Command.selectClock c.session.clockSource).frame] }
  obtain ⟨past, hpast⟩ := hunfailing.exists_past (hgenuine.attached.idle hidle)
  have hopened : opened.Unfailing := ⟨rfl, nofun, nofun, rfl⟩
  obtain ⟨past', hpast'⟩ := hopened.exists_past rfl
  have hold : c = (c.withTransport base).mapTransport (withPast past) := by
    show c = c.withTransport (withPast past base)
    rw [← hpast]
    rfl
  let emptied (d : SimulatedDevice) : Controller SimulatedDevice Recording :=
    { c.withTransport d with sink := {}, lastTrailer := none }
  have hnew : emptied opened = (emptied base).mapTransport (withPast past') := by
    show emptied opened = emptied (withPast past' base)
    rw [hpast']
  obtain ⟨result, c₁, c₁', hstart, hstart', hover⟩ := start_over (c.withTransport base) {} none
  refine ⟨result, c₁.mapTransport (withPast past), c₁'.mapTransport (withPast past'), ?_, ?_, ?_⟩
  · rw [hold, start_hom (SimulatedDevice.hom_withPast past), hstart]
    rfl
  · refine (congrArg start hnew).trans ?_
    rw [start_hom (SimulatedDevice.hom_withPast past'), hstart']
    rfl
  · intro hok
    obtain rfl := hover hok
    refine ⟨?_, ?_⟩
    · intro ops hdrive
      obtain ⟨answers, d, hrun⟩ := performAll_withPast hdrive c₁'
      exact ⟨answers, _, _, hrun past, hrun past', rfl⟩
    · rw [run_hom (SimulatedDevice.hom_withPast past), run_hom (SimulatedDevice.hom_withPast past'),
        Option.map_map, Option.map_map]
      rfl

/-- A controller whose last capture was aborted, by a failure that nobody has taken back, and whose
device was brought up again. -/
theorem capture_independent_of_history_of_abort :
    ∃ (answers : List Answer) (c fresh c₁ fresh₁ : Controller SimulatedDevice Recording),
      (new (.new { model := .lwla1016, stream := [1, 2, 3] } .lwla1016) {}).performAll
          [.openDevice, .setTransferPool 1 8, .adjust fun d => d.failCompletion 0 .stall, .start,
            .poll, .openDevice] = some (answers, c) ∧
      c.lastTrailer = some ⟨0, .aborted (.transfer .stall)⟩ ∧
      c.replica.performAll c.configuration =
        some (List.replicate 6 (.result (.ok ())), fresh) ∧
      c.start = some (.ok (), c₁) ∧ fresh.start = some (.ok (), fresh₁) ∧
      (∃ polled d d', c₁.performAll [.poll, .requestStop, .poll] = some (polled, d) ∧
        fresh₁.performAll [.poll, .requestStop, .poll] = some (polled, d') ∧ d.sink = d'.sink) ∧
      c₁.run.map (fun done => (done.1, done.2.sink)) =
        fresh₁.run.map fun done => (done.1, done.2.sink) := by
  obtain ⟨answers, c, c₁, hops, htrailer, hactive, hidle, hpassed, hfaults, hstart⟩ :
      ∃ (answers : List Answer) (c c₁ : Controller SimulatedDevice Recording),
        (new (.new { model := .lwla1016, stream := [1, 2, 3] } .lwla1016) {}).performAll
            [.openDevice, .setTransferPool 1 8, .adjust fun d => d.failCompletion 0 .stall, .start,
              .poll, .openDevice] = some (answers, c) ∧
        c.lastTrailer = some ⟨0, .aborted (.transfer .stall)⟩ ∧ c.session.status = .active ∧
        c.acquisition = none ∧ c.session.transport.completions = 1 ∧
        (c.session.transport.commandFailure, c.session.transport.completionFailure,
          c.session.transport.submissionFailure, c.session.transport.holdsCancellations) =
            (none, some (0, .stall), none, false) ∧
        c.start = some (.ok (), c₁) := ⟨_, _, _, rfl, rfl, rfl, rfl, rfl, rfl, rfl⟩
  simp only [Prod.mk.injEq] at hfaults
  obtain ⟨hcommand, hcompletion, hsubmission, hholds⟩ := hfaults
  have hunfailing : c.session.transport.Unfailing := by
    refine ⟨hcommand, ?_, ?_, hholds⟩
    · simp [hcompletion, hpassed]
    · simp [hsubmission]
  have hnew : (new (.new { model := .lwla1016, stream := [1, 2, 3] } .lwla1016) {} :
      Controller SimulatedDevice Recording).ReachableBy
        (fun s => ∃ d model, d.pending = [] ∧ s = .new d model) Operation.Genuine :=
    .new _ _ ⟨_, _, rfl, rfl⟩
  have hreached :=
    hnew.performAll (by simp [Operation.Genuine, SimulatedDevice.failCompletion]) hops
  obtain ⟨fresh, hfresh, result, d₁, fresh₁, hstarted, hfresh₁, hgoesOn⟩ :=
    capture_independent_of_history hreached hactive hidle hunfailing
  cases hstart.symm.trans hstarted
  obtain ⟨hdriven, hrun⟩ := hgoesOn rfl
  exact ⟨answers, c, fresh, c₁, fresh₁, hops, htrailer, hfresh, hstart, hfresh₁,
    hdriven _ (by simp [Operation.Drives]), hrun⟩

end Controller

end LogicAnalyzer
