import LogicAnalyzer.Proofs.Capture.Runs
import LogicAnalyzer.Proofs.Device.Faults

/-!
# Captures on the simulated device

A controller over the simulated device is driven genuinely if every event it takes comes from the
device.  Then the pool of a running capture and the device agree on the reads that are out, and
without a capture the device has no read, whatever faults the device was told of.

## Main definitions

* `Operation.Genuine`: an operation that brings no event from elsewhere
* `Controller.Genuine`: the controllers that such operations lead to
* `Acquisition.InStep`: the device has the reads of a capture
* `Controller.Attached`: it has the reads of the capture that is running, and no others

## Main results

* `Controller.exists_start`, `exists_perform`: operations come back
* `Controller.Attached.poll_reports`, `Attached.perform`: what a poll does, and any operation
* `Controller.Genuine.attached`: that holds between any two operations
-/

namespace LogicAnalyzer

/-- An operation that brings no event from elsewhere, and does not touch the reads of the device
behind the controller's back. -/
def Operation.Genuine : Operation SimulatedDevice → Prop
  | .dispatch _ => False
  | .adjust change => ∀ d, (change d).pending = d.pending
  | _ => True

/-- **The device has the reads of a capture**, cancelled if and only if its end has begun. -/
structure Acquisition.InStep (a : Acquisition) (d : SimulatedDevice) : Prop where
  expects : a.pool.Expects d.pending
  cancelled : ∀ read ∈ d.pending, read.cancelled = a.stopping
  cancelRequested : a.pool.cancelRequested = a.stopping

namespace Controller

variable {σ : Type} {c c' c₁ : Controller SimulatedDevice σ} {a : Acquisition}

/-- A capture is running, and the device has its reads. -/
def Reading (c : Controller SimulatedDevice σ) : Prop :=
  ∃ a, c.acquisition = some a ∧ a.InStep c.session.transport

/-- **The device has the reads of the capture** that is running, and no others. -/
structure Attached (c : Controller SimulatedDevice σ) : Prop where
  idle : c.acquisition = none → c.session.transport.pending = []
  inStep : ∀ a, c.acquisition = some a → a.InStep c.session.transport

theorem Attached.of_idle (hc : c.acquisition = none) (h : c.session.transport.pending = []) :
    c.Attached := ⟨fun _ => h, by simp [hc]⟩

theorem Reading.attached (h : c.Reading) : c.Attached := by
  obtain ⟨a, hc, hinStep⟩ := h
  refine ⟨by simp [hc], ?_⟩
  intro b hb
  rwa [← Option.some.inj (hc.symm.trans hb)]

/-- The reads that the controller counts are those of the device. -/
theorem Attached.outstanding (h : c.Attached) :
    c.outstanding = c.session.transport.pending.length := by
  cases hc : c.acquisition with
  | none => simp [Controller.outstanding, hc, h.idle hc]
  | some a => simp [Controller.outstanding, hc, (h.inStep a hc).expects.outstanding]

/-! ## The end -/

/-- **The end begins**, unless it has begun, and the device is told. -/
theorem Reading.beginStop (h : c.Reading) (reason : EndReason) :
    (c.beginStop reason).Reading ∧ (c.beginStop reason).isStopping = true := by
  obtain ⟨a, hc, hinStep⟩ := h
  cases hstopping : a.stopping with
  | true =>
    rw [beginStop_of_stopping hc hstopping, isStopping, hc]
    exact ⟨⟨a, hc, hinStep⟩, hstopping⟩
  | false =>
    have hcancel := hinStep.cancelRequested.trans hstopping
    obtain ⟨hexpects, hcancelled, -⟩ := hinStep.expects.cancelAll hcancel
    rw [beginStop_of_streams hc hstopping]
    refine ⟨⟨_, rfl, ?_, ?_, TransferPool.cancelRequested_cancelAll _⟩, rfl⟩
    · rw [Session.transport_beginStop]
      exact hexpects
    · rw [Session.transport_beginStop]
      exact hcancelled

variable [Sink σ]

theorem Reading.finishIfDrained (h : c.Reading) : c.finishIfDrained.2.Attached := by
  obtain ⟨-, heq⟩ | ⟨a, hc, -, hdrained, heq⟩ := finishIfDrained_cases c
  · rw [heq]
    exact h.attached
  · have hinStep := h.attached.inStep a hc
    have hempty : c.session.transport.pending = [] :=
      List.eq_nil_of_length_eq_zero (hinStep.expects.outstanding.symm.trans hdrained)
    rw [heq]
    refine .of_idle rfl ?_
    exact (SimulatedDevice.send_keeps c.session.transport Command.shutdown.frame).1.trans hempty

/-! ## The report of a read -/

/-- **A report that the device has given** is handled: its read is gone, unless its buffer is
submitted again. -/
theorem Handles.reading {event : ReadEvent} (h : c.Handles a event c₁) {read : PendingRead}
    (hexpects : a.pool.Expects (read :: c.session.transport.pending))
    (hslot : event.slot = read.slot)
    (hcancelled : ∀ read ∈ c.session.transport.pending, read.cancelled = a.stopping)
    (hrequested : a.pool.cancelRequested = a.stopping) : c₁.Reading := by
  have hsettled : (a.pool.settle event).Expects c.session.transport.pending ∧
      (a.pool.settle event).cancelRequested = a.stopping :=
    ⟨hexpects.settle hslot, (TransferPool.cancelRequested_settle ..).trans hrequested⟩
  have hresubmitted {buffer : Buffer} {result : Except TransferError Unit} {pool : TransferPool}
      {transport : SimulatedDevice} (hstopping : a.stopping = false)
      (hresubmit : (a.pool.accept event).2.resubmit c.session.transport event.slot buffer =
        (result, pool, transport)) :
      pool.Expects transport.pending ∧ (∀ read ∈ transport.pending, read.cancelled = a.stopping) ∧
        pool.cancelRequested = a.stopping := by
    obtain ⟨hfresh, -⟩ := List.nodup_cons.mp hexpects.nodup
    obtain ⟨p, hp, hcancel, hlt, haccept⟩ := hexpects.accept event hslot
    rw [haccept, hslot] at hresubmit
    have hkept := TransferPool.cancelRequested_resubmit (p := p) c.session.transport read.slot buffer
    rw [hresubmit] at hkept
    have hidle : p.slots[read.slot]? ≠ some .inFlight := mt (hp.inFlight read.slot).mp hfresh
    have hsubmit : p.submit c.session.transport read.slot buffer = (result, pool, transport) := by
      rwa [TransferPool.resubmit, if_neg (by simp [hcancel, hrequested, hstopping])] at hresubmit
    obtain ⟨hpool, hreads⟩ := hp.submit_device hidle hlt hsubmit
    refine ⟨hpool, ?_, hkept.trans (hcancel.trans hrequested)⟩
    intro other hmem
    rcases hreads other hmem with hold | hnew
    · exact hcancelled other hold
    · exact hnew.trans hstopping.symm
  cases h with
  | parks why => exact ⟨_, rfl, hsettled.1, hcancelled, hsettled.2⟩
  | fails stopping outcome asked =>
    refine (Reading.beginStop ?_ _).1
    exact ⟨_, rfl, hsettled.1, hcancelled, hsettled.2⟩
  | concludes stopping outcome hreason =>
    refine (Reading.beginStop ?_ _).1
    exact ⟨_, rfl, hsettled.1, hcancelled, hsettled.2⟩
  | resubmits stopping outcome hresubmit =>
    obtain ⟨hpool, hreads, hkept⟩ := hresubmitted stopping hresubmit
    exact ⟨_, rfl, hpool, hreads, hkept⟩
  | refuses stopping outcome hresubmit =>
    obtain ⟨hpool, hreads, hkept⟩ := hresubmitted stopping hresubmit
    refine (Reading.beginStop ?_ _).1
    exact ⟨_, rfl, hpool, hreads, hkept⟩

/-! ## The start -/

section

variable {d d' : SimulatedDevice} {pool pool' : TransferPool} {frames : List Frame}
  {size bufferSize : Nat}

theorem pending_sendEach (frames : List Frame) (d : SimulatedDevice) :
    (sendEach d frames).2.pending = d.pending := by
  induction frames generalizing d with
  | nil => rfl
  | cons frame rest ih =>
    have hsent := (SimulatedDevice.send_keeps d frame).1
    rw [sendEach]
    simp only [Transport.send]
    rcases hsend : d.send frame with ⟨e | _, d₁⟩
    · rw [hsend] at hsent
      exact hsent
    · rw [hsend] at hsent
      exact (ih d₁).trans hsent

/-- The submissions of a new pool to a device without a read. -/
theorem expects_submitAll {result : Except TransferError Nat} (hpending : d.pending = [])
    (hallocate : TransferPool.allocate size bufferSize = .ok pool)
    (hsubmit : pool.submitAll d = (result, pool', d')) :
    pool'.Expects d'.pending ∧ ∀ read ∈ d'.pending, read.cancelled = false := by
  have hparked := TransferPool.not_inFlight_of_allocate hallocate
  have hnew : pool.Expects d.pending := by
    rw [hpending]
    refine ⟨List.nodup_nil, ?_, ?_⟩
    · intro slot
      simp [hparked slot]
    · rw [TransferPool.allocate_eq_ok hallocate]
      rfl
  rw [TransferPool.submitAll, TransferPool.cancelRequested_of_allocate hallocate] at hsubmit
  obtain ⟨hexpects, hreads⟩ :=
    hnew.submitEach List.nodup_range (fun slot _ => hparked slot) hsubmit
  refine ⟨hexpects, ?_⟩
  intro read hread
  rcases hreads read hread with hold | hnew
  · rw [hpending] at hold
    cases hold
  · exact hnew

/-- **A launch** leaves a device that had no read with none if it fails, and else with the reads of
the pool. -/
theorem launch_cases {result : Except TransferError TransferPool} (hpending : d.pending = [])
    (hallocate : TransferPool.allocate size bufferSize = .ok pool)
    (h : launch d pool frames = some (result, d')) :
    (∃ e, result = .error e ∧ d'.pending = []) ∨
      ∃ pool', result = .ok pool' ∧ pool'.Expects d'.pending ∧
        ∀ read ∈ d'.pending, read.cancelled = false := by
  have hsent := pending_sendEach frames d
  rw [hpending] at hsent
  unfold launch at h
  split at h
  · rename_i e d₁ hsend
    cases h
    rw [hsend] at hsent
    exact .inl ⟨e, rfl, hsent⟩
  · rename_i d₁ hsend
    rw [hsend] at hsent
    split at h
    · rename_i count pool₁ d₂ hsubmit
      cases h
      exact .inr ⟨_, rfl, expects_submitAll hsent hallocate hsubmit⟩
    · rename_i e pool₁ d₂ hsubmit
      obtain ⟨⟨pool₂, d₃⟩, habandon, heq⟩ := Option.map_eq_some_iff.mp h
      cases heq
      have hexpects := (expects_submitAll hsent hallocate hsubmit).1
      have hcancel := TransferPool.cancelRequested_submitAll (p := pool) d₁
      rw [hsubmit, TransferPool.cancelRequested_of_allocate hallocate] at hcancel
      exact .inl ⟨e, rfl, TransferPool.pending_of_abandon hexpects hcancel habandon⟩

end

/-! ## Operations -/

omit [Sink σ] in
/-- **An event of the device** is the report of the oldest read of the capture.  It confirms a
cancellation if and only if the end has begun. -/
theorem Attached.report {event : ReadEvent} {d : SimulatedDevice} (h : c.Attached)
    (hc : c.acquisition = some a) (hnext : Transport.next c.session.transport = (some event, d)) :
    ∃ read, c.session.transport.pending = read :: d.pending ∧ event.slot = read.slot ∧
      (event.outcome = .cancelled ↔ a.stopping = true) ∧
      a.pool.slots[event.slot]? = some .inFlight := by
  have hinStep := h.inStep a hc
  obtain ⟨read, rest, hpending, rfl, -, hslot, hcancelled⟩ := SimulatedDevice.next_some hnext
  have hmem : read ∈ c.session.transport.pending := hpending ▸ List.mem_cons_self ..
  refine ⟨read, hpending, hslot, ?_, ?_⟩
  · rwa [hinStep.cancelled read hmem] at hcancelled
  · rw [hinStep.expects.inFlight, hslot]
    exact List.mem_map_of_mem hmem

/-- **What a poll does** on the simulated device: the pool accepts the report of the oldest read, or
there is none and the device stays as it is. -/
theorem Attached.poll_reports (h : c.Attached) (hc : c.acquisition = some a) :
    (∃ event read d c₁, Transport.next c.session.transport = (some event, d) ∧
        c.session.transport.pending = read :: d.pending ∧ event.slot = read.slot ∧
        (event.outcome = .cancelled ↔ a.stopping = true) ∧
        a.pool.slots[event.slot]? = some .inFlight ∧
        (c.withTransport d).Handles a event c₁ ∧ c.poll = c₁.finishIfDrained) ∨
      Transport.next c.session.transport = (none, c.session.transport) ∧
        c.poll = c.finishIfDrained := by
  obtain ⟨event, d, hnext, heq⟩ | ⟨d, hnext, heq⟩ := poll_cases hc
  · obtain ⟨read, hpending, hslot, hcancelled, hinFlight⟩ := h.report hc hnext
    obtain ⟨hnone, -⟩ | ⟨-, c₁, hhandles, hdispatch⟩ :=
      dispatch_cases (c := c.withTransport d) hc event
    · exact absurd hinFlight hnone
    · exact .inl ⟨event, read, d, c₁, hnext, hpending, hslot, hcancelled, hinFlight, hhandles,
        heq.trans hdispatch⟩
  · cases SimulatedDevice.next_none hnext
    exact .inr ⟨hnext, heq⟩

theorem Attached.poll (h : c.Attached) : c.poll.2.Attached := by
  cases hc : c.acquisition with
  | none =>
    rw [poll_of_idle hc]
    exact h
  | some a =>
    have hinStep := h.inStep a hc
    obtain ⟨event, read, d, c₁, -, hpending, hslot, -, -, hhandles, heq⟩ | ⟨-, heq⟩ :=
      h.poll_reports hc
    · obtain ⟨hexpects, hcancelled, hrequested⟩ := hinStep
      rw [hpending] at hexpects hcancelled
      rw [heq]
      apply Reading.finishIfDrained
      refine hhandles.reading hexpects hslot ?_ hrequested
      intro other hmem
      exact hcancelled other (List.mem_cons_of_mem _ hmem)
    · rw [heq]
      exact Reading.finishIfDrained ⟨a, hc, hinStep⟩

theorem Attached.requestStop (h : c.Attached) : c.requestStop.2.Attached := by
  obtain heq | ⟨a, hc, -, heq⟩ := requestStop_cases c
  · rwa [heq]
  · have hreading : c.Reading := ⟨a, hc, h.inStep a hc⟩
    rw [heq]
    exact (hreading.beginStop .stopped).1.finishIfDrained

/-- A start that fails leaves the device without a read, and one that works leaves it with those of
the capture. -/
theorem Attached.start {result : Except Failure Unit} (h : c.Attached)
    (hstart : c.start = some (result, c')) : c'.Attached := by
  cases hc : c.acquisition with
  | some a =>
    obtain ⟨e, hrefused⟩ := start_of_acquiring hc
    cases hrefused.symm.trans hstart
    exact h
  | none =>
    cases result with
    | error e =>
      obtain rfl | ⟨pool, commands, e', d, hprepare, hlaunch, rfl⟩ := start_error_cases hstart
      · exact h
      · obtain ⟨hallocate, -⟩ := prepare_eq_ok.mp hprepare
        obtain ⟨-, -, hempty⟩ | ⟨pool', hno, -⟩ := launch_cases (h.idle hc) hallocate hlaunch
        · exact .of_idle hc hempty
        · cases hno
    | ok =>
      obtain ⟨e, d, hno, -⟩ | ⟨-, -, -, pool, commands, pool', d, hprepare, hlaunch, rfl⟩ :=
        start_cases hstart
      · cases hno
      · obtain ⟨hallocate, -⟩ := prepare_eq_ok.mp hprepare
        have hcancel := TransferPool.cancelRequested_of_allocate hallocate
        obtain ⟨e, hno, -⟩ | ⟨launched, heq, hexpects, hfresh⟩ :=
          launch_cases (h.idle hc) hallocate hlaunch
        · cases hno
        · cases heq
          apply Reading.attached
          exact ⟨_, rfl, hexpects, hfresh, (cancelRequested_of_launch hlaunch).trans hcancel⟩

/-- **A start on a simulated device comes back**, whatever its faults: every event leaves less to
stream or fewer reads to report. -/
theorem exists_start (c : Controller SimulatedDevice σ) : ∃ result, c.start = some result :=
  exists_start_of_dwindles SimulatedDevice.backlog_next c

/-- So does any other operation. -/
theorem exists_perform (c : Controller SimulatedDevice σ) (op : Operation SimulatedDevice) :
    ∃ answer c', c.perform op = some (answer, c') := by
  cases op with
  | start =>
    obtain ⟨⟨result, c'⟩, hstart⟩ := exists_start c
    exact ⟨.result result, c', by rw [perform, hstart]; rfl⟩
  | _ => exact ⟨_, _, rfl⟩

theorem exists_performAll (c : Controller SimulatedDevice σ)
    (ops : List (Operation SimulatedDevice)) :
    ∃ answers c', c.performAll ops = some (answers, c') := by
  induction ops generalizing c with
  | nil => exact ⟨[], c, rfl⟩
  | cons op rest ih =>
    obtain ⟨answer, c₁, hop⟩ := exists_perform c op
    obtain ⟨answers, c', hrest⟩ := ih c₁
    refine ⟨answer :: answers, c', ?_⟩
    exact performAll_cons_eq_some.mpr ⟨answer, c₁, answers, hop, hrest, rfl⟩

/-- **One genuine operation** keeps the device and the capture together. -/
theorem Attached.perform {op : Operation SimulatedDevice} {answer : Answer} (h : c.Attached)
    (hclock : c.session.clockSource ≠ .none) (hgenuine : op.Genuine)
    (hop : c.perform op = some (answer, c')) : c'.Attached := by
  have hkept {session : Session SimulatedDevice}
      (heq : session.transport.pending = c.session.transport.pending) :
      Attached { c with session } := by
    refine ⟨fun hc => heq.trans (h.idle hc), ?_⟩
    intro a ha
    obtain ⟨hexpects, hcancelled, hrequested⟩ := h.inStep a ha
    exact ⟨heq ▸ hexpects, heq ▸ hcancelled, hrequested⟩
  cases performs_of_perform hop with
  | tunes event tuned =>
    obtain heq | ⟨source, -, heq⟩ := tuned.told hclock
    · exact hkept (congrArg SimulatedDevice.pending heq)
    · have hsent := (SimulatedDevice.send_keeps c.session.transport
        (Command.selectClock source).frame).1
      exact hkept ((congrArg SimulatedDevice.pending heq).trans hsent)
  | resizes poolSize bufferSize => exact ⟨h.idle, h.inStep⟩
  | adjusts change => exact hkept (hgenuine c.session.transport)
  | starts hstart => exact h.start hstart
  | requestsStop => exact h.requestStop
  | dispatches event => cases hgenuine
  | polls => exact h.poll

/-- **The controllers that genuine operations lead to**, from devices without a read on. -/
def Genuine (c : Controller SimulatedDevice σ) : Prop :=
  c.ReachableBy (fun s => s.AtRest ∧ s.transport.pending = []) Operation.Genuine

/-- A fresh controller on a device without a read. -/
theorem genuine_new {d : SimulatedDevice} (hd : d.pending = []) (model : Model) (sink : σ) :
    (new (.new d model) sink).Genuine := .new _ _ ⟨⟨.inl rfl, nofun⟩, hd⟩

theorem Genuine.lifecycle (h : c.Genuine) : c.Lifecycle :=
  (h.reachable fun _ hsession => hsession.1.settled).lifecycle

theorem Genuine.clockSource_ne_none (h : c.Genuine) : c.session.clockSource ≠ .none :=
  h.clock fun _ hsession => hsession.1

/-- **Between any two genuine operations** the device has the reads of the capture that is running,
and no others. -/
theorem Genuine.attached (h : c.Genuine) : c.Attached := by
  induction h with
  | new session sink hsession => exact .of_idle rfl hsession.2
  | perform h hgenuine hop ih =>
    exact ih.perform (Genuine.clockSource_ne_none h) hgenuine hop

end Controller

end LogicAnalyzer
