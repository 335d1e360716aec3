import LogicAnalyzer.Capture.Controller
import LogicAnalyzer.Proofs.Transfer.Pools

/-!
# What the steps of a capture do

One law for every step and every kind of state it is taken in: how the end of a capture begins,
when it is complete, what a start does, and what the bytes of a read lead to.  What is proved of
captures is proved from these.

## Main definitions

* `Decoded.reason`: the reason to end the capture that a chunk gives
* `Acquisition.delivers`: what is delivered of a chunk
* `Controller.Handles`: what becomes of a capture when a read is back

## Main results

* `Controller.beginStop_cases`, `finishIfDrained_cases`, `requestStop_cases`: how a capture ends
* `Controller.start_cases`, `start_error_cases`: what a start does
* `Controller.exists_start_of_dwindles`: it comes back if the events run out
* `Controller.receive_of_reason`, `receive_of_resubmit`, `receive_of_refusal`: what the bytes of
  a read lead to
* `Controller.dispatch_cases`, `poll_cases`: what an event does, and what a poll does
* `Controller.Persists.dispatch`, `poll`, `requestStop`: properties that reads keep
* `Controller.persists_session`: among them properties of the session
* `Controller.dispatch_of_stopping`: what an event does once the end has begun
-/

namespace LogicAnalyzer

/-- **The reason to end the capture** that a chunk gives.  Corruption counts before the limit, and
the limit before the notice of the device. -/
def Decoded.reason (out : Decoded) : Option EndReason :=
  match out.corruption with
  | some cause => some (.aborted (.corruption cause))
  | none =>
    if out.limitReached then some .limitReached
    else if out.captureDone then some .deviceDone
    else none

theorem Decoded.reason_eq_none {out : Decoded} :
    out.reason = none ↔
      out.corruption = none ∧ out.limitReached = false ∧ out.captureDone = false := by
  unfold Decoded.reason
  split
  · simp_all
  · rename_i hgood
    cases out.limitReached <;> cases out.captureDone <;> simp [hgood]

/-- Whether something failed. -/
def EndReason.isAborted : EndReason → Bool
  | .aborted _ => true
  | _ => false

/-- **What is delivered of a chunk.** -/
def Acquisition.delivers (a : Acquisition) (chunk : List UInt8) : List StreamEvent :=
  deliveries a.channels
    ((a.decoder.feed chunk).2.emitted - (a.decoder.feed chunk).1.samples.length)
    (a.decoder.feed chunk).1.samples (a.decoder.feed chunk).1.triggers

@[simp]
theorem Session.transport_beginStop {τ : Type} (s : Session τ) :
    s.beginStop.transport = s.transport := by
  unfold beginStop
  split <;> rfl

namespace Controller

variable {τ σ : Type} {c c' : Controller τ σ} {a : Acquisition}

/-! ## Before a start -/

/-- **What is prepared**: a pool, and the two commands, which do not depend on the pool. -/
theorem prepare_eq_ok {rate : UInt64} {pool : TransferPool} {commands : List Frame} :
    c.prepare rate = .ok (pool, commands) ↔
      TransferPool.allocate c.poolSize c.bufferSize = .ok pool ∧
        ∃ configure arm,
          Command.encode c.session.model.channelCount (.configureTriggers c.session.masks) =
            .ok configure ∧
          Command.encode c.session.model.channelCount (.arm rate c.session.sampleLimit) = .ok arm ∧
          commands = [configure, arm] := by
  unfold prepare
  dsimp only
  cases TransferPool.allocate c.poolSize c.bufferSize with
  | error e =>
    constructor
    · intro h
      cases h
    · rintro ⟨h, -⟩
      cases h
  | ok allocated =>
    cases Command.encode c.session.model.channelCount (.configureTriggers c.session.masks) with
    | error e =>
      constructor
      · intro h
        cases h
      · rintro ⟨-, configure, arm, h, -⟩
        cases h
    | ok configure =>
      cases Command.encode c.session.model.channelCount (.arm rate c.session.sampleLimit) with
      | error e =>
        constructor
        · intro h
          cases h
        · rintro ⟨-, configure', arm, -, h, -⟩
          cases h
      | ok arm =>
        constructor
        · intro h
          cases h
          exact ⟨rfl, configure, arm, rfl, rfl, rfl⟩
        · rintro ⟨hallocate, configure', arm', hconfigure, harm, rfl⟩
          cases hallocate
          cases hconfigure
          cases harm
          rfl

/-! ## The end begins -/

variable [Transport τ]

/-- An end that has begun does not begin again. -/
theorem beginStop_of_stopping (hc : c.acquisition = some a) (hstopping : a.stopping = true)
    (reason : EndReason) : c.beginStop reason = c := by
  simp [beginStop, hc, hstopping]

theorem beginStop_of_streams (hc : c.acquisition = some a) (hstopping : a.stopping = false)
    (reason : EndReason) :
    c.beginStop reason =
      { c with
        session :=
          { c.session with transport := (a.pool.cancelAll c.session.transport).2 }.beginStop
        acquisition := some { a with
          pool := (a.pool.cancelAll c.session.transport).1
          stopping := true
          ending := some reason } } := by
  simp [beginStop, hc, hstopping]

/-- **How the end begins**: not at all, if it has begun or no capture is running, and else with all
reads cancelled. -/
theorem beginStop_cases (c : Controller τ σ) (reason : EndReason) :
    (∀ a, c.acquisition = some a → a.stopping = true) ∧ c.beginStop reason = c ∨
      ∃ a, c.acquisition = some a ∧ a.stopping = false ∧ c.beginStop reason =
        { c with
          session :=
            { c.session with transport := (a.pool.cancelAll c.session.transport).2 }.beginStop
          acquisition := some { a with
            pool := (a.pool.cancelAll c.session.transport).1
            stopping := true
            ending := some reason } } := by
  cases hc : c.acquisition with
  | none => exact .inl ⟨nofun, by simp [beginStop, hc]⟩
  | some a =>
    cases hstopping : a.stopping with
    | true =>
      refine .inl ⟨?_, beginStop_of_stopping hc hstopping reason⟩
      intro b hb
      cases hb
      exact hstopping
    | false => exact .inr ⟨a, rfl, hstopping, beginStop_of_streams hc hstopping reason⟩

/-- A capture whose end begins is still running. -/
theorem exists_acquisition_beginStop (hc : c.acquisition = some a) (reason : EndReason) :
    ∃ b, (c.beginStop reason).acquisition = some b := by
  obtain ⟨-, heq⟩ | ⟨b, -, -, heq⟩ := beginStop_cases c reason
  · exact ⟨a, by rw [heq, hc]⟩
  · exact ⟨_, by rw [heq]⟩

/-- The first failure of a capture whose end has not begun is a reason to end. -/
theorem abort_of_streams (hc : c.acquisition = some a) (hstopping : a.stopping = false)
    (hfailed : a.failed = false) (reason : AbortReason) :
    c.abort reason =
      { c with acquisition := some { a with failed := true } }.beginStop (.aborted reason) := by
  simp [abort, hc, hstopping, hfailed]

/-- A failure of a capture whose end has begun changes nothing. -/
theorem abort_of_stopping (hc : c.acquisition = some a) (hstopping : a.stopping = true)
    (reason : AbortReason) : c.abort reason = c := by
  simp [abort, hc, hstopping]

variable [Sink σ]

/-! ## The end is complete -/

theorem finishIfDrained_of_waiting (hc : c.acquisition = some a)
    (h : a.stopping = false ∨ 0 < a.pool.outstanding) :
    c.finishIfDrained = (.running, c) := by
  have hnot : ¬(a.stopping && a.pool.isDrained) = true := by
    rcases h with h | h
    · simp [h]
    · simp [TransferPool.isDrained, Nat.ne_of_gt h]
  simp only [finishIfDrained, hc, if_neg hnot]

theorem finishIfDrained_of_drained (hc : c.acquisition = some a) (hstopping : a.stopping = true)
    (h : a.pool.outstanding = 0) :
    c.finishIfDrained = (.finished (c.finish a).1, (c.finish a).2) := by
  have hdrained : (a.stopping && a.pool.isDrained) = true := by
    simp [hstopping, TransferPool.isDrained, h]
  simp only [finishIfDrained, hc, if_pos hdrained]

/-- **Looking whether the capture is over** ends it once its end has begun and no read is out, and
else does nothing. -/
theorem finishIfDrained_cases (c : Controller τ σ) :
    (∀ a, c.acquisition = some a → a.stopping = false ∨ 0 < a.pool.outstanding) ∧
        c.finishIfDrained.2 = c ∨
      ∃ a, c.acquisition = some a ∧ a.stopping = true ∧ a.pool.outstanding = 0 ∧
        c.finishIfDrained = (.finished (c.finish a).1, (c.finish a).2) := by
  cases hc : c.acquisition with
  | none => exact .inl ⟨nofun, by simp [finishIfDrained, hc]⟩
  | some a =>
    by_cases hover : a.stopping = true ∧ a.pool.outstanding = 0
    · exact .inr ⟨a, rfl, hover.1, hover.2, finishIfDrained_of_drained hc hover.1 hover.2⟩
    · have hwaiting : a.stopping = false ∨ 0 < a.pool.outstanding := by
        rcases Bool.eq_false_or_eq_true a.stopping with hstopping | hstopping
        · exact .inr (Nat.pos_of_ne_zero fun hdrained => hover ⟨hstopping, hdrained⟩)
        · exact .inl hstopping
      refine .inl ⟨?_, by rw [finishIfDrained_of_waiting hc hwaiting]⟩
      intro b hb
      cases hb
      exact hwaiting

/-- **What a request to stop does**: nothing, unless a capture is running on an active session. -/
theorem requestStop_cases (c : Controller τ σ) :
    c.requestStop.2 = c ∨ ∃ a, c.acquisition = some a ∧ c.session.status = .active ∧
      c.requestStop.2 = (c.beginStop .stopped).finishIfDrained.2 := by
  unfold requestStop
  split
  · exact .inl rfl
  · rename_i hactive
    split
    · exact .inl rfl
    · rename_i hrunning
      obtain ⟨a, hc⟩ := Option.ne_none_iff_exists'.mp (by simpa using hrunning)
      exact .inr ⟨a, hc, Decidable.not_not.mp hactive, rfl⟩

/-! ## The start -/

/-- **A launch that works** has sent all commands and submitted all buffers. -/
theorem exists_of_launch_ok {t t' : τ} {pool pool' : TransferPool} {commands : List Frame}
    (h : launch t pool commands = some (.ok pool', t')) :
    ∃ t₁ count, sendEach t commands = (.ok (), t₁) ∧
      pool.submitAll t₁ = (.ok count, pool', t') := by
  unfold launch at h
  split at h
  · cases h
  · rename_i t₁ hsend
    split at h
    · rename_i count pool₁ t₂ hsubmit
      cases h
      exact ⟨t₁, count, hsend, hsubmit⟩
    · obtain ⟨_, -, heq⟩ := Option.map_eq_some_iff.mp h
      cases heq

theorem cancelRequested_of_launch {t t' : τ} {pool pool' : TransferPool} {commands : List Frame}
    (h : launch t pool commands = some (.ok pool', t')) :
    pool'.cancelRequested = pool.cancelRequested := by
  obtain ⟨t₁, count, -, hsubmit⟩ := exists_of_launch_ok h
  have hkept := TransferPool.cancelRequested_submitAll (p := pool) t₁
  rwa [hsubmit] at hkept

/-- **What a start does.**  If it fails the transport alone has changed; else the session was
active, no capture was running, and the device is told and all reads are submitted. -/
theorem start_cases {result : Except Failure Unit} (h : c.start = some (result, c')) :
    (∃ e transport, result = .error e ∧ c' = c.withTransport transport) ∨
      (result = .ok () ∧ c.session.status = .active ∧ c.acquisition = none ∧
        ∃ pool commands pool' transport,
          c.prepare (c.session.sampleRate.getD SampleRate.standard) = .ok (pool, commands) ∧
          launch c.session.transport pool commands = some (.ok pool', transport) ∧
          c' = c.begun (c.session.sampleRate.getD SampleRate.standard) pool' transport) := by
  unfold start at h
  split at h
  · cases h
    exact .inl ⟨_, c.session.transport, rfl, rfl⟩
  · rename_i hactive
    split at h
    · cases h
      exact .inl ⟨_, c.session.transport, rfl, rfl⟩
    · rename_i hidle
      dsimp only at h
      split at h
      · cases h
        exact .inl ⟨_, c.session.transport, rfl, rfl⟩
      · rename_i pool commands hprepare
        obtain ⟨⟨launched, transport⟩, hlaunch, heq⟩ := Option.map_eq_some_iff.mp h
        cases launched with
        | error e =>
          cases heq
          exact .inl ⟨_, transport, rfl, rfl⟩
        | ok pool' =>
          cases heq
          refine .inr ⟨rfl, Decidable.not_not.mp hactive, by simpa using hidle, ?_⟩
          exact ⟨pool, commands, pool', transport, hprepare, hlaunch, rfl⟩

/-- What a start does that fails: nothing, or what the launch did that failed. -/
theorem start_error_cases {e : Failure} (h : c.start = some (.error e, c')) :
    c' = c ∨ ∃ pool commands e' transport,
      c.prepare (c.session.sampleRate.getD SampleRate.standard) = .ok (pool, commands) ∧
      launch c.session.transport pool commands = some (.error e', transport) ∧
      c' = c.withTransport transport := by
  unfold start at h
  split at h
  · cases h
    exact .inl rfl
  · split at h
    · cases h
      exact .inl rfl
    · dsimp only at h
      split at h
      · cases h
        exact .inl rfl
      · rename_i pool commands hprepare
        obtain ⟨⟨launched, transport⟩, hlaunch, heq⟩ := Option.map_eq_some_iff.mp h
        cases launched with
        | error e' =>
          cases heq
          exact .inr ⟨pool, commands, e', transport, hprepare, hlaunch, rfl⟩
        | ok pool' => cases heq

/-- While a capture is running none can be started. -/
theorem start_of_acquiring (hc : c.acquisition = some a) : ∃ e, c.start = some (.error e, c) := by
  unfold start
  split
  · exact ⟨_, rfl⟩
  · rw [if_pos (by simp [hc])]
    exact ⟨_, rfl⟩

omit [Sink σ] in
/-- A transport whose events run out lets every launch come back. -/
theorem exists_launch_of_dwindles {backlog : τ → Nat} (h : Transport.Dwindles backlog) (t : τ)
    (pool : TransferPool) (commands : List Frame) :
    ∃ result, launch t pool commands = some result := by
  unfold launch
  split
  · exact ⟨_, rfl⟩
  · split
    · exact ⟨_, rfl⟩
    · rename_i pool' t' _
      obtain ⟨abandoned, habandoned⟩ := TransferPool.exists_abandon h pool' t'
      exact ⟨_, by rw [habandoned]; rfl⟩

/-- So it lets every start. -/
theorem exists_start_of_dwindles {backlog : τ → Nat} (h : Transport.Dwindles backlog)
    (c : Controller τ σ) : ∃ result, c.start = some result := by
  unfold start
  split
  · exact ⟨_, rfl⟩
  · split
    · exact ⟨_, rfl⟩
    · dsimp only
      split
      · exact ⟨_, rfl⟩
      · rename_i pool commands _
        obtain ⟨launched, hlaunched⟩ :=
          exists_launch_of_dwindles h c.session.transport pool commands
        exact ⟨_, by rw [hlaunched]; rfl⟩

/-! ## The bytes of a read -/

variable {delivery : ReadEvent} {pool : TransferPool} {transport : τ}

/-- **Bytes that give no reason to end** are delivered, and the buffer is submitted again. -/
theorem receive_of_resubmit
    (hreason : (a.decoder.feed delivery.buffer.bytes).1.reason = none)
    (hresubmit : a.pool.resubmit c.session.transport delivery.slot delivery.buffer =
      (.ok (), pool, transport)) :
    c.receive a delivery =
      { c.withTransport transport with
        sink := Sink.takeAll c.sink (a.delivers delivery.buffer.bytes)
        acquisition := some
          { a with pool, decoder := (a.decoder.feed delivery.buffer.bytes).2 } } := by
  obtain ⟨hgood, hlimit, hdone⟩ := Decoded.reason_eq_none.mp hreason
  simp only [receive, hgood, hlimit, hdone, Bool.false_eq_true, if_false, hresubmit]
  rfl

/-- If the transport refuses the buffer, that is a reason. -/
theorem receive_of_refusal {e : TransferError}
    (hreason : (a.decoder.feed delivery.buffer.bytes).1.reason = none)
    (hresubmit : a.pool.resubmit c.session.transport delivery.slot delivery.buffer =
      (.error e, pool, transport)) :
    c.receive a delivery =
      { c.withTransport transport with
        sink := Sink.takeAll c.sink (a.delivers delivery.buffer.bytes)
        acquisition := some
          { a with pool, decoder := (a.decoder.feed delivery.buffer.bytes).2 } }.abort
        (.transfer e) := by
  obtain ⟨hgood, hlimit, hdone⟩ := Decoded.reason_eq_none.mp hreason
  simp only [receive, hgood, hlimit, hdone, Bool.false_eq_true, if_false, hresubmit]
  rfl

/-- **Bytes that give a reason to end** are delivered, the buffer is parked, and the end begins. -/
theorem receive_of_reason {reason : EndReason} (hstopping : a.stopping = false)
    (hfailed : a.failed = false)
    (hreason : (a.decoder.feed delivery.buffer.bytes).1.reason = some reason) :
    ∃ (parked : Controller τ σ) (b : Acquisition),
      c.receive a delivery = parked.beginStop reason ∧
      parked.acquisition = some b ∧ parked.session = c.session ∧
      parked.sink = Sink.takeAll c.sink (a.delivers delivery.buffer.bytes) ∧
      b.pool = a.pool.park delivery.slot delivery.buffer ∧
      b.decoder = (a.decoder.feed delivery.buffer.bytes).2 ∧ b.stopping = false ∧
      ((∃ cause, reason = .aborted cause) ↔ b.failed = true) := by
  have hfirst : ¬(a.failed || a.stopping) = true := by simp [hfailed, hstopping]
  cases hcorruption : (a.decoder.feed delivery.buffer.bytes).1.corruption with
  | some cause =>
    simp only [Decoded.reason, hcorruption, Option.some.injEq] at hreason
    subst hreason
    simp only [receive, hcorruption, abort, Acquisition.park]
    exact ⟨_, _, if_neg hfirst, rfl, rfl, rfl, rfl, rfl, hstopping, by simp⟩
  | none =>
    by_cases hlimit : (a.decoder.feed delivery.buffer.bytes).1.limitReached = true
    · simp only [Decoded.reason, hcorruption, if_pos hlimit, Option.some.injEq] at hreason
      subst hreason
      simp only [receive, hcorruption, if_pos hlimit]
      exact ⟨_, _, rfl, rfl, rfl, rfl, rfl, rfl, hstopping, by simp [Acquisition.park, hfailed]⟩
    · by_cases hdone : (a.decoder.feed delivery.buffer.bytes).1.captureDone = true
      · simp only [Decoded.reason, hcorruption, if_neg hlimit, if_pos hdone,
          Option.some.injEq] at hreason
        subst hreason
        simp only [receive, hcorruption, if_neg hlimit, if_pos hdone]
        exact ⟨_, _, rfl, rfl, rfl, rfl, rfl, rfl, hstopping, by simp [Acquisition.park, hfailed]⟩
      · simp [Decoded.reason, hcorruption, hlimit, hdone] at hreason

/-! ## Without a capture -/

theorem requestStop_of_idle (hc : c.acquisition = none) : c.requestStop.2 = c := by
  obtain heq | ⟨a, ha, -⟩ := requestStop_cases c
  · exact heq
  · cases hc.symm.trans ha

theorem dispatch_of_idle (hc : c.acquisition = none) (event : ReadEvent) :
    c.dispatch event = (.idle, c) := by
  simp only [dispatch, hc]

theorem poll_of_idle (hc : c.acquisition = none) : c.poll = (.idle, c) := by
  have hnone : c.acquisition.isNone = true := by rw [hc]; rfl
  rw [poll, if_pos hnone]

/-! ## One event -/

/-- **What becomes of a capture** whose pool accepts the report of a read. -/
inductive Handles (c : Controller τ σ) (a : Acquisition) (event : ReadEvent) :
    Controller τ σ → Prop
  /-- The buffer is parked: the read was cancelled, or the end has begun. -/
  | parks (why : event.outcome = .cancelled ∨ event.outcome = .failed .cancelled ∨
        a.stopping = true ∨ a.failed = true) :
      Handles c a event { c with acquisition := some { a with pool := a.pool.settle event } }
  | fails {e : TransferError} (stopping : a.stopping = false)
      (outcome : event.outcome = .failed e) (asked : e ≠ .cancelled) :
      Handles c a event
        ({ c with
          acquisition := some
            { a with
              pool := a.pool.settle event
              failed := true } }.beginStop (.aborted (.transfer e)))
  /-- The bytes give a reason to end. -/
  | concludes {reason : EndReason} (stopping : a.stopping = false)
      (outcome : event.outcome = .received)
      (hreason : (a.decoder.feed event.buffer.bytes).1.reason = some reason) :
      Handles c a event
        ({ c with
          sink := Sink.takeAll c.sink (a.delivers event.buffer.bytes)
          acquisition := some
            { a with
              pool := a.pool.settle event
              decoder := (a.decoder.feed event.buffer.bytes).2
              failed := reason.isAborted } }.beginStop reason)
  /-- They give none, and the buffer is submitted again. -/
  | resubmits {pool : TransferPool} {transport : τ} (stopping : a.stopping = false)
      (outcome : event.outcome = .received)
      (hresubmit : (a.pool.accept event).2.resubmit c.session.transport event.slot event.buffer =
        (.ok (), pool, transport))
      (clean : (a.decoder.feed event.buffer.bytes).1.reason = none) :
      Handles c a event
        { c.withTransport transport with
          sink := Sink.takeAll c.sink (a.delivers event.buffer.bytes)
          acquisition := some { a with pool, decoder := (a.decoder.feed event.buffer.bytes).2 } }
  /-- They give none, but the transport refuses the buffer. -/
  | refuses {e : TransferError} {pool : TransferPool} {transport : τ}
      (stopping : a.stopping = false) (outcome : event.outcome = .received)
      (hresubmit : (a.pool.accept event).2.resubmit c.session.transport event.slot event.buffer =
        (.error e, pool, transport))
      (clean : (a.decoder.feed event.buffer.bytes).1.reason = none) :
      Handles c a event
        ({ c.withTransport transport with
          sink := Sink.takeAll c.sink (a.delivers event.buffer.bytes)
          acquisition := some
            { a with
              pool
              decoder := (a.decoder.feed event.buffer.bytes).2
              failed := true } }.beginStop (.aborted (.transfer e)))

/-- **Once the end has begun** all that happens is that the buffer is parked. -/
theorem Handles.eq_of_stopping {event : ReadEvent} (h : c.Handles a event c')
    (hstopping : a.stopping = true) :
    c' = { c with acquisition := some { a with pool := a.pool.settle event } } := by
  cases h with
  | parks why => rfl
  | fails stopping outcome asked => cases hstopping.symm.trans stopping
  | concludes stopping outcome hreason => cases hstopping.symm.trans stopping
  | resubmits stopping outcome hresubmit => cases hstopping.symm.trans stopping
  | refuses stopping outcome hresubmit => cases hstopping.symm.trans stopping

/-- A capture whose read is back is still running. -/
theorem Handles.exists_acquisition {event : ReadEvent} (h : c.Handles a event c') :
    ∃ b, c'.acquisition = some b := by
  cases h with
  | parks why => exact ⟨_, rfl⟩
  | fails stopping outcome asked => exact exists_acquisition_beginStop rfl _
  | concludes stopping outcome hreason => exact exists_acquisition_beginStop rfl _
  | resubmits stopping outcome hresubmit => exact ⟨_, rfl⟩
  | refuses stopping outcome hresubmit => exact exists_acquisition_beginStop rfl _

theorem handles_receive (hstopping : a.stopping = false) (hfailed : a.failed = false)
    {event : ReadEvent} (hslot : a.pool.slots[event.slot]? = some .inFlight)
    (houtcome : event.outcome = .received) :
    c.Handles a event (c.receive { a with pool := (a.pool.accept event).2 } event) := by
  have hpool := (TransferPool.settle_of_inFlight hslot).symm
  cases hreason : (a.decoder.feed event.buffer.bytes).1.reason with
  | some reason =>
    have hconcludes := Handles.concludes (c := c) hstopping houtcome hreason
    cases hcorruption : (a.decoder.feed event.buffer.bytes).1.corruption with
    | some cause =>
      simp only [Decoded.reason, hcorruption, Option.some.injEq] at hreason
      subst hreason
      simp only [receive, hcorruption, Acquisition.park, hpool]
      rw [abort_of_streams rfl (by exact hstopping) (by exact hfailed)]
      exact hconcludes
    | none =>
      simp only [receive, hcorruption, Acquisition.park, hpool]
      simp only [Decoded.reason, hcorruption] at hreason
      split at hreason
      · rename_i hlimit
        cases hreason
        rw [show EndReason.limitReached.isAborted = a.failed from hfailed.symm] at hconcludes
        rw [if_pos hlimit]
        exact hconcludes
      · rename_i hlimit
        split at hreason
        · rename_i hdone
          cases hreason
          rw [show EndReason.deviceDone.isAborted = a.failed from hfailed.symm] at hconcludes
          rw [if_neg hlimit, if_pos hdone]
          exact hconcludes
        · cases hreason
  | none =>
    rcases hresubmit : (a.pool.accept event).2.resubmit c.session.transport event.slot event.buffer
      with ⟨result, pool, transport⟩
    cases result with
    | ok =>
      rw [receive_of_resubmit (a := { a with pool := (a.pool.accept event).2 }) hreason hresubmit]
      exact .resubmits hstopping houtcome hresubmit hreason
    | error e =>
      rw [receive_of_refusal (a := { a with pool := (a.pool.accept event).2 }) hreason hresubmit]
      rw [abort_of_streams rfl (by exact hstopping) (by exact hfailed)]
      exact .refuses hstopping houtcome hresubmit hreason

/-- **What an event does**: nothing, unless it is the report of a read of the capture.  Either way
the capture ends if its end has begun and no read is out. -/
theorem dispatch_cases (hc : c.acquisition = some a) (event : ReadEvent) :
    (a.pool.slots[event.slot]? ≠ some .inFlight ∧ c.dispatch event = c.finishIfDrained) ∨
      a.pool.slots[event.slot]? = some .inFlight ∧
        ∃ c₁, c.Handles a event c₁ ∧ c.dispatch event = c₁.finishIfDrained := by
  by_cases hslot : a.pool.slots[event.slot]? = some .inFlight
  · refine .inr ⟨hslot, ?_⟩
    have hsettle := TransferPool.settle_of_inFlight hslot
    have haccept := TransferPool.accept_of_inFlight hslot
    cases houtcome : event.outcome with
    | cancelled =>
      refine ⟨_, .parks (.inl houtcome), ?_⟩
      simp only [dispatch, hc, haccept, houtcome, Acquisition.park, hsettle, reduceCtorEq, if_false]
    | failed e =>
      by_cases hasked : e = .cancelled
      · subst hasked
        refine ⟨_, .parks (.inr (.inl houtcome)), ?_⟩
        simp only [dispatch, hc, haccept, houtcome, Acquisition.park, hsettle, if_true]
      · have hne : ¬ReadOutcome.failed e = .failed .cancelled := by simpa using hasked
        cases hbegun : a.failed || a.stopping with
        | true =>
          refine ⟨_, .parks (.inr (.inr ?_)), ?_⟩
          · rw [Bool.or_eq_true] at hbegun
            exact hbegun.symm
          · simp only [dispatch, hc, haccept, houtcome, Acquisition.park, hsettle, if_neg hne, abort,
              hbegun, if_true]
        | false =>
          rw [Bool.or_eq_false_iff] at hbegun
          refine ⟨_, .fails hbegun.2 houtcome hasked, ?_⟩
          simp only [dispatch, hc, haccept, houtcome, Acquisition.park, hsettle, if_neg hne, abort,
            hbegun, Bool.or_self, Bool.false_eq_true, if_false]
    | received =>
      have hfresh : { event with outcome := .received } = event := by rw [← houtcome]
      cases hbegun : a.stopping || a.failed with
      | true =>
        refine ⟨_, .parks (.inr (.inr ?_)), ?_⟩
        · exact Bool.or_eq_true_iff.mp hbegun
        · simp only [dispatch, hc, haccept, houtcome, Acquisition.park, hsettle, reduceCtorEq,
            if_false, hbegun, if_true]
      | false =>
        obtain ⟨hstopping, hfailed⟩ := Bool.or_eq_false_iff.mp hbegun
        refine ⟨_, handles_receive hstopping hfailed hslot houtcome, ?_⟩
        simp only [dispatch, hc, haccept, houtcome, reduceCtorEq, if_false, hbegun,
          Bool.false_eq_true, hfresh]
  · refine .inl ⟨hslot, ?_⟩
    simp only [dispatch, hc, TransferPool.accept_of_not_inFlight hslot]

/-- What a poll does: it takes the next event, and without one looks whether the capture is over. -/
theorem poll_cases (hc : c.acquisition = some a) :
    (∃ event transport, Transport.next c.session.transport = (some event, transport) ∧
        c.poll = (c.withTransport transport).dispatch event) ∨
      ∃ transport, Transport.next c.session.transport = (none, transport) ∧
        c.poll = (c.withTransport transport).finishIfDrained := by
  have hrunning : ¬c.acquisition.isNone = true := by simp [hc]
  rw [poll, if_neg hrunning]
  rcases Transport.next c.session.transport with ⟨_ | event, transport⟩
  · exact .inr ⟨transport, rfl, rfl⟩
  · exact .inl ⟨event, transport, rfl, rfl⟩

/-- What an event does to a capture whose end has begun: a read that is back is parked. -/
theorem dispatch_of_stopping (hc : c.acquisition = some a) (hstopping : a.stopping = true)
    (event : ReadEvent) :
    ∃ pool : TransferPool, pool.cancelRequested = a.pool.cancelRequested ∧
      c.dispatch event = { c with acquisition := some { a with pool } }.finishIfDrained := by
  simp only [dispatch, hc]
  split
  · refine ⟨a.pool, rfl, ?_⟩
    rw [← hc]
  · rename_i delivery pool haccept
    have hpool := TransferPool.cancelRequested_of_accept haccept
    refine ⟨pool.park delivery.slot delivery.buffer, hpool, ?_⟩
    split
    · rfl
    · rw [abort_of_stopping (a := { a with pool }.park delivery) rfl hstopping]
      rfl
    · rw [if_pos (by simp [hstopping])]
      rfl

/-! ## What reads leave as it is -/

/-- **A property that reads keep**: whatever becomes of the transport, of a capture whose report is
accepted, and when its end begins or is complete. -/
structure Persists (P : Controller τ σ → Prop) : Prop where
  withTransport : ∀ {c : Controller τ σ} (transport : τ), P c → P (c.withTransport transport)
  handles : ∀ {c c₁ : Controller τ σ} {a : Acquisition} {event : ReadEvent},
    c.acquisition = some a → c.Handles a event c₁ → P c → P c₁
  beginStop : ∀ {c : Controller τ σ} (reason : EndReason), P c → P (c.beginStop reason)
  finishIfDrained : ∀ {c : Controller τ σ}, P c → P c.finishIfDrained.2

variable {P : Controller τ σ → Prop}

theorem Persists.dispatch (hP : Persists P) (h : P c) (event : ReadEvent) :
    P (c.dispatch event).2 := by
  cases hc : c.acquisition with
  | none =>
    rw [dispatch_of_idle hc event]
    exact h
  | some a =>
    obtain ⟨-, heq⟩ | ⟨-, c₁, hhandles, heq⟩ := dispatch_cases hc event
    · rw [heq]
      exact hP.finishIfDrained h
    · rw [heq]
      exact hP.finishIfDrained (hP.handles hc hhandles h)

theorem Persists.poll (hP : Persists P) (h : P c) : P c.poll.2 := by
  cases hc : c.acquisition with
  | none =>
    rw [poll_of_idle hc]
    exact h
  | some a =>
    obtain ⟨event, transport, -, heq⟩ | ⟨transport, -, heq⟩ := poll_cases hc
    · rw [heq]
      exact hP.dispatch (hP.withTransport transport h) event
    · rw [heq]
      exact hP.finishIfDrained (hP.withTransport transport h)

theorem Persists.requestStop (hP : Persists P) (h : P c) : P c.requestStop.2 := by
  obtain heq | ⟨a, -, -, heq⟩ := requestStop_cases c
  · rwa [heq]
  · rw [heq]
    exact hP.finishIfDrained (hP.beginStop .stopped h)

/-- **A property of the session** is kept if it survives changes of the transport and of the status
as a capture makes them. -/
theorem persists_session {Q : Session τ → Prop}
    (withTransport : ∀ {s : Session τ} (transport : τ), Q s → Q { s with transport })
    (beginStop : ∀ {s : Session τ}, Q s → Q s.beginStop)
    (finishStop : ∀ {s : Session τ}, Q s → Q s.finishStop) :
    Persists fun c : Controller τ σ => Q c.session := by
  have hbegin (c : Controller τ σ) (reason : EndReason) (h : Q c.session) :
      Q (c.beginStop reason).session := by
    obtain ⟨-, heq⟩ | ⟨a, -, -, heq⟩ := beginStop_cases c reason
    · rwa [heq]
    · rw [heq]
      exact beginStop (withTransport _ h)
  refine ⟨fun transport h => withTransport transport h, ?_, fun reason h => hbegin _ reason h, ?_⟩
  · intro c c₁ a event _ hhandles h
    cases hhandles with
    | parks why => exact h
    | fails stopping outcome asked => exact hbegin { c with acquisition := _ } _ h
    | concludes stopping outcome hreason => exact hbegin { c with sink := _, acquisition := _ } _ h
    | resubmits stopping outcome hresubmit => exact withTransport _ h
    | refuses stopping outcome hresubmit =>
      exact hbegin { c.withTransport _ with sink := _, acquisition := _ } _ (withTransport _ h)
  · intro c h
    obtain ⟨-, heq⟩ | ⟨a, -, -, -, heq⟩ := finishIfDrained_cases c
    · rwa [heq]
    · rw [heq]
      exact finishStop (withTransport _ h)

end Controller

end LogicAnalyzer
