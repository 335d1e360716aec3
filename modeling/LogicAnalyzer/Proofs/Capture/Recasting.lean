import LogicAnalyzer.Capture.Controller
import LogicAnalyzer.Proofs.Transfer.Calls

/-!
# Captures over another transport and with other settings

What a running capture does was decided when it started.  From then on it asks its transport for
reads, and looks at the status of the session alone.  So a capture goes on alike over a transport
that does the same with reads, and whatever the settings of the session have become.

## Main definitions

* `Settings`: what can be set of a session
* `Controller.recast f g`: a controller over another transport, with other settings

## Main results

* `Controller.exists_dispatch_recast`, `exists_poll_recast`: an event and a poll come to the same,
  up to the end of the capture
* `Controller.requestStop_recast`, `dispatch_recast`, `poll_recast`: and beyond, where the two
  transports agree on commands too
-/

namespace LogicAnalyzer

variable {τ τ' σ : Type}

/-- **What can be set of a session.** -/
structure Settings where
  sampleRate : Option UInt64
  sampleLimit : UInt64
  clockSource : ClockSource
  masks : TriggerMasks

namespace Session

/-- The settings of a session. -/
def settings (s : Session τ) : Settings where
  sampleRate := s.sampleRate
  sampleLimit := s.sampleLimit
  clockSource := s.clockSource
  masks := s.masks

/-- A session over another transport, with other settings. -/
def recast (f : τ → τ') (g : Settings → Settings) (s : Session τ) : Session τ' :=
  { s with
    transport := f s.transport
    sampleRate := (g s.settings).sampleRate
    sampleLimit := (g s.settings).sampleLimit
    clockSource := (g s.settings).clockSource
    masks := (g s.settings).masks }

variable {f : τ → τ'} {g : Settings → Settings}

theorem beginStop_recast (s : Session τ) :
    (s.recast f g).beginStop = s.beginStop.recast f g := by
  rcases s with ⟨transport, model, status, rate, limit, clock, masks⟩
  rcases status with _ | _ | _ | _ <;> rfl

theorem send_recast [Transport τ] [Transport τ'] (hf : Transport.Hom f) (s : Session τ)
    (frame : Frame) : (s.recast f g).send frame = (s.send frame).map id (recast f g) := by
  simp only [send, recast, hf.send]
  rfl

end Session

namespace Controller

/-- **A controller over another transport, with other settings.** -/
def recast (f : τ → τ') (g : Settings → Settings) (c : Controller τ σ) : Controller τ' σ :=
  { c with session := c.session.recast f g }

variable [Transport τ] [Transport τ'] {f : τ → τ'} {g : Settings → Settings}

/-! ## Reads -/

theorem beginStop_recast (hf : Transport.ReadHom f) (c : Controller τ σ) (reason : EndReason) :
    (c.recast f g).beginStop reason = (c.beginStop reason).recast f g := by
  rcases c with ⟨session, sink, _ | a, trailer, poolSize, bufferSize⟩
  · rfl
  · simp only [beginStop, recast]
    split
    · rfl
    · simp only [Session.recast]
      rw [TransferPool.cancelAll_hom hf]
      rcases a.pool.cancelAll session.transport with ⟨pool, transport⟩
      have hstop := Session.beginStop_recast (f := f) (g := g) { session with transport }
      simp only [Prod.map, id]
      exact congrArg (fun session => (⟨session, _, _, _, _, _⟩ : Controller τ' σ)) hstop

theorem abort_recast (hf : Transport.ReadHom f) (c : Controller τ σ) (reason : AbortReason) :
    (c.recast f g).abort reason = (c.abort reason).recast f g := by
  rcases c with ⟨session, sink, _ | a, trailer, poolSize, bufferSize⟩
  · rfl
  · simp only [abort, recast]
    split
    · rfl
    · exact beginStop_recast hf ⟨session, sink, _, trailer, poolSize, bufferSize⟩ _

variable [Sink σ]

theorem receive_recast (hf : Transport.ReadHom f) (c : Controller τ σ) (a : Acquisition)
    (delivery : ReadEvent) :
    (c.recast f g).receive a delivery = (c.receive a delivery).recast f g := by
  unfold receive
  rcases a.decoder.feed delivery.buffer.bytes with ⟨decoded, decoder⟩
  let fed : Controller τ σ := { c with
    sink := Sink.takeAll c.sink (deliveries a.channels (decoder.emitted - decoded.samples.length)
      decoded.samples decoded.triggers) }
  let parked : Controller τ σ :=
    { fed with acquisition := some (Acquisition.park { a with decoder } delivery) }
  simp only
  cases decoded.corruption with
  | some cause => exact abort_recast hf parked _
  | none =>
    simp only
    by_cases hlimit : decoded.limitReached = true
    · rw [if_pos hlimit, if_pos hlimit]
      exact beginStop_recast hf parked _
    rw [if_neg hlimit, if_neg hlimit]
    by_cases hdone : decoded.captureDone = true
    · rw [if_pos hdone, if_pos hdone]
      exact beginStop_recast hf parked _
    rw [if_neg hdone, if_neg hdone]
    have hresubmit := TransferPool.resubmit_hom hf a.pool c.session.transport delivery.slot
      delivery.buffer
    simp only [recast, Session.recast] at hresubmit ⊢
    rw [hresubmit]
    rcases a.pool.resubmit c.session.transport delivery.slot delivery.buffer with
      ⟨_ | _, pool, transport⟩
    · exact abort_recast hf
        { fed.withTransport transport with acquisition := some { a with pool, decoder } } _
    · rfl

/-- **What an event comes to** before it is looked whether the capture is over. -/
theorem exists_dispatch_recast (hf : Transport.ReadHom f) (g : Settings → Settings)
    (c : Controller τ σ) (event : ReadEvent) :
    ∃ c₁ : Controller τ σ, c.dispatch event = c₁.finishIfDrained ∧
      (c.recast f g).dispatch event = (c₁.recast f g).finishIfDrained := by
  rcases c with ⟨session, sink, _ | a, trailer, poolSize, bufferSize⟩
  · exact ⟨⟨session, sink, none, trailer, poolSize, bufferSize⟩, rfl, rfl⟩
  · simp only [dispatch, recast]
    rcases a.pool.accept event with ⟨_ | ⟨slot, buffer, _ | e | _⟩, pool⟩
    · exact ⟨⟨session, sink, some a, trailer, poolSize, bufferSize⟩, rfl, rfl⟩
    · dsimp only
      have hreceive := receive_recast (g := g) hf
        ⟨session, sink, some a, trailer, poolSize, bufferSize⟩ { a with pool }
        ⟨slot, buffer, .received⟩
      split
      · exact ⟨⟨session, sink, _, trailer, poolSize, bufferSize⟩, rfl, rfl⟩
      · exact ⟨_, rfl, congrArg finishIfDrained hreceive⟩
    · have habort := abort_recast (g := g) hf
        ⟨session, sink, some (Acquisition.park { a with pool } ⟨slot, buffer, .failed e⟩), trailer,
          poolSize, bufferSize⟩ (.transfer e)
      exact ⟨_, rfl, congrArg finishIfDrained habort⟩
    · exact ⟨⟨session, sink, _, trailer, poolSize, bufferSize⟩, rfl, rfl⟩

/-- **What a poll comes to** before it is looked whether the capture is over. -/
theorem exists_poll_recast (hf : Transport.ReadHom f) (g : Settings → Settings)
    (c : Controller τ σ) :
    ∃ c₁ : Controller τ σ, c.poll = c₁.finishIfDrained ∧
      (c.recast f g).poll = (c₁.recast f g).finishIfDrained := by
  rcases c with ⟨session, sink, _ | a, trailer, poolSize, bufferSize⟩
  · exact ⟨⟨session, sink, none, trailer, poolSize, bufferSize⟩, rfl, rfl⟩
  · have hnext := hf.next session.transport
    rcases heq : Transport.next session.transport with ⟨_ | event, transport⟩
    all_goals
      rw [heq] at hnext
      simp only [poll, recast, Session.recast, Option.isNone_some, Bool.false_eq_true, if_false,
        hnext, heq]
    · exact ⟨_, rfl, rfl⟩
    · exact exists_dispatch_recast hf g
        ⟨{ session with transport }, sink, some a, trailer, poolSize, bufferSize⟩ event

/-! ## The end -/

theorem finishIfDrained_recast (hf : Transport.Hom f) (c : Controller τ σ) :
    (c.recast f g).finishIfDrained = c.finishIfDrained.map id (recast f g) := by
  rcases c with ⟨session, sink, _ | a, trailer, poolSize, bufferSize⟩
  · rfl
  · simp only [finishIfDrained, recast]
    split
    · simp only [finish]
      rw [Session.send_recast hf]
      rfl
    · rfl

/-- **What a request to stop comes to**: it is refused alike, or begins the end alike. -/
theorem requestStop_recast_cases (hf : Transport.ReadHom f) (g : Settings → Settings)
    (c : Controller τ σ) :
    (∃ e, c.requestStop = (.error e, c) ∧ (c.recast f g).requestStop = (.error e, c.recast f g)) ∨
      ∃ c₁ : Controller τ σ, c.requestStop = (.ok (), c₁.finishIfDrained.2) ∧
        (c.recast f g).requestStop = (.ok (), (c₁.recast f g).finishIfDrained.2) := by
  have hstatus : (c.recast f g).session.status = c.session.status := rfl
  have hacquisition : (c.recast f g).acquisition = c.acquisition := rfl
  unfold requestStop
  rw [hstatus, hacquisition, beginStop_recast hf]
  by_cases hactive : c.session.status ≠ .active
  · rw [if_pos hactive, if_pos hactive]
    exact .inl ⟨_, rfl, rfl⟩
  rw [if_neg hactive, if_neg hactive]
  by_cases hidle : c.acquisition.isNone = true
  · rw [if_pos hidle, if_pos hidle]
    exact .inl ⟨_, rfl, rfl⟩
  rw [if_neg hidle, if_neg hidle]
  exact .inr ⟨_, rfl, rfl⟩

theorem requestStop_recast (hf : Transport.Hom f) (c : Controller τ σ) :
    (c.recast f g).requestStop = c.requestStop.map id (recast f g) := by
  obtain ⟨e, heq, heq'⟩ | ⟨c₁, heq, heq'⟩ := requestStop_recast_cases hf.toReadHom g c
  · rw [heq, heq']
    rfl
  · rw [heq, heq', finishIfDrained_recast hf]
    rfl

theorem dispatch_recast (hf : Transport.Hom f) (c : Controller τ σ) (event : ReadEvent) :
    (c.recast f g).dispatch event = (c.dispatch event).map id (recast f g) := by
  obtain ⟨c₁, heq, heq'⟩ := exists_dispatch_recast hf.toReadHom g c event
  rw [heq, heq', finishIfDrained_recast hf]

theorem poll_recast (hf : Transport.Hom f) (c : Controller τ σ) :
    (c.recast f g).poll = c.poll.map id (recast f g) := by
  obtain ⟨c₁, heq, heq'⟩ := exists_poll_recast hf.toReadHom g c
  rw [heq, heq', finishIfDrained_recast hf]

end Controller

end LogicAnalyzer
