import LogicAnalyzer.Proofs.Capture.Transitions

/-!
# What a capture keeps of its transport

Apart from taking its events, a capture asks three things of its transport: to take an emptied
buffer, to cancel all reads, and at the end to send a command.  A property that survives these
survives whatever becomes of the capture, and one that survives events too survives every poll.

## Main definitions

* `Transport.KeepsReads P`: what a capture asks for its reads keeps the property
* `Transport.Keeps P`: so does everything that it asks

## Main results

* `Transport.KeepsReads.exists_of_poll` and its like: it is kept up to the end of a capture
* `Transport.Keeps.finishIfDrained`, `requestStop`, `poll`: and beyond
-/

namespace LogicAnalyzer.Transport

/-- **What a capture asks for its reads keeps a property** of the transport.  The buffers that it
submits are empty. -/
structure KeepsReads {τ : Type} [Transport τ] (P : τ → Prop) : Prop where
  submit : ∀ t slot (buffer : Buffer), P t → P (Transport.submit t slot buffer.clear).2
  cancelAll : ∀ t, P t → P (Transport.cancelAll t)

/-- **What a capture asks of its transport keeps a property.** -/
structure Keeps {τ : Type} [Transport τ] (P : τ → Prop) : Prop extends KeepsReads P where
  send : ∀ t frame, P t → P (Transport.send t frame).2

open Controller

namespace KeepsReads

variable {τ σ : Type} [Transport τ] {P : τ → Prop} {c c₁ : Controller τ σ}

theorem beginStop (hP : KeepsReads P) (h : P c.session.transport) (reason : EndReason) :
    P (c.beginStop reason).session.transport := by
  obtain ⟨-, heq⟩ | ⟨a, -, -, heq⟩ := beginStop_cases c reason
  · rwa [heq]
  · rw [heq, Session.transport_beginStop]
    exact TransferPool.of_cancelAll hP.cancelAll a.pool h

variable [Sink σ]

/-- **Whatever becomes of a capture** whose read is back keeps it. -/
theorem handles {a : Acquisition} {event : ReadEvent} (hP : KeepsReads P)
    (hhandles : c.Handles a event c₁) (h : P c.session.transport) : P c₁.session.transport := by
  cases hhandles with
  | parks why => exact h
  | fails stopping outcome asked =>
    apply hP.beginStop
    exact h
  | concludes stopping outcome hreason =>
    apply hP.beginStop
    exact h
  | resubmits stopping outcome hresubmit => exact TransferPool.of_resubmit hP.submit hresubmit h
  | refuses stopping outcome hresubmit =>
    apply hP.beginStop
    exact TransferPool.of_resubmit hP.submit hresubmit h

/-- **It is kept up to the end of the capture** by an event. -/
theorem exists_of_dispatch (hP : KeepsReads P) (h : P c.session.transport) (event : ReadEvent) :
    ∃ c₁ : Controller τ σ, c.dispatch event = c₁.finishIfDrained ∧ P c₁.session.transport ∧
      (c₁.acquisition = none → c.acquisition = none) := by
  cases hc : c.acquisition with
  | none => exact ⟨c, by simp [dispatch, finishIfDrained, hc], h, fun _ => rfl⟩
  | some a =>
    obtain ⟨-, heq⟩ | ⟨-, c₁, hhandles, heq⟩ := dispatch_cases hc event
    · refine ⟨c, heq, h, ?_⟩
      intro hnone
      cases hc.symm.trans hnone
    · obtain ⟨b, hb⟩ := hhandles.exists_acquisition
      refine ⟨c₁, heq, hP.handles hhandles h, ?_⟩
      intro hnone
      cases hb.symm.trans hnone

/-- So it is by a poll, if events keep it. -/
theorem exists_of_poll (hP : KeepsReads P) (hnext : ∀ t, P t → P (Transport.next t).2)
    (h : P c.session.transport) :
    ∃ c₁ : Controller τ σ, c.poll = c₁.finishIfDrained ∧ P c₁.session.transport ∧
      (c₁.acquisition = none → c.acquisition = none) := by
  cases hc : c.acquisition with
  | none => exact ⟨c, by simp [poll, finishIfDrained, hc], h, fun _ => rfl⟩
  | some a =>
    have hmoved := hnext c.session.transport h
    obtain ⟨event, t, heq, hpoll⟩ | ⟨t, heq, hpoll⟩ := poll_cases hc
    all_goals rw [heq] at hmoved
    · obtain ⟨c₁, hdispatch, h₁, hrunning⟩ :=
        hP.exists_of_dispatch (c := c.withTransport t) hmoved event
      exact ⟨c₁, hpoll.trans hdispatch, h₁, fun hnone => hc.symm.trans (hrunning hnone)⟩
    · exact ⟨c.withTransport t, hpoll, hmoved, fun hnone => hc.symm.trans hnone⟩

/-- And by the request to stop. -/
theorem exists_of_requestStop (hP : KeepsReads P) (h : P c.session.transport) :
    ∃ c₁ : Controller τ σ, (c.requestStop.2 = c₁ ∨ c.requestStop.2 = c₁.finishIfDrained.2) ∧
      P c₁.session.transport ∧ (c₁.acquisition = none → c.acquisition = none) := by
  obtain heq | ⟨a, hc, -, heq⟩ := requestStop_cases c
  · exact ⟨c, .inl heq, h, id⟩
  · obtain ⟨b, hb⟩ := exists_acquisition_beginStop hc .stopped
    refine ⟨_, .inr heq, hP.beginStop h .stopped, ?_⟩
    intro hnone
    cases hb.symm.trans hnone

end KeepsReads

namespace Keeps

variable {τ σ : Type} [Transport τ] {P : τ → Prop} {c c₁ : Controller τ σ} [Sink σ]

theorem finishIfDrained (hP : Keeps P) (h : P c.session.transport) :
    P c.finishIfDrained.2.session.transport := by
  obtain ⟨-, heq⟩ | ⟨a, -, -, -, heq⟩ := finishIfDrained_cases c
  · rwa [heq]
  · rw [heq]
    exact hP.send c.session.transport Command.shutdown.frame h

theorem requestStop (hP : Keeps P) (h : P c.session.transport) :
    P c.requestStop.2.session.transport := by
  obtain ⟨c₁, heq | heq, h₁, -⟩ := hP.exists_of_requestStop h
  · rwa [heq]
  · rw [heq]
    exact hP.finishIfDrained h₁

/-- **Every poll keeps it**, if events do. -/
theorem poll (hP : Keeps P) (hnext : ∀ t, P t → P (Transport.next t).2)
    (h : P c.session.transport) : P c.poll.2.session.transport := by
  obtain ⟨c₁, heq, h₁, -⟩ := hP.exists_of_poll hnext h
  rw [heq]
  exact hP.finishIfDrained h₁

end Keeps

end LogicAnalyzer.Transport
