import LogicAnalyzer.Device.Simulated
import LogicAnalyzer.Proofs.Capture.Operations
import LogicAnalyzer.Proofs.Capture.Transitions

/-!
# The life of a capture

Where a capture is in its life shows in many places: the status of the session, two flags and a
reason in the capture, the pool's request to stop, its count of reads.  Whatever the transport
answers and whatever events are dispatched, these agree between any two operations, and a
capture whose end has begun ends for the reason with which that began.

Half way through an operation a stopping capture may have all its reads back without having
ended.  Everything else holds there too, and is called consistent.

## Main definitions

* `Acquisition.Streams`, `Acquisition.Drains`: a capture before and after its end begins
* `Controller.Consistent`: what holds at every moment
* `Controller.Lifecycle`: what holds between two operations
* `Controller.Ending`: the trailer of a stopping capture is settled

## Main results

* `Controller.perform_lifecycle`: one operation keeps the invariant
* `Controller.perform_ending`: one operation keeps the trailer of a stopping capture, or delivers it
* `Controller.lifecycle_of_reachable`: the invariant, and the trailer over any run
-/

namespace LogicAnalyzer

/-! ## A capture and its status -/

namespace Acquisition

/-- The end of the capture has not begun. -/
structure Streams (a : Acquisition) (status : Status) : Prop where
  stopping : a.stopping = false
  status : status = .active
  cancelRequested : a.pool.cancelRequested = false
  ending : a.ending = none
  failed : a.failed = false

/-- The end of the capture has begun. -/
structure Drains (a : Acquisition) (status : Status) : Prop where
  stopping : a.stopping = true
  status : status = .stopping
  cancelRequested : a.pool.cancelRequested = true
  /-- There is a reason, and it is a failure if and only if something has failed. -/
  ending : ∃ reason, a.ending = some reason ∧ ((∃ cause, reason = .aborted cause) ↔ a.failed = true)

end Acquisition

namespace Controller

variable {τ σ : Type} {c c' : Controller τ σ} {a : Acquisition}

/-- What holds at every moment. -/
structure Consistent (c : Controller τ σ) : Prop where
  not_initializing : c.session.status ≠ .initializing
  idle : c.acquisition = none → c.session.status = .inactive ∨ c.session.status = .active
  streams : ∀ a, c.acquisition = some a → a.stopping = false → a.Streams c.session.status
  drains : ∀ a, c.acquisition = some a → a.stopping = true → a.Drains c.session.status

/-- **What holds between two operations**: everything that holds at every moment, and a capture
whose end has begun is still waiting for a read. -/
structure Lifecycle (c : Controller τ σ) : Prop extends Consistent c where
  waits : ∀ a, c.acquisition = some a → a.stopping = true → 0 < a.pool.outstanding

theorem Consistent.of_idle (hc : c.acquisition = none)
    (h : c.session.status = .inactive ∨ c.session.status = .active) : c.Consistent where
  not_initializing := by rcases h with h | h <;> simp [h]
  idle _ := h
  streams a ha := by simp [hc] at ha
  drains a ha := by simp [hc] at ha

theorem Consistent.of_streams (hc : c.acquisition = some a) (h : a.Streams c.session.status) :
    c.Consistent where
  not_initializing := by simp [h.status]
  idle hnone := by simp [hc] at hnone
  streams b hb _ := by rwa [Option.some.inj (hb.symm.trans hc)]
  drains b hb hb' := by simp [Option.some.inj (hb.symm.trans hc), h.stopping] at hb'

theorem Consistent.of_drains (hc : c.acquisition = some a) (h : a.Drains c.session.status) :
    c.Consistent where
  not_initializing := by simp [h.status]
  idle hnone := by simp [hc] at hnone
  streams b hb hb' := by simp [Option.some.inj (hb.symm.trans hc), h.stopping] at hb'
  drains b hb _ := by rwa [Option.some.inj (hb.symm.trans hc)]

theorem Lifecycle.of_idle (hc : c.acquisition = none)
    (h : c.session.status = .inactive ∨ c.session.status = .active) : c.Lifecycle where
  toConsistent := .of_idle hc h
  waits a ha := by simp [hc] at ha

theorem Lifecycle.of_streams (hc : c.acquisition = some a) (h : a.Streams c.session.status) :
    c.Lifecycle where
  toConsistent := .of_streams hc h
  waits b hb hb' := by simp [Option.some.inj (hb.symm.trans hc), h.stopping] at hb'

/-- The invariant is about the status and the capture only. -/
theorem Lifecycle.congr (h : c.Lifecycle) (hstatus : c'.session.status = c.session.status)
    (hacquisition : c'.acquisition = c.acquisition) : c'.Lifecycle where
  not_initializing := hstatus ▸ h.not_initializing
  idle := by rw [hstatus, hacquisition]; exact h.idle
  streams := by rw [hstatus, hacquisition]; exact h.streams
  drains := by rw [hstatus, hacquisition]; exact h.drains
  waits := by rw [hacquisition]; exact h.waits

theorem Unnoticed.lifecycle (h : c.Lifecycle) (hc' : c.Unnoticed c') : c'.Lifecycle := by
  rcases hc'.status with hsame | ⟨hinactive, hactive⟩
  · exact h.congr hsame hc'.acquisition
  · have hidle : c.acquisition = none := by
      apply Option.eq_none_iff_forall_ne_some.mpr
      intro a ha
      cases hstopping : a.stopping with
      | false => simp [(h.streams a ha hstopping).status] at hinactive
      | true => simp [(h.drains a ha hstopping).status] at hinactive
    exact .of_idle (hc'.acquisition.trans hidle) (.inr hactive)

/-! ## The end begins -/

section

variable [Transport τ]

/-- A capture on an active session begins to end for a reason that tells whether it failed. -/
theorem consistent_beginStop (hc : c.acquisition = some a) (hstopping : a.stopping = false)
    (hactive : c.session.status = .active) {reason : EndReason}
    (hreason : (∃ cause, reason = .aborted cause) ↔ a.failed = true) :
    (c.beginStop reason).Consistent := by
  rw [beginStop_of_streams hc hstopping]
  refine .of_drains rfl ⟨rfl, ?_, TransferPool.cancelRequested_cancelAll _, reason, rfl, hreason⟩
  simp [Session.beginStop, hactive]

theorem consistent_abort (hc : c.acquisition = some a) (h : a.Streams c.session.status)
    (reason : AbortReason) : (c.abort reason).Consistent := by
  have hfirst : ¬(a.failed || a.stopping) = true := by simp [h.failed, h.stopping]
  simp only [abort, hc, if_neg hfirst]
  have hreason : (∃ cause, EndReason.aborted reason = .aborted cause) ↔ true = true :=
    ⟨fun _ => rfl, fun _ => ⟨reason, rfl⟩⟩
  exact consistent_beginStop (c := { c with acquisition := some { a with failed := true } })
    rfl h.stopping h.status hreason

end

variable [Transport τ] [Sink σ]

/-! ## The end is complete -/

/-- Looking whether the capture is over restores what holds between operations. -/
theorem Consistent.lifecycle_finishIfDrained (h : c.Consistent) :
    c.finishIfDrained.2.Lifecycle := by
  obtain ⟨hwaiting, heq⟩ | ⟨a, -, -, -, heq⟩ := finishIfDrained_cases c
  · rw [heq]
    refine ⟨h, ?_⟩
    intro a hc hstopping
    apply (hwaiting a hc).resolve_left
    simp [hstopping]
  · rw [heq]
    exact .of_idle rfl (.inl rfl)

/-! ## One event -/

/-- The bytes of a read are received by a capture whose end has not begun. -/
theorem consistent_receive (h : a.Streams c.session.status) (delivery : ReadEvent) :
    (c.receive a delivery).Consistent := by
  cases hreason : (a.decoder.feed delivery.buffer.bytes).1.reason with
  | some reason =>
    obtain ⟨parked, b, hreceive, hb, hsession, -, -, -, hstopping, hfailed⟩ :=
      receive_of_reason (c := c) h.stopping h.failed hreason
    rw [hreceive]
    exact consistent_beginStop hb hstopping (hsession ▸ h.status) hfailed
  | none =>
    have hpool := TransferPool.cancelRequested_resubmit (p := a.pool) c.session.transport
      delivery.slot delivery.buffer
    rw [h.cancelRequested] at hpool
    rcases hresubmit : a.pool.resubmit c.session.transport delivery.slot delivery.buffer with
      ⟨result, pool, transport⟩
    rw [hresubmit] at hpool
    cases result with
    | ok =>
      rw [receive_of_resubmit hreason hresubmit]
      exact .of_streams rfl ⟨h.stopping, h.status, hpool, h.ending, h.failed⟩
    | error e =>
      rw [receive_of_refusal hreason hresubmit]
      apply consistent_abort
      · rfl
      · exact ⟨h.stopping, h.status, hpool, h.ending, h.failed⟩

theorem lifecycle_dispatch (h : c.Lifecycle) (event : ReadEvent) :
    (c.dispatch event).2.Lifecycle := by
  cases hc : c.acquisition with
  | none =>
    simp only [dispatch, hc]
    exact h
  | some a =>
    cases hstopping : a.stopping with
    | true =>
      obtain ⟨pool, hpool, heq⟩ := dispatch_of_stopping hc hstopping event
      have hdrains := h.drains a hc hstopping
      rw [heq]
      refine Consistent.lifecycle_finishIfDrained (.of_drains rfl ?_)
      exact ⟨hstopping, hdrains.status, hpool.trans hdrains.cancelRequested, hdrains.ending⟩
    | false =>
      have hstreams := h.streams a hc hstopping
      simp only [dispatch, hc]
      split
      · exact h.toConsistent.lifecycle_finishIfDrained
      · rename_i delivery pool haccept
        have haccepted := TransferPool.cancelRequested_of_accept haccept
        have hpool := haccepted.trans hstreams.cancelRequested
        have htaken : Acquisition.Streams { a with pool } c.session.status :=
          ⟨hstopping, hstreams.status, hpool, hstreams.ending, hstreams.failed⟩
        have hparked : Acquisition.Streams ({ a with pool }.park delivery) c.session.status :=
          ⟨hstopping, hstreams.status, hpool, hstreams.ending, hstreams.failed⟩
        apply Consistent.lifecycle_finishIfDrained
        split
        · exact .of_streams rfl hparked
        · apply consistent_abort
          · rfl
          · exact hparked
        · rw [if_neg (by simp [hstopping, hstreams.failed])]
          exact consistent_receive htaken delivery

theorem lifecycle_poll (h : c.Lifecycle) : c.poll.2.Lifecycle := by
  have hmoved (transport : τ) : (c.withTransport transport).Lifecycle := h.congr rfl rfl
  unfold poll
  split
  · exact h
  · split
    · exact lifecycle_dispatch (hmoved _) _
    · exact (hmoved _).toConsistent.lifecycle_finishIfDrained

/-! ## Starting and asking for the end -/

theorem lifecycle_start {result : Except Failure Unit} (h : c.Lifecycle)
    (hstart : c.start = some (result, c')) : c'.Lifecycle := by
  obtain ⟨e, transport, -, rfl⟩ | ⟨-, hactive, -, pool, commands, pool', transport, hprepare,
    hlaunch, rfl⟩ := start_cases hstart
  · exact h.congr rfl rfl
  · have hallocate := TransferPool.cancelRequested_of_allocate (prepare_eq_ok.mp hprepare).1
    have hpool := (cancelRequested_of_launch hlaunch).trans hallocate
    exact .of_streams rfl ⟨rfl, hactive, hpool, rfl, rfl⟩

theorem lifecycle_requestStop (h : c.Lifecycle) : c.requestStop.2.Lifecycle := by
  obtain heq | ⟨a, hc, hactive, heq⟩ := requestStop_cases c
  · rwa [heq]
  · have hstopping : a.stopping = false := by
      apply Bool.eq_false_iff.mpr
      intro hstopping
      rw [(h.drains a hc hstopping).status] at hactive
      cases hactive
    have hstreams := h.streams a hc hstopping
    rw [heq]
    apply Consistent.lifecycle_finishIfDrained
    exact consistent_beginStop hc hstopping hstreams.status (by simp [hstreams.failed])

/-! ## Any operation -/

/-- **One operation keeps the invariant.** -/
theorem perform_lifecycle {op : Operation τ} {answer : Answer} (h : c.Lifecycle)
    (hop : c.perform op = some (answer, c')) : c'.Lifecycle := by
  obtain hsame | ⟨result, hstart⟩ | rfl | ⟨event, -, rfl⟩ | ⟨-, rfl⟩ := perform_cases hop
  · exact hsame.lifecycle h
  · exact lifecycle_start h hstart
  · exact lifecycle_requestStop h
  · exact lifecycle_dispatch h event
  · exact lifecycle_poll h

theorem Reachable.lifecycle (h : c.Reachable) : c.Lifecycle := by
  induction h with
  | new session sink settled => exact .of_idle rfl settled
  | perform _ hop ih => exact perform_lifecycle ih hop

/-! ## The trailer of a stopping capture -/

/-- A capture is stopping that has this trailer coming. -/
def Ending (c : Controller τ σ) (trailer : StreamTrailer) : Prop :=
  ∃ a, c.acquisition = some a ∧ a.stopping = true ∧ a.ending = some trailer.reason ∧
    a.decoder.emitted = trailer.samples

/-- From `c` to `c'` the capture came to its end with this trailer. -/
structure Ended (c : Controller τ σ) (trailer : StreamTrailer) (answer : Answer)
    (c' : Controller τ σ) : Prop where
  answer : answer = .progress (.finished trailer)
  sink : c'.sink = Sink.take c.sink (.trailer trailer)
  lastTrailer : c'.lastTrailer = some trailer
  acquisition : c'.acquisition = none

variable {trailer : StreamTrailer}

theorem Ending.finishIfDrained (h : c.Ending trailer) :
    c.finishIfDrained.2.Ending trailer ∨
      c.Ended trailer (.progress c.finishIfDrained.1) c.finishIfDrained.2 := by
  obtain ⟨a, hc, hstopping, hreason, hsamples⟩ := h
  rcases Nat.eq_zero_or_pos a.pool.outstanding with hdrained | hwaiting
  · have htrailer : (c.finish a).1 = trailer := by
      simp only [finish, hreason, hsamples, Option.getD_some]
    rw [finishIfDrained_of_drained hc hstopping hdrained]
    refine .inr ⟨?_, ?_, ?_, rfl⟩
    · rw [htrailer]
    · rw [← htrailer]
      rfl
    · rw [← htrailer]
      rfl
  · rw [finishIfDrained_of_waiting hc (.inr hwaiting)]
    exact .inl ⟨a, hc, hstopping, hreason, hsamples⟩

theorem Ending.dispatch (h : c.Ending trailer) (event : ReadEvent) :
    (c.dispatch event).2.Ending trailer ∨
      c.Ended trailer (.progress (c.dispatch event).1) (c.dispatch event).2 := by
  obtain ⟨a, hc, hstopping, hreason, hsamples⟩ := h
  obtain ⟨pool, -, heq⟩ := dispatch_of_stopping hc hstopping event
  rw [heq]
  have hending : Ending { c with acquisition := some { a with pool } } trailer :=
    ⟨{ a with pool }, rfl, hstopping, hreason, hsamples⟩
  apply hending.finishIfDrained.imp_right
  intro hended
  exact ⟨hended.answer, hended.sink, hended.lastTrailer, hended.acquisition⟩

theorem Ending.poll (h : c.Ending trailer) :
    c.poll.2.Ending trailer ∨ c.Ended trailer (.progress c.poll.1) c.poll.2 := by
  have hrunning : ¬c.acquisition.isNone = true := by
    obtain ⟨a, hc, -⟩ := h
    simp [hc]
  have hmoved (transport : τ) : (c.withTransport transport).Ending trailer := h
  rw [Controller.poll, if_neg hrunning]
  split
  · rename_i event transport _
    apply ((hmoved transport).dispatch event).imp_right
    intro hended
    exact ⟨hended.answer, hended.sink, hended.lastTrailer, hended.acquisition⟩
  · rename_i transport _
    apply (hmoved transport).finishIfDrained.imp_right
    intro hended
    exact ⟨hended.answer, hended.sink, hended.lastTrailer, hended.acquisition⟩

/-- **One operation keeps the trailer of a stopping capture, or delivers it.** -/
theorem perform_ending {op : Operation τ} {answer : Answer} (h : c.Lifecycle)
    (hending : c.Ending trailer) (hop : c.perform op = some (answer, c')) :
    c'.Ending trailer ∨ c.Ended trailer answer c' := by
  have hnotActive : c.session.status ≠ .active := by
    obtain ⟨a, hc, hstopping, -⟩ := hending
    rw [(h.drains a hc hstopping).status]
    decide
  obtain hsame | ⟨result, hstart⟩ | rfl | ⟨event, rfl, rfl⟩ | ⟨rfl, rfl⟩ := perform_cases hop
  · obtain ⟨a, hc, hrest⟩ := hending
    exact .inl ⟨a, hsame.acquisition.trans hc, hrest⟩
  · rw [start, if_pos hnotActive] at hstart
    cases hstart
    exact .inl hending
  · rw [requestStop, if_pos hnotActive]
    exact .inl hending
  · exact hending.dispatch event
  · exact hending.poll

/-- Over a run a stopping capture keeps its trailer, up to the operation that delivers it. -/
theorem performAll_ending {ops : List (Operation τ)} {answers : List Answer} (h : c.Lifecycle)
    (hending : c.Ending trailer) (hops : c.performAll ops = some (answers, c')) :
    c'.Ending trailer ∨
      ∃ before op after answersBefore answer c₁ c₂,
        ops = before ++ op :: after ∧
        c.performAll before = some (answersBefore, c₁) ∧ c₁.Ending trailer ∧
        c₁.perform op = some (answer, c₂) ∧ c₁.Ended trailer answer c₂ := by
  induction ops generalizing c answers with
  | nil =>
    cases hops
    exact .inl hending
  | cons op rest ih =>
    obtain ⟨answer, c₁, answers', hop, hrest, -⟩ := performAll_cons_eq_some.mp hops
    rcases perform_ending h hending hop with hstill | hended
    · rcases ih (perform_lifecycle h hop) hstill hrest with hlast | hsplit
      · exact .inl hlast
      · obtain ⟨before, op', after, answersBefore, answer', c₂, c₃, rfl, hbefore, hsplit⟩ := hsplit
        refine .inr ⟨op :: before, op', after, answer :: answersBefore, answer', c₂, c₃, rfl, ?_,
          hsplit⟩
        exact performAll_cons_eq_some.mpr ⟨answer, c₁, answersBefore, hop, hbefore, rfl⟩
    · exact .inr ⟨[], op, rest, [], answer, c, c₁, rfl, rfl, hending, hop, hended⟩

/-- **The life of a capture.**  Whatever the transport answers, between any two operations the
status, the flags and the pool of a capture agree.  Moreover a capture that is stopping stays as
it is, with the reason for which its end began and the samples it has, over all further
operations, up to one that ends it and delivers a trailer with just these. -/
theorem lifecycle_of_reachable (h : c.Reachable) :
    c.Lifecycle ∧
      ∀ (trailer : StreamTrailer) (ops : List (Operation τ)) (answers : List Answer)
          (c' : Controller τ σ),
        c.Ending trailer → c.performAll ops = some (answers, c') →
          c'.Ending trailer ∨
            ∃ before op after answersBefore answer c₁ c₂,
              ops = before ++ op :: after ∧
              c.performAll before = some (answersBefore, c₁) ∧ c₁.Ending trailer ∧
              c₁.perform op = some (answer, c₂) ∧ c₁.Ended trailer answer c₂ :=
  ⟨h.lifecycle, fun _ _ _ _ hending hops => performAll_ending h.lifecycle hending hops⟩

/-- The life of a capture on a simulated device that is asked to end, and is then polled. -/
theorem lifecycle_of_stopped_capture :
    ∃ (answers : List Answer) (c : Controller SimulatedDevice (List StreamEvent)),
      (new (.new { model := .lwla1016 } .lwla1016) []).performAll
          [.openDevice, .setTransferPool 1 8, .start, .requestStop] = some (answers, c) ∧
        c.Ending ⟨0, .stopped⟩ ∧ c.Lifecycle ∧
        ∃ answers' c', c.performAll [.poll] = some (answers', c') ∧
          (c'.Ending ⟨0, .stopped⟩ ∨
            ∃ before op after answersBefore answer c₁ c₂,
              [.poll] = before ++ op :: after ∧
              c.performAll before = some (answersBefore, c₁) ∧ c₁.Ending ⟨0, .stopped⟩ ∧
              c₁.perform op = some (answer, c₂) ∧ c₁.Ended ⟨0, .stopped⟩ answer c₂) := by
  refine ⟨_, _, rfl, ⟨_, rfl, rfl, rfl, rfl⟩, ?_⟩
  have hfresh : Reachable (σ := List StreamEvent)
      (new (.new ({ model := .lwla1016 } : SimulatedDevice) .lwla1016) []) :=
    .new _ _ (.inl rfl)
  have hlife := lifecycle_of_reachable (hfresh.performAll
    (show performAll _ [.openDevice, .setTransferPool 1 8, .start, .requestStop] = _ from rfl))
  exact ⟨hlife.1, _, _, rfl, hlife.2 _ _ _ _ ⟨_, rfl, rfl, rfl, rfl⟩ rfl⟩

end Controller

end LogicAnalyzer
