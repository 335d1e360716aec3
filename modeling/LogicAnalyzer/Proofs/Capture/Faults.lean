import LogicAnalyzer.Proofs.Capture.Accounts
import LogicAnalyzer.Proofs.Capture.Conveyance
import LogicAnalyzer.Proofs.Capture.RefusedShutdown
import LogicAnalyzer.Proofs.Capture.Start

/-!
# Captures on a device with faults

A capture is at every moment determined by the bytes that were received and the failures that were
seen.  It streams as long as the bytes give no reason to end and nothing has failed, and else it
waits for the cancelled reads and is over.

A read that fails as cancelled is taken for one that was cancelled, so this failure does not count.

## Main definitions

* `StreamDecoder.endsFor`: why a capture ends that was fed some bytes and met some failures
* `Controller.Stage`: a capture that was fed some bytes and met some failures
* `Controller.Staged`: the stage that the trace tells
* `Controller.Follows`: it also accounts for the device

## Main results

* `Controller.Staged.poll`: what one poll shows determines the capture after it
* `Controller.Follows.performAll_polls`: so does what any number of polls shows
-/

namespace LogicAnalyzer

/-! ## Why a capture ends -/

/-- **The first failure that counts**: a read that fails as cancelled is taken for one that was
cancelled. -/
def firstFailure (failures : List TransferError) : Option TransferError :=
  failures.find? (· ≠ .cancelled)

theorem firstFailure_append_cancelled (failures : List TransferError) :
    firstFailure (failures ++ [.cancelled]) = firstFailure failures := by
  simp [firstFailure, List.find?_append]

theorem firstFailure_append_of_none {failures : List TransferError} {e : TransferError}
    (h : firstFailure failures = none) (he : e ≠ .cancelled) :
    firstFailure (failures ++ [e]) = some e := by
  rw [firstFailure] at h ⊢
  rw [List.find?_append, h]
  simp [he]

/-- If none of the failures is a cancellation, the first one counts. -/
theorem firstFailure_eq_head? {failures : List TransferError} (h : .cancelled ∉ failures) :
    firstFailure failures = failures.head? := by
  cases failures with
  | nil => rfl
  | cons e rest =>
    have he : e ≠ .cancelled := fun heq => h (heq ▸ List.mem_cons_self ..)
    rw [firstFailure, List.find?_cons_of_pos (by simpa using he), List.head?_cons]

/-- **Why a capture ends** that was fed these bytes and met these failures, if it ends.  A capture
that the bytes have ended meets no failures, and one that a failure has ended is fed nothing. -/
def StreamDecoder.endsFor (decoder : StreamDecoder) (bytes : List UInt8)
    (failures : List TransferError) : Option EndReason :=
  match (decoder.feed bytes).1.reason with
  | some reason => some reason
  | none => (firstFailure failures).map fun e => .aborted (.transfer e)

section

variable {decoder : StreamDecoder} {bytes : List UInt8} {failures : List TransferError}

theorem StreamDecoder.endsFor_of_reason {reason : EndReason}
    (h : (decoder.feed bytes).1.reason = some reason) :
    decoder.endsFor bytes failures = some reason := by
  rw [endsFor, h]

theorem StreamDecoder.endsFor_of_failure {e : TransferError}
    (hreason : (decoder.feed bytes).1.reason = none) (h : firstFailure failures = some e) :
    decoder.endsFor bytes failures = some (.aborted (.transfer e)) := by
  rw [endsFor, hreason, h, Option.map_some]

theorem StreamDecoder.endsFor_append_cancelled :
    decoder.endsFor bytes (failures ++ [.cancelled]) = decoder.endsFor bytes failures := by
  rw [endsFor, firstFailure_append_cancelled, endsFor]

theorem StreamDecoder.endsFor_eq_none :
    decoder.endsFor bytes failures = none ↔
      firstFailure failures = none ∧ (decoder.feed bytes).1.reason = none := by
  unfold endsFor
  split
  · rename_i reason hreason
    simp [hreason]
  · rename_i hnone
    simp [hnone]

/-- Without a failure that counts only the bytes can have ended it. -/
theorem StreamDecoder.endsFor_of_none (h : firstFailure failures = none) :
    decoder.endsFor bytes failures = (decoder.feed bytes).1.reason := by
  cases hreason : (decoder.feed bytes).1.reason with
  | some reason => exact endsFor_of_reason hreason
  | none => exact endsFor_eq_none.mpr ⟨h, hreason⟩

end

namespace Controller

/-! ## The stages of a capture -/

section

variable {τ : Type} {c : Controller τ Recording} {a : Acquisition} {decoder : StreamDecoder}
  {bytes : List UInt8} {failures : List TransferError}

/-- **The stage of a capture** that was fed these bytes and met these failures. -/
inductive Stage (decoder : StreamDecoder) (bytes : List UInt8) (failures : List TransferError)
    (c : Controller τ Recording) : Prop
  | streaming {a : Acquisition} (running : c.acquisition = some a) (stopping : a.stopping = false)
      (failed : a.failed = false) (decoder_eq : a.decoder = (decoder.feed bytes).2)
      (why : decoder.endsFor bytes failures = none) (sink : c.sink.Holds decoder bytes none)
  /-- The end has begun. -/
  | draining {a : Acquisition} {reason : EndReason} (running : c.acquisition = some a)
      (stopping : a.stopping = true) (ending : a.ending = some reason)
      (decoder_eq : a.decoder = (decoder.feed bytes).2)
      (why : decoder.endsFor bytes failures = some reason) (sink : c.sink.Holds decoder bytes none)
  | ended {trailer : StreamTrailer} (idle : c.acquisition = none)
      (status : c.session.status = .inactive)
      (count : trailer.samples = (decoder.feed bytes).2.emitted)
      (why : decoder.endsFor bytes failures = some trailer.reason)
      (sink : c.sink.Holds decoder bytes (some trailer))

theorem Stage.of_not_stopping (h : Stage decoder bytes failures c) (hc : c.acquisition = some a)
    (hstopping : a.stopping = false) :
    a.failed = false ∧ a.decoder = (decoder.feed bytes).2 ∧ firstFailure failures = none ∧
      (decoder.feed bytes).1.reason = none ∧ c.sink.Holds decoder bytes none := by
  cases h with
  | streaming running stopping failed decoder_eq why sink =>
    cases running.symm.trans hc
    obtain ⟨hfailures, hreason⟩ := StreamDecoder.endsFor_eq_none.mp why
    exact ⟨failed, decoder_eq, hfailures, hreason, sink⟩
  | draining running stopping =>
    cases running.symm.trans hc
    cases stopping.symm.trans hstopping
  | ended idle => cases idle.symm.trans hc

/-- At every stage the recording holds what the bytes are decoded to. -/
theorem Stage.holds (h : Stage decoder bytes failures c) :
    c.sink.Holds decoder bytes c.sink.trailer := by
  cases h with
  | streaming running stopping failed decoder_eq why sink => rwa [sink.trailer]
  | draining running stopping ending decoder_eq why sink => rwa [sink.trailer]
  | ended idle status count why sink => rwa [sink.trailer]

/-- There is a trailer once the capture is over. -/
theorem Stage.of_trailer {trailer : StreamTrailer} (h : Stage decoder bytes failures c)
    (htrailer : c.sink.trailer = some trailer) :
    c.acquisition = none ∧ c.session.status = .inactive ∧
      trailer.samples = (decoder.feed bytes).2.emitted ∧
      decoder.endsFor bytes failures = some trailer.reason := by
  cases h with
  | streaming running stopping failed decoder_eq why sink =>
    cases sink.trailer.symm.trans htrailer
  | draining running stopping ending decoder_eq why sink =>
    cases sink.trailer.symm.trans htrailer
  | ended idle status count why sink =>
    cases sink.trailer.symm.trans htrailer
    exact ⟨idle, status, count, why⟩

/-- A read that fails as cancelled makes no difference. -/
theorem Stage.append_cancelled (h : Stage decoder bytes failures c) :
    Stage decoder bytes (failures ++ [.cancelled]) c := by
  cases h with
  | streaming running stopping failed decoder_eq why sink =>
    rw [← StreamDecoder.endsFor_append_cancelled] at why
    exact .streaming running stopping failed decoder_eq why sink
  | draining running stopping ending decoder_eq why sink =>
    rw [← StreamDecoder.endsFor_append_cancelled] at why
    exact .draining running stopping ending decoder_eq why sink
  | ended idle status count why sink =>
    rw [← StreamDecoder.endsFor_append_cancelled] at why
    exact .ended idle status count why sink

theorem Stage.withTransport (h : Stage decoder bytes failures c) (transport : τ) :
    Stage decoder bytes failures (c.withTransport transport) := by
  cases h with
  | streaming running stopping failed decoder_eq why sink =>
    exact .streaming running stopping failed decoder_eq why sink
  | draining running stopping ending decoder_eq why sink =>
    exact .draining running stopping ending decoder_eq why sink
  | ended idle status count why sink => exact .ended idle status count why sink

theorem Stage.withPool (h : Stage decoder bytes failures c) (hc : c.acquisition = some a)
    (pool : TransferPool) :
    Stage decoder bytes failures { c with acquisition := some { a with pool } } := by
  cases h with
  | streaming running stopping failed decoder_eq why sink =>
    cases running.symm.trans hc
    exact .streaming rfl stopping failed decoder_eq why sink
  | draining running stopping ending decoder_eq why sink =>
    cases running.symm.trans hc
    exact .draining rfl stopping ending decoder_eq why sink
  | ended idle => cases idle.symm.trans hc

/-- **The bytes of a read of a streaming capture** are decoded and delivered, whatever they lead
to. -/
theorem Stage.fed (h : Stage decoder bytes failures c) (hc : c.acquisition = some a)
    (hstopping : a.stopping = false) (more : List UInt8) :
    (decoder.feed (bytes ++ more)).1.reason = (a.decoder.feed more).1.reason ∧
      (a.decoder.feed more).2 = (decoder.feed (bytes ++ more)).2 ∧
      Recording.Holds (Sink.takeAll c.sink (a.delivers more)) decoder (bytes ++ more) none := by
  obtain ⟨-, hdecoder, -, hreason, hsink⟩ := h.of_not_stopping hc hstopping
  rw [Acquisition.delivers, hdecoder]
  refine ⟨?_, ?_, hsink.extends (Recording.extends_takeAll_deliveries ..)⟩
  · rw [StreamDecoder.feed_append, Decoded.reason_append hreason]
  · rw [StreamDecoder.feed_append]

variable [Transport τ]

theorem Stage.finishIfDrained (h : Stage decoder bytes failures c) :
    Stage decoder bytes failures c.finishIfDrained.2 := by
  obtain ⟨-, heq⟩ | ⟨a, hc, hstopping, -, heq⟩ := finishIfDrained_cases c
  · rwa [heq]
  · rw [heq]
    cases h with
    | streaming running stopping =>
      cases running.symm.trans hc
      cases stopping.symm.trans hstopping
    | draining running stopping ending decoder_eq why sink =>
      cases running.symm.trans hc
      have hsink : Recording.Holds (Sink.take c.sink (.trailer (c.finish a).1)) decoder bytes
          (some (c.finish a).1) := ⟨sink.samples, sink.triggers, rfl⟩
      refine .ended rfl rfl ?_ ?_ hsink
      · rw [finish, decoder_eq]
      · rw [why, finish, ending, Option.getD_some]
    | ended idle => cases idle.symm.trans hc

end

/-! ## One poll -/

section

variable {t t' : Traced SimulatedDevice} {c c₁ : Controller (Traced SimulatedDevice) Recording}
  {a : Acquisition} {decoder : StreamDecoder} {event : ReadEvent}

/-- The beginning of an end shows nothing. -/
theorem showsSame_beginStop (c : Controller (Traced SimulatedDevice) Recording)
    (reason : EndReason) :
    ShowsSame c.session.transport.calls (c.beginStop reason).session.transport.calls := by
  obtain ⟨-, heq⟩ | ⟨a, -, -, heq⟩ := beginStop_cases c reason
  · rw [heq]
    exact .refl _
  · rw [heq, Session.transport_beginStop]
    refine TransferPool.of_cancelAll (motive := fun t : Traced SimulatedDevice =>
      ShowsSame c.session.transport.calls t.calls) ?_ a.pool (.refl _)
    intro t h
    exact h.trans (showsSame_append rfl rfl)

theorem showsSame_finishIfDrained (c : Controller (Traced SimulatedDevice) Recording) :
    ShowsSame c.session.transport.calls c.finishIfDrained.2.session.transport.calls := by
  obtain ⟨-, heq⟩ | ⟨a, -, -, -, heq⟩ := finishIfDrained_cases c
  · rw [heq]
    exact .refl _
  · rw [heq]
    exact showsSame_append rfl rfl

/-- **The stage that the trace tells.** -/
def Staged (decoder : StreamDecoder) (c : Controller (Traced SimulatedDevice) Recording) : Prop :=
  Stage decoder (receivedBytes c.session.transport.calls) (failuresSeen c.session.transport.calls) c

theorem Stage.staged {bytes : List UInt8} {failures : List TransferError}
    (h : Stage decoder bytes failures c) (hbytes : receivedBytes c.session.transport.calls = bytes)
    (hfailures : failuresSeen c.session.transport.calls = failures) : c.Staged decoder := by
  rw [Staged, hbytes, hfailures]
  exact h

/-- The end begins when there is a reason. -/
theorem Staged.begins {bytes : List UInt8} {failures : List TransferError} {reason : EndReason}
    (hbytes : receivedBytes c.session.transport.calls = bytes)
    (hfailures : failuresSeen c.session.transport.calls = failures)
    (hc : c.acquisition = some a) (hstopping : a.stopping = false)
    (hdecoder : a.decoder = (decoder.feed bytes).2)
    (why : decoder.endsFor bytes failures = some reason) (sink : c.sink.Holds decoder bytes none) :
    (c.beginStop reason).Staged decoder := by
  have hsame := showsSame_beginStop c reason
  rw [Staged, hsame.bytes, hsame.failures, hbytes, hfailures, beginStop_of_streams hc hstopping]
  exact .draining rfl rfl rfl hdecoder why sink

theorem Staged.finishIfDrained (h : c.Staged decoder) : c.finishIfDrained.2.Staged decoder := by
  have hsame := showsSame_finishIfDrained c
  exact (Stage.finishIfDrained h).staged hsame.bytes hsame.failures

/-- **The report of a read**, and what becomes of the capture. -/
theorem Staged.handles (h : c.Staged decoder) (hc : c.acquisition = some a)
    (hcalls : t.calls = c.session.transport.calls ++ [.next (some event)])
    (hcancelled : event.outcome = .cancelled ↔ a.stopping = true)
    (hhandles : (c.withTransport t).Handles a event c₁) : c₁.Staged decoder := by
  cases hhandles with
  | parks why =>
    have hparked := (Stage.withTransport h t).withPool hc (a.pool.settle event)
    rcases Bool.eq_false_or_eq_true a.stopping with hstopping | hstopping
    · have hsame := showsSame_of_cancelled hcalls (hcancelled.mpr hstopping)
      exact hparked.staged hsame.bytes hsame.failures
    · obtain ⟨hfailed, -⟩ := Stage.of_not_stopping h hc hstopping
      have hwithdrawn : event.outcome = .failed .cancelled := by
        simpa [hcancelled, hstopping, hfailed] using why
      obtain ⟨hbytes, hseen⟩ := shows_of_failed hcalls hwithdrawn
      exact hparked.append_cancelled.staged hbytes hseen
  | fails stopping outcome asked =>
    obtain ⟨-, hdecoder, hfailures, hreason, hsink⟩ := Stage.of_not_stopping h hc stopping
    obtain ⟨hbytes, hseen⟩ := shows_of_failed hcalls outcome
    refine Staged.begins hbytes hseen rfl stopping hdecoder ?_ hsink
    exact StreamDecoder.endsFor_of_failure hreason (firstFailure_append_of_none hfailures asked)
  | concludes stopping outcome hreason =>
    obtain ⟨hbytes, hseen⟩ := shows_of_received hcalls outcome
    obtain ⟨hchunk, hdecoder, hsink⟩ := Stage.fed h hc stopping event.buffer.bytes
    refine Staged.begins hbytes hseen rfl stopping hdecoder ?_ hsink
    exact StreamDecoder.endsFor_of_reason (hchunk.trans hreason)
  | resubmits stopping outcome hresubmit clean =>
    obtain ⟨hfailed, -, hfailures, -, -⟩ := Stage.of_not_stopping h hc stopping
    obtain ⟨hbytes, hseen⟩ := shows_of_received hcalls outcome
    obtain ⟨hchunk, hdecoder, hsink⟩ := Stage.fed h hc stopping event.buffer.bytes
    have hsame := showsSame_of_resubmit hresubmit
    refine Stage.staged (.streaming rfl stopping hfailed hdecoder ?_ hsink)
      (hsame.bytes.trans hbytes) (hsame.failures.trans hseen)
    rw [StreamDecoder.endsFor_eq_none]
    exact ⟨hfailures, hchunk.trans clean⟩
  | refuses stopping outcome hresubmit clean =>
    obtain ⟨-, -, hfailures, -, -⟩ := Stage.of_not_stopping h hc stopping
    obtain ⟨hbytes, hseen⟩ := shows_of_received hcalls outcome
    obtain ⟨hchunk, hdecoder, hsink⟩ := Stage.fed h hc stopping event.buffer.bytes
    obtain ⟨rfl, hbytes', hseen'⟩ := shows_of_refusal hresubmit
    refine Staged.begins (hbytes'.trans hbytes) (hseen'.trans (congrArg (· ++ _) hseen)) rfl
      stopping hdecoder ?_ hsink
    exact StreamDecoder.endsFor_of_failure (hchunk.trans clean)
      (firstFailure_append_of_none hfailures (by decide))

/-- **What one poll shows** determines the capture after it. -/
theorem Staged.poll (h : c.Staged decoder) (hattached : (c.mapTransport Traced.inner).Attached) :
    c.poll.2.Staged decoder := by
  cases hc : c.acquisition with
  | none =>
    rw [poll_of_idle hc]
    exact h
  | some a =>
    obtain ⟨event, t, hnext, heq⟩ | ⟨t, hnext, heq⟩ := poll_cases hc
    · obtain ⟨hinner, hcalls⟩ := Traced.next_inner hnext
      obtain ⟨read, -, -, hcancelled, hslot⟩ := hattached.report hc hinner
      obtain ⟨hnot, -⟩ | ⟨-, c₁, hhandles, hdispatch⟩ :=
        dispatch_cases (c := c.withTransport t) hc event
      · exact absurd hslot hnot
      · rw [heq, hdispatch]
        exact (h.handles hc hcalls hcancelled hhandles).finishIfDrained
    · have hsame : ShowsSame c.session.transport.calls t.calls := by
        rw [(Traced.next_inner hnext).2]
        exact showsSame_append rfl rfl
      have hwaiting : (c.withTransport t).Staged decoder :=
        (Stage.withTransport h t).staged hsame.bytes hsame.failures
      rw [heq]
      exact hwaiting.finishIfDrained

end

/-! ## Many polls -/

section

variable {decoder : StreamDecoder} {stream : List UInt8} {fault : Option (Nat × TransferError)}

/-- **The trace accounts for the device and tells the stage of the capture.** -/
structure Follows (decoder : StreamDecoder) (stream : List UInt8)
    (fault : Option (Nat × TransferError)) (c : Controller (Traced SimulatedDevice) Recording) :
    Prop where
  staged : c.Staged decoder
  attached : (c.mapTransport Traced.inner).Attached
  accounts : Accounts stream fault c.session.transport

theorem Follows.poll {c : Controller (Traced SimulatedDevice) Recording}
    (h : c.Follows decoder stream fault) : c.poll.2.Follows decoder stream fault where
  staged := h.staged.poll h.attached
  attached := by
    have hpoll := congrArg Prod.snd (poll_hom Traced.inner_hom c)
    have hattached := h.attached.poll
    rw [hpoll] at hattached
    exact hattached
  accounts := Accounts.keeps.poll (fun _ => Accounts.next) h.accounts

/-- **Any number of polls** goes on with the trace. -/
theorem Follows.performAll_polls {c d : Controller SimulatedDevice Recording} {calls : List Call}
    {answers : List Answer} {n : Nat} (h : (c.withTrace calls).Follows decoder stream fault)
    (hpolls : c.performAll (List.replicate n .poll) = some (answers, d)) :
    (d.withTrace (calls ++ c.callsAll (List.replicate n .poll))).Follows decoder stream fault := by
  induction n generalizing c calls answers with
  | zero =>
    cases hpolls
    rw [List.replicate_zero, callsAll, List.append_nil]
    exact h
  | succ n ih =>
    obtain ⟨answer, c₁, answers', hpoll, hrest, rfl⟩ := performAll_cons_eq_some.mp hpolls
    have hcalls := callsAll_cons hpoll (List.replicate n .poll)
    cases hpoll
    have hnext := h.poll
    rw [poll_withTrace] at hnext
    rw [List.replicate_succ, hcalls, ← List.append_assoc]
    exact ih hnext hrest

/-- A start that works leaves the device told which read fails. -/
theorem completionFailure_of_launch {d d' : SimulatedDevice} {pool pool' : TransferPool}
    {commands : List Frame} (h : launch d pool commands = some (.ok pool', d')) :
    d'.completionFailure = d.completionFailure := by
  obtain ⟨sent, count, hsend, hsubmit⟩ := exists_of_launch_ok h
  refine TransferPool.of_submitAll
    (motive := fun u : SimulatedDevice => u.completionFailure = d.completionFailure) ?_ hsubmit ?_
  · intro u slot buffer hu
    rw [← hu]
    exact SimulatedDevice.completionFailure_submit ..
  · rw [sendEach_of_ok hsend]

/-- **A capture that has just started** was fed nothing and met no failure. -/
theorem follows_start {before started : Controller SimulatedDevice Recording}
    (hpending : before.session.transport.pending = [])
    (hstart : before.start = some (.ok (), started)) :
    (started.withTrace []).Follows (Rehearsal.newDecoder before) before.session.transport.stream
      before.session.transport.completionFailure := by
  have hkept := SimulatedDevice.StreamKept.start hstart
  have hcleared : before.session.transport.Cleared := by simp [SimulatedDevice.Cleared, hpending]
  obtain ⟨e, transport, hno, -⟩ | ⟨-, -, hidle, pool, commands, pool', d, hprepare, hlaunch, heq⟩ :=
    start_cases hstart
  · cases hno
  have hattached := (Attached.of_idle hidle hpending).start hstart
  subst heq
  refine ⟨.streaming rfl rfl rfl ?_ ?_ ?_, hattached, ?_⟩
  · exact (congrArg Prod.snd StreamDecoder.feed_start_nil).symm
  · rw [StreamDecoder.endsFor_eq_none]
    exact ⟨rfl, congrArg (·.1.reason) StreamDecoder.feed_start_nil⟩
  · have hnone : (Rehearsal.newDecoder before).feed [] = _ := StreamDecoder.feed_start_nil
    refine ⟨?_, ?_, rfl⟩
    · exact (congrArg (·.1.samples) hnone).symm
    · exact (congrArg (·.1.triggers) hnone).symm
  · exact ⟨hkept.stream, hkept.cleared hcleared, completionFailure_of_launch hlaunch, nofun⟩

end

end Controller

end LogicAnalyzer
