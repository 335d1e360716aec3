import LogicAnalyzer.Proofs.Capture.Faults
import LogicAnalyzer.Proofs.Stream.Frames

/-!
# What failures leave of a capture

A device has a script queued and the notice that the capture is complete, and is told to fail: to
refuse a command, to fail a read, to refuse a buffer.  If the capture starts nevertheless, it is at
every moment the beginning of the capture that the same device gives without faults.  Nothing that
was received is kept back.  Aborted it is for the first failure that was seen, except that a read
which fails as cancelled does not count as a failure.

## Main definitions

* `Rehearsal.repaired`: the same controller over a device without faults
* `Rehearsal.ReceivedFrames`: frames of the script of which all bytes were received
* `Rehearsal.CutShort`: a capture as compared with that of the device without faults

## Main results

* `Rehearsal.failures_cut_short`: failures only cut a capture short
-/

namespace LogicAnalyzer.Rehearsal

/-- The same controller, over the device without faults. -/
def repaired (c : Rehearsing) : Rehearsing :=
  c.mapTransport fun d => d.clearFailures.holdCancellations false

/-- **Frames of which all bytes were received**: first ones of the script. -/
structure ReceivedFrames (before : Rehearsing) (script : List StreamPart) (calls : List Call)
    (front : List StreamPart) : Prop where
  first : front <+: Script.frames before.session.model.recordWidth script
  received : ∃ bytes, Script.encode before.session.model.recordWidth front = some bytes ∧
    bytes.length ≤ (receivedBytes calls).length

/-- **What failures leave of a capture**: `after` is the controller after some polls, which made these
calls, and `whole` is what the capture of the same script is without failures. -/
structure CutShort (before : Rehearsing) (script : List StreamPart) (whole : Recording)
    (calls : List Call) (after : Rehearsing) : Prop where
  samples : after.sink.samples <+: whole.samples
  triggers : after.sink.triggers <+: whole.triggers
  received : receivedBytes calls <+: before.session.transport.stream
  /-- Of frames that were received all is delivered that is wanted. -/
  delivered : ∀ front, ReceivedFrames before script calls front →
    (within before.session.sampleLimit (Script.samples front)).map
        (Record.cut before.session.model.recordWidth before.session.masks.channels) <+:
      after.sink.samples ∧
    (Script.triggers 0 front).filter (inTime before.session.sampleLimit) <+: after.sink.triggers
  /-- A failure is that of the read which the device is told to fail, or a refused buffer. -/
  injected : ∀ e ∈ failuresSeen calls,
    e = .fault ∨ ∃ index, before.session.transport.completionFailure = some (index, e)
  /-- The capture is aborted for the first failure that counts, which is the first of all unless
  a read is to fail as cancelled. -/
  aborted : ∀ trailer reason, after.sink.trailer = some trailer → trailer.reason = .aborted reason →
    ∃ e, reason = .transfer e ∧ firstFailure (failuresSeen calls) = some e ∧
      ((∀ index, before.session.transport.completionFailure ≠ some (index, .cancelled)) →
        (failuresSeen calls).head? = some e)
  /-- An aborted capture has not reached its limit, so of these frames all is delivered. -/
  aborted_delivered : ∀ trailer reason, after.sink.trailer = some trailer →
    trailer.reason = .aborted reason → ∀ front, ReceivedFrames before script calls front →
    (Script.samples front).map
        (Record.cut before.session.model.recordWidth before.session.masks.channels) <+:
      after.sink.samples ∧
    Script.triggers 0 front <+: after.sink.triggers
  /-- If nothing failed that counts, nothing is missing. -/
  complete : firstFailure (failuresSeen calls) = none → after.sink.trailer ≠ none →
    after.sink.samples = whole.samples ∧ after.sink.triggers = whole.triggers ∧
      after.sink.trailer = whole.trailer
  finished : ∀ trailer, after.sink.trailer = some trailer →
    after.acquisition = none ∧ after.session.status = .inactive ∧
      trailer.samples = after.sink.samples.length

/-- The polls of a rehearsal are operations of its controller. -/
theorem performAll_polls (c : Rehearsing) (n : Nat) :
    c.performAll (List.replicate n .poll) =
      some ((follow c (List.replicate n .poll)).1.map .progress,
        (follow c (List.replicate n .poll)).2) := by
  induction n generalizing c with
  | zero => rfl
  | succ n ih => exact Controller.performAll_cons_eq_some.mpr ⟨_, _, _, rfl, ih c.poll.2, rfl⟩

/-- Where a capture starts on a device with faults, one starts without them. -/
theorem start_repaired {before started : Rehearsing} {poolSize bufferSize : Nat}
    (hpending : before.session.transport.pending = [])
    (hstart : (before.withTransferPool poolSize bufferSize).start = some (.ok (), started)) :
    ∃ started',
      ((repaired before).withTransferPool poolSize bufferSize).start = some (.ok (), started') := by
  obtain ⟨e, d, hno, -⟩ | ⟨-, hactive, hidle, pool, commands, -, -, hprepare, -⟩ :=
    Controller.start_cases hstart
  · cases hno
  · exact Controller.start_of_faultless (c := (repaired before).withTransferPool poolSize bufferSize)
      ⟨rfl, rfl, rfl, rfl⟩ hpending hactive hidle hprepare

section

variable {before started started' after whole : Rehearsing} {poolSize bufferSize : Nat}
  {script : List StreamPart} {bytes : List UInt8} {calls : List Call} {trailer : StreamTrailer}

/-- Frames that were received are at the front of what was received. -/
theorem ReceivedFrames.exists_prefix {front : List StreamPart} {tail : List UInt8}
    (hwidth : 0 < before.session.model.recordWidth ∧
      before.session.model.recordWidth ≤ Record.maxWidth)
    (hencode : Script.encode before.session.model.recordWidth script = some bytes)
    (hreceived : receivedBytes calls <+: bytes ++ tail)
    (h : ReceivedFrames before script calls front) :
    ∃ frontBytes, Script.encode before.session.model.recordWidth front = some frontBytes ∧
      frontBytes <+: receivedBytes calls := by
  obtain ⟨frontBytes, hfrontBytes, hlength⟩ := h.received
  refine ⟨frontBytes, hfrontBytes, ?_⟩
  exact Script.prefix_of_encode hwidth.1 hwidth.2 hencode hreceived h.first hfrontBytes hlength

/-- The bytes of a script do not abort a capture, so a failure does, before they end it. -/
theorem failure_of_aborted {width : Nat} {channels : ChannelSet} {limit : UInt64}
    {records : List UInt64} {triggers : List Nat} {seen : List UInt8}
    {failures : List TransferError} {reason : AbortReason}
    (hreads : StreamDecoder.Reads width channels limit bytes records triggers)
    (hseen : seen <+: bytes ++ Response.captureDone.frame.toBytes)
    (h : (StreamDecoder.start width channels limit).endsFor seen failures =
      some (.aborted reason)) :
    ((StreamDecoder.start width channels limit).feed seen).1.reason = none ∧
      ∃ e, reason = .transfer e ∧ firstFailure failures = some e := by
  cases hfed : ((StreamDecoder.start width channels limit).feed seen).1.reason with
  | some other =>
    rw [StreamDecoder.endsFor_of_reason hfed] at h
    have hsame := congrArg Outcome.reason (hreads.conclusive seen hseen (by simp [hfed]))
    rw [hreads.outcome, StreamDecoder.outcome, hfed, h] at hsame
    split at hsame <;> cases hsame
  | none =>
    cases hfirst : firstFailure failures with
    | none => cases (StreamDecoder.endsFor_eq_none.mpr ⟨hfirst, hfed⟩).symm.trans h
    | some e =>
      cases (StreamDecoder.endsFor_of_failure hfed hfirst).symm.trans h
      exact ⟨rfl, e, rfl, rfl⟩

/-- **What the trace tells of a capture**, compared with what all that is streamed amounts to. -/
theorem cutShort_of_follows
    (hwidth : 0 < before.session.model.recordWidth ∧
      before.session.model.recordWidth ≤ Record.maxWidth)
    (hencode : Script.encode before.session.model.recordWidth script = some bytes)
    (hstream : before.session.transport.stream = bytes ++ Response.captureDone.frame.toBytes)
    (hwhole : ComesTo started'
      ((newDecoder before).outcome (bytes ++ Response.captureDone.frame.toBytes)) trailer whole)
    (h : (after.withTrace calls).Follows (newDecoder before) before.session.transport.stream
      before.session.transport.completionFailure) :
    CutShort before script whole.sink calls after := by
  have hreads : StreamDecoder.Reads before.session.model.recordWidth before.session.masks.channels
      before.session.sampleLimit bytes _ _ := .of_script hwidth.2 hencode
  have hreceived : receivedBytes calls <+: bytes ++ Response.captureDone.frame.toBytes := by
    rw [← hstream, ← h.accounts.stream]
    exact List.prefix_append ..
  have hstage : Controller.Stage (newDecoder before) (receivedBytes calls) (failuresSeen calls)
    (after.withTrace calls) := h.staged
  have hholds : after.sink.Holds (newDecoder before) (receivedBytes calls) after.sink.trailer :=
    hstage.holds
  have hconclude (hreason : ((newDecoder before).feed (receivedBytes calls)).1.reason ≠ none) :
      (newDecoder before).outcome (receivedBytes calls) =
        (newDecoder before).outcome (bytes ++ Response.captureDone.frame.toBytes) :=
    hreads.conclusive (receivedBytes calls) hreceived hreason
  have hover {trailer : StreamTrailer} (htrailer : after.sink.trailer = some trailer) :=
    hstage.of_trailer htrailer
  have hcount {trailer : StreamTrailer} (htrailer : after.sink.trailer = some trailer) :
      trailer.samples = after.sink.samples.length := by
    obtain ⟨-, -, hemitted, -⟩ := hover htrailer
    rw [hemitted, hholds.samples, (StreamDecoder.feed_follows _ _).emitted]
    exact Nat.zero_add _
  constructor
  case samples =>
    obtain ⟨rest, hrest⟩ := hreceived
    rw [hwhole.samples, hholds.samples, StreamDecoder.outcome, ← hrest, StreamDecoder.feed_append]
    exact List.prefix_append ..
  case triggers =>
    obtain ⟨rest, hrest⟩ := hreceived
    rw [hwhole.triggers, hholds.triggers, StreamDecoder.outcome, ← hrest, StreamDecoder.feed_append]
    exact List.prefix_append ..
  case received =>
    rwa [hstream]
  case delivered =>
    intro front hframes
    obtain ⟨frontBytes, hfrontBytes, hprefix⟩ := hframes.exists_prefix hwidth hencode hreceived
    rw [hholds.samples, hholds.triggers]
    exact StreamDecoder.front_delivered hwidth.2 hfrontBytes hprefix
  case injected =>
    exact h.accounts.injected
  case aborted =>
    intro trailer reason htrailer haborted
    obtain ⟨-, -, -, hwhy⟩ := hover htrailer
    rw [haborted] at hwhy
    obtain ⟨-, e, hreason, hfirst⟩ := failure_of_aborted hreads hreceived hwhy
    refine ⟨e, hreason, hfirst, ?_⟩
    intro hnever
    rw [← hfirst, firstFailure_eq_head?]
    intro hcancelled
    rcases h.accounts.injected _ hcancelled with hfault | ⟨index, hinjected⟩
    · cases hfault
    · exact hnever index hinjected
  case aborted_delivered =>
    intro trailer reason htrailer haborted front hframes
    obtain ⟨-, -, -, hwhy⟩ := hover htrailer
    rw [haborted] at hwhy
    obtain ⟨hfed, -⟩ := failure_of_aborted hreads hreceived hwhy
    obtain ⟨-, hlimit, -⟩ := Decoded.reason_eq_none.mp hfed
    obtain ⟨frontBytes, hfrontBytes, hprefix⟩ := hframes.exists_prefix hwidth hencode hreceived
    rw [hholds.samples, hholds.triggers]
    exact StreamDecoder.front_delivered_of_inTime hwidth.2 hfrontBytes hprefix hlimit
  case complete =>
    intro hfirst hended
    obtain ⟨trailer', htrailer⟩ := Option.ne_none_iff_exists'.mp hended
    obtain ⟨-, -, -, hwhy⟩ := hover htrailer
    rw [StreamDecoder.endsFor_of_none hfirst] at hwhy
    have hsame := hconclude (by simp [hwhy])
    have hsamples : after.sink.samples = whole.sink.samples := by
      rw [hwhole.samples, ← hsame]
      exact hholds.samples
    refine ⟨hsamples, ?_, ?_⟩
    · rw [hwhole.triggers, ← hsame]
      exact hholds.triggers
    · have hreason := (hwhy.symm.trans (congrArg Outcome.reason hsame)).trans hwhole.reason.symm
      have hlength := ((hcount htrailer).trans (congrArg List.length hsamples)).trans
        ((congrArg List.length hwhole.samples).trans hwhole.count.symm)
      rw [htrailer, hwhole.delivered]
      cases trailer
      cases trailer'
      cases hlength
      cases hreason
      rfl
  case finished =>
    intro trailer htrailer
    obtain ⟨hidle, hstatus, -, -⟩ := hover htrailer
    exact ⟨hidle, hstatus, hcount htrailer⟩

/-- **Whether the device obeys at the end** makes no difference to a capture. -/
theorem follow_withShutdownFailure (started : Rehearsing) (error : Option TransferError) (n : Nat) :
    ∃ device, follow (started.mapTransport (SimulatedDevice.withShutdownFailure error))
        (List.replicate n .poll) =
      ((follow started (List.replicate n .poll)).1,
        (follow started (List.replicate n .poll)).2.withTransport device) := by
  have halongside := Controller.alongside_mapTransport
    (f := SimulatedDevice.withShutdownFailure error) started
  obtain ⟨after, hpolls, hsame⟩ := halongside.performAll_polls
    (SimulatedDevice.readHom_withShutdownFailure error) (performAll_polls started n)
  rw [performAll_polls, Option.some.injEq, Prod.mk.injEq] at hpolls
  obtain ⟨hanswers, hafter⟩ := hpolls
  refine ⟨after.session.transport, Prod.ext ?_ ?_⟩
  · exact List.map_injective_iff.mpr (fun _ _ => Answer.progress.inj) hanswers
  · rw [hafter]
    exact hsame.same

/-- **Failures only cut a capture short.**  A script for its model and the notice that the capture is
complete are queued on a device that may be told to fail in any way, and a capture starts with any
number and size of reads.  Then one starts on the repaired device too, and ends after enough polls.
After any number of polls the capture with failures is what failures leave of that one.  If the
device refuses to be shut down, or takes all commands, that makes no difference to anything but
itself. -/
theorem failures_cut_short
    (hchannels : 1 ≤ before.session.model.channelCount ∧ before.session.model.channelCount ≤ 64)
    (hencode : Script.encode before.session.model.recordWidth script = some bytes)
    (hstream : before.session.transport.stream = bytes ++ Response.captureDone.frame.toBytes)
    (hpending : before.session.transport.pending = [])
    (hstart : (before.withTransferPool poolSize bufferSize).start = some (.ok (), started)) :
    (∃ started',
      ((repaired before).withTransferPool poolSize bufferSize).start = some (.ok (), started') ∧
      ∀ extra, before.session.transport.stream.length + max poolSize 1 ≤ extra →
        ∃ running trailer idle whole,
          follow started' (List.replicate extra .poll) =
            (List.replicate running .running ++ .finished trailer :: List.replicate idle .idle,
              whole) ∧
          whole.sink.trailer = some trailer ∧
          ∀ n, CutShort before script whole.sink (started.callsAll (List.replicate n .poll))
            (follow started (List.replicate n .poll)).2) ∧
    ∀ error, ∃ refusing,
      ((before.mapTransport (SimulatedDevice.withShutdownFailure error)).withTransferPool poolSize
        bufferSize).start = some (.ok (), refusing) ∧
      ∀ n, ∃ device, follow refusing (List.replicate n .poll) =
        ((follow started (List.replicate n .poll)).1,
          (follow started (List.replicate n .poll)).2.withTransport device) := by
  have hwidth := recordWidth_bounds hchannels
  have hreads : StreamDecoder.Reads before.session.model.recordWidth before.session.masks.channels
      before.session.sampleLimit bytes _ _ := .of_script hwidth.2 hencode
  constructor
  · obtain ⟨started', hstart'⟩ := start_repaired hpending hstart
    refine ⟨started', hstart', ?_⟩
    intro extra hextra
    have hreason : ((newDecoder (repaired before)).outcome
        (bytes ++ Response.captureDone.frame.toBytes)).reason ≠ none := by
      have houtcome : (newDecoder (repaired before)).outcome
          (bytes ++ Response.captureDone.frame.toBytes) = _ := hreads.outcome
      simp [houtcome]
    rw [hstream] at hextra
    have hfaultless : (repaired before).session.transport.Faultless := ⟨rfl, rfl, rfl, rfl⟩
    have hqueued : (repaired before).session.transport.stream ++ Move.bytes [] =
        bytes ++ Response.captureDone.frame.toBytes := (List.append_nil _).trans hstream
    obtain ⟨running, trailer, idle, whole, hfollow, hwhole⟩ :=
      comesTo_of_start hfaultless hpending hstart' hreads.conclusive hreason hqueued hextra
    refine ⟨running, trailer, idle, whole, hfollow, hwhole.delivered, ?_⟩
    intro n
    have hnone : (before.withTransferPool poolSize bufferSize).session.transport.pending = [] :=
      hpending
    have hfollows := (Controller.follows_start hnone hstart).performAll_polls
      (performAll_polls started n)
    exact cutShort_of_follows hwidth hencode hstream hwhole hfollows
  · intro error
    refine ⟨_, Controller.start_withShutdownFailure hstart error, ?_⟩
    exact follow_withShutdownFailure started error

end

/-! ## Two captures -/

/-- A device with two records queued, which is told that this read fails and that this buffer is
refused. -/
def faulty (read : Nat) (error : TransferError) (buffer : Nat) : Rehearsing :=
  (opened .lwla1016 0 ([1, 128, 4, 0, 5, 0, 6, 0] ++ Response.captureDone.frame.toBytes)).mapTransport
    fun d => (d.failCompletion read error).failSubmission buffer

/-- The second read stalls, once the records are delivered. -/
theorem cut_short_by_stall :
    ∃ started, ((faulty 1 .stall 3).withTransferPool 2 8).start = some (.ok (), started) ∧
      (follow started (List.replicate 3 .poll)).2.sink.trailer =
        some ⟨2, .aborted (.transfer .stall)⟩ ∧
      (∃ started' running trailer idle whole,
        ((repaired (faulty 1 .stall 3)).withTransferPool 2 8).start = some (.ok (), started') ∧
        follow started' (List.replicate 14 .poll) =
          (List.replicate running .running ++ .finished trailer :: List.replicate idle .idle,
            whole) ∧
        CutShort (faulty 1 .stall 3) [.records [5, 6]] whole.sink
          (started.callsAll (List.replicate 3 .poll))
          (follow started (List.replicate 3 .poll)).2) ∧
      ∃ refusing device,
        (((faulty 1 .stall 3).mapTransport
          (SimulatedDevice.withShutdownFailure (some .disconnected))).withTransferPool 2 8).start =
            some (.ok (), refusing) ∧
        follow refusing (List.replicate 3 .poll) =
          ((follow started (List.replicate 3 .poll)).1,
            (follow started (List.replicate 3 .poll)).2.withTransport device) := by
  obtain ⟨started, hstart, htrailer⟩ : ∃ started,
      ((faulty 1 .stall 3).withTransferPool 2 8).start = some (.ok (), started) ∧
        (follow started (List.replicate 3 .poll)).2.sink.trailer =
          some ⟨2, .aborted (.transfer .stall)⟩ := ⟨_, rfl, by decide +kernel⟩
  have hencode : Script.encode (faulty 1 .stall 3).session.model.recordWidth [.records [5, 6]] =
      some [1, 128, 4, 0, 5, 0, 6, 0] := by decide +kernel
  obtain ⟨⟨started', hstart', hall⟩, hrefusing⟩ :=
    failures_cut_short (by decide) hencode rfl rfl hstart
  obtain ⟨running, trailer, idle, whole, hfollow, -, hcut⟩ := hall 14 (by decide)
  obtain ⟨refusing, hstart'', hsame⟩ := hrefusing (some .disconnected)
  obtain ⟨device, hdevice⟩ := hsame 3
  exact ⟨started, hstart, htrailer, ⟨started', running, trailer, idle, whole, hstart', hfollow,
    hcut 3⟩, refusing, device, hstart'', hdevice⟩

/-- **The first failure does not count** if it says that the read was cancelled: the first read is
only parked for it, and then the capture is aborted because the buffer of the second is refused. -/
theorem aborted_for_second_failure :
    Script.encode (faulty 0 .cancelled 2).session.model.recordWidth [.records [5, 6]] =
        some [1, 128, 4, 0, 5, 0, 6, 0] ∧
      ∃ started, ((faulty 0 .cancelled 2).withTransferPool 2 8).start = some (.ok (), started) ∧
        failuresSeen (started.callsAll (List.replicate 2 .poll)) = [.cancelled, .fault] ∧
        (follow started (List.replicate 2 .poll)).2.sink.trailer =
          some ⟨2, .aborted (.transfer .fault)⟩ := by
  refine ⟨?_, _, rfl, ?_, ?_⟩
  · decide +kernel
  · decide +kernel
  · decide +kernel

end LogicAnalyzer.Rehearsal
