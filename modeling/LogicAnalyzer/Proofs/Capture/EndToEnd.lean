import LogicAnalyzer.Proofs.Capture.Start

/-!
# Captures from end to end

A device streams a script, records with triggers between them, and reports that the capture is
complete.  However its bytes are cut into reads, and whenever they come, the capture ends with
just the records that are wanted, the triggers among them, and a trailer that says so.

## Main definitions

* `Rehearsal.Captured`: a capture of a script has ended as it should

## Main results

* `Rehearsal.captured_of_script`: captures of scripts end as they should
-/

namespace LogicAnalyzer.Rehearsal

/-- **A capture of a script has ended as it should.**  It was started on `before`, led to `started`,
and is over with this trailer in `after`. -/
structure Captured (before started : Rehearsing) (script : List StreamPart)
    (trailer : StreamTrailer) (after : Rehearsing) : Prop where
  /-- The records up to the limit, cut to the bits of a record and to the recorded channels. -/
  samples : after.sink.samples =
    (within before.session.sampleLimit (Script.samples script)).map
      (Record.cut before.session.model.recordWidth before.session.masks.channels)
  /-- The triggers before the limit, each by the number of records before it. -/
  triggers : after.sink.triggers =
    (Script.triggers 0 script).filter (inTime before.session.sampleLimit)
  delivered : after.sink.trailer = some trailer
  count : trailer.samples =
    if before.session.sampleLimit = 0 then (Script.samples script).length
    else min before.session.sampleLimit.toNat (Script.samples script).length
  /-- It says whether there were as many records as wanted. -/
  reason : trailer.reason =
    if before.session.sampleLimit ≠ 0 ∧
        before.session.sampleLimit.toNat ≤ (Script.samples script).length then .limitReached
    else .deviceDone
  idle : after.acquisition = none
  status : after.session.status = .inactive
  pending : after.session.transport.pending = []
  /-- Since the start the device accepted one command, which shut it down. -/
  commands : after.session.transport.commands =
    started.session.transport.commands ++ [Command.shutdown.frame]

/-- **Captures of scripts end as they should.**  Let a capture start on a faultless device, with any
number and size of reads.  A script for its model can always be written, and however its bytes and
the notice that the capture is complete are queued, before the start or after it and with polls in
between, enough further polls bring the capture to its end: all polls answer that it is running,
until one that it has finished. -/
theorem captured_of_script {before started : Rehearsing} {poolSize bufferSize : Nat}
    (script : List StreamPart)
    (hchannels : 1 ≤ before.session.model.channelCount ∧ before.session.model.channelCount ≤ 64)
    (hfaultless : before.session.transport.Faultless)
    (hpending : before.session.transport.pending = [])
    (hstart : (before.withTransferPool poolSize bufferSize).start = some (.ok (), started)) :
    ∃ bytes, Script.encode before.session.model.recordWidth script = some bytes ∧
      ∀ (moves : List Move) (extra : Nat),
        before.session.transport.stream ++ Move.bytes moves =
          bytes ++ Response.captureDone.frame.toBytes →
        (bytes ++ Response.captureDone.frame.toBytes).length + max poolSize 1 ≤ extra →
        ∃ running trailer idle after,
          follow started (moves ++ List.replicate extra .poll) =
            (List.replicate running .running ++ .finished trailer :: List.replicate idle .idle,
              after) ∧
          Captured before started script trailer after := by
  have hwidth : 0 < before.session.model.recordWidth ∧
      before.session.model.recordWidth ≤ Record.maxWidth := by
    rw [Model.recordWidth, Record.maxWidth]
    omega
  obtain ⟨bytes, hencode⟩ := Script.exists_encode hwidth.1 hwidth.2 script
  have hnil : StreamDecoder.Reads before.session.model.recordWidth before.session.masks.channels
      before.session.sampleLimit [] [] [] := .nil
  have hreads := hnil.script hwidth.2 hencode
  rw [List.nil_append, List.nil_append, List.nil_append, List.length_nil] at hreads
  have hpool : 0 < (before.withTransferPool poolSize bufferSize).poolSize :=
    Nat.lt_of_lt_of_le Nat.one_pos (Nat.le_max_right ..)
  obtain ⟨⟨a, hstreaming⟩, hstream, -⟩ :=
    streaming_of_start (c := before.withTransferPool poolSize bufferSize) hfaultless hpending hpool
      hstart
  have hphase : Phase _ before.session.transport.stream started [] :=
    .streaming 0 hstreaming hstream
  have houtcome := hreads.outcome
  have hreason : ((newDecoder before).outcome
      (bytes ++ Response.captureDone.frame.toBytes)).reason ≠ none := by
    rw [newDecoder, houtcome]
    simp
  refine ⟨bytes, hencode, ?_⟩
  intro moves extra hmoves hextra
  obtain ⟨running, trailer, idle, after, fed, hfollow, hended, hfed⟩ :=
    hphase.ended_of_conclusive hmoves hreads.conclusive hreason hextra
  refine ⟨running, trailer, idle, after, hfollow, ?_⟩
  have hsame := hfed.trans houtcome
  have hsamples := congrArg Outcome.samples hsame
  have hemitted := hended.samples.trans (StreamDecoder.feed_follows _ fed).emitted
  constructor
  · exact hended.sink.samples.trans hsamples
  · exact hended.sink.triggers.trans (congrArg Outcome.triggers hsame)
  · exact hended.sink.trailer
  · calc trailer.samples = 0 + (StreamDecoder.outcome _ fed).samples.length := hemitted
      _ = (within before.session.sampleLimit (Script.samples script)).length := by
        rw [Nat.zero_add, hsamples, List.length_map]
      _ = _ := length_within ..
  · have hwhy := Option.some.inj (hended.reason.symm.trans (congrArg Outcome.reason hsame))
    rw [hwhy]
    by_cases hreached : before.session.sampleLimit ≠ 0 ∧
        before.session.sampleLimit.toNat ≤ (Script.samples script).length
    · rw [if_pos hreached, inTime_eq_false.mpr hreached, if_neg Bool.false_ne_true]
    · have htime := (Bool.not_eq_false _).mp (mt inTime_eq_false.mp hreached)
      rw [if_neg hreached, htime, if_pos rfl]
  · exact hended.idle
  · exact hended.status
  · exact hended.pending
  · exact hended.commands

/-- Three samples with a trigger behind the second, read three bytes at a time, of which one sample
is wanted. -/
theorem captured_of_three_records :
    ∃ started, ((opened .lwla1016 1 []).withTransferPool 2 3).start = some (.ok (), started) ∧
      ∃ bytes, Script.encode 2 [.records [5, 6], .trigger, .records [7]] = some bytes ∧
        ∃ running trailer idle after,
          follow started ([.queue bytes, .poll, .queue Response.captureDone.frame.toBytes] ++
              List.replicate ((bytes ++ Response.captureDone.frame.toBytes).length + 2) .poll) =
            (List.replicate running .running ++ .finished trailer :: List.replicate idle .idle,
              after) ∧
          Captured (opened .lwla1016 1 []) started [.records [5, 6], .trigger, .records [7]] trailer
            after := by
  obtain ⟨started, hstart⟩ : ∃ started,
      ((opened .lwla1016 1 []).withTransferPool 2 3).start = some (.ok (), started) := ⟨_, rfl⟩
  have hchannels : 1 ≤ (opened .lwla1016 1 []).session.model.channelCount ∧
      (opened .lwla1016 1 []).session.model.channelCount ≤ 64 := by decide
  obtain ⟨bytes, hencode, hall⟩ := captured_of_script [.records [5, 6], .trigger, .records [7]]
    hchannels ⟨rfl, rfl, rfl, rfl⟩ rfl hstart
  refine ⟨started, hstart, bytes, hencode, hall _ _ ?_ (Nat.le_refl _)⟩
  simp [opened, Controller.new, Session.new, Move.bytes]

end LogicAnalyzer.Rehearsal
