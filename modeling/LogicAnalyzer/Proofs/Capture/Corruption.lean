import LogicAnalyzer.Proofs.Capture.Start
import LogicAnalyzer.Proofs.Stream.BadFrames

/-!
# Captures of corrupt streams

A device streams a script, then a corrupt frame, and then anything.  Wherever the reads cut the
frame, and whatever shares a read with it, the capture is aborted for it with everything that
stands in front of it delivered, and nothing that stands behind.

## Main results

* `Rehearsal.aborted_at_corruption`: a corrupt stream ends the capture at the corruption
-/

namespace LogicAnalyzer.Rehearsal

/-- **A corrupt stream ends the capture at the corruption.**  Let a capture start on a faultless
device, with any number and size of reads.  A script for its model with fewer records than are
wanted, a corrupt frame and any further bytes are queued, before the start or after it and with
polls in between.  Then enough further polls bring the capture to its end: it has delivered the
records and the triggers of the script, and was aborted for what is wrong with the frame. -/
theorem aborted_at_corruption {before started : Rehearsing} {poolSize bufferSize : Nat}
    (script : List StreamPart) {bad : List UInt8} {cause : Corruption} (rest : List UInt8)
    (hchannels : 1 ≤ before.session.model.channelCount ∧ before.session.model.channelCount ≤ 64)
    (hlimit : before.session.sampleLimit = 0 ∨
      (Script.samples script).length < before.session.sampleLimit.toNat)
    (hbad : BadFrame before.session.model.recordWidth bad cause)
    (hfaultless : before.session.transport.Faultless)
    (hpending : before.session.transport.pending = [])
    (hstart : (before.withTransferPool poolSize bufferSize).start = some (.ok (), started)) :
    ∃ bytes, Script.encode before.session.model.recordWidth script = some bytes ∧
      ∀ (moves : List Move) (extra : Nat),
        before.session.transport.stream ++ Move.bytes moves = bytes ++ (bad ++ rest) →
        (bytes ++ (bad ++ rest)).length + max poolSize 1 ≤ extra →
        ∃ running trailer idle after,
          follow started (moves ++ List.replicate extra .poll) =
            (List.replicate running .running ++ .finished trailer :: List.replicate idle .idle,
              after) ∧
          ComesTo started
            { samples := (Script.samples script).map
                (Record.cut before.session.model.recordWidth before.session.masks.channels)
              triggers := Script.triggers 0 script
              reason := some (.aborted (.corruption cause)) }
            trailer after := by
  have hwidth := recordWidth_bounds hchannels
  obtain ⟨bytes, hencode⟩ := Script.exists_encode hwidth.1 hwidth.2 script
  have hreads : StreamDecoder.Reads before.session.model.recordWidth before.session.masks.channels
      before.session.sampleLimit bytes _ _ := .of_script hwidth.2 hencode
  have htime : inTime before.session.sampleLimit (Script.samples script).length = true := by
    simpa [inTime] using hlimit
  have hfeed := hreads.corrupt hwidth.1 hbad rest
  rw [within_of_inTime htime, filter_inTime_triggers htime, htime, Bool.not_true] at hfeed
  have houtcome : (newDecoder before).outcome (bytes ++ (bad ++ rest)) =
      { samples := (Script.samples script).map
          (Record.cut before.session.model.recordWidth before.session.masks.channels)
        triggers := Script.triggers 0 script
        reason := some (.aborted (.corruption cause)) } := by
    simp only [newDecoder, StreamDecoder.outcome, hfeed, Decoded.reason]
  have hconclusive : (newDecoder before).Conclusive (bytes ++ (bad ++ rest)) := by
    apply StreamDecoder.conclusive_of_streams <;> rw [newDecoder, hfeed]
  refine ⟨bytes, hencode, ?_⟩
  intro moves extra hmoves hextra
  rw [← houtcome]
  exact comesTo_of_start hfaultless hpending hstart hconclusive (by simp [houtcome]) hmoves hextra

/-- Two samples with a trigger between them, then a notice that announces a payload, and a sample
behind it, read five bytes at a time. -/
theorem aborted_at_announced_payload :
    ∃ started, ((opened .lwla1016 3 []).withTransferPool 2 5).start = some (.ok (), started) ∧
      ∃ bytes, Script.encode 2 [.records [5], .trigger, .records [6]] = some bytes ∧
        ∃ running trailer idle after,
          follow started ([.queue bytes, .poll, .queue (header Response.captureDoneOpcode 1 ++
                (Response.samples [7, 0]).frame.toBytes)] ++
              List.replicate ((bytes ++ (header Response.captureDoneOpcode 1 ++
                (Response.samples [7, 0]).frame.toBytes)).length + 2) .poll) =
            (List.replicate running .running ++ .finished trailer :: List.replicate idle .idle,
              after) ∧
          ComesTo started
            { samples := [5, 6]
              triggers := [1]
              reason := some (.aborted (.corruption
                (.unexpectedPayload Response.captureDoneOpcode))) }
            trailer after := by
  obtain ⟨started, hstart⟩ : ∃ started,
      ((opened .lwla1016 3 []).withTransferPool 2 5).start = some (.ok (), started) := ⟨_, rfl⟩
  have hchannels : 1 ≤ (opened .lwla1016 3 []).session.model.channelCount ∧
      (opened .lwla1016 3 []).session.model.channelCount ≤ 64 := by decide
  have hlimit : (opened .lwla1016 3 []).session.sampleLimit = 0 ∨
      (Script.samples [.records [5], .trigger, .records [6]]).length <
        (opened .lwla1016 3 []).session.sampleLimit.toNat := .inr (by decide)
  obtain ⟨bytes, hencode, hall⟩ := aborted_at_corruption [.records [5], .trigger, .records [6]]
    (Response.samples [7, 0]).frame.toBytes hchannels hlimit
    (.unexpectedPayload Response.captureDoneOpcode 1 (.inr rfl) (by decide))
    ⟨rfl, rfl, rfl, rfl⟩ rfl hstart
  refine ⟨started, hstart, bytes, hencode, hall _ _ ?_ (Nat.le_refl _)⟩
  simp [opened, Controller.new, Session.new, Move.bytes]

end LogicAnalyzer.Rehearsal
