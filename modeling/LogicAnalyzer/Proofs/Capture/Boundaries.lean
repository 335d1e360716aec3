import LogicAnalyzer.Proofs.Capture.Start

/-!
# When the boundaries of reads do not matter

A capture ends with the first read that gives it a reason to, and of several reasons in that
read the strongest counts.  So it matters how much of the stream shares that read: samples
behind the notice that the capture is complete are still delivered, and a corrupt frame behind
the limit aborts the capture, if they come with the same read, and only then.

It does not matter if the stream is conclusive.  This is exactly the condition: on any other
stream two sizes of buffers make a difference.

## Main definitions

* `Rehearsal.Finishes`: a capture with reads of some number and size ends by polling

## Main results

* `Rehearsal.boundaries_matter_unless_conclusive`: for conclusive streams, and for no others, the
  boundaries do not matter
-/

namespace LogicAnalyzer.Rehearsal

variable {before after : Rehearsing} {poolSize bufferSize : Nat} {trailer : StreamTrailer}

/-- **A capture ends by polling**: it was started on `before` with reads of this number and size,
and polled until it was finished. -/
def Finishes (before : Rehearsing) (poolSize bufferSize : Nat) (trailer : StreamTrailer)
    (after : Rehearsing) : Prop :=
  ∃ started limit polls,
    (before.withTransferPool poolSize bufferSize).start = some (.ok (), started) ∧
    started.pollUntil limit = (polls, .finished trailer, after)

/-! ## Polling to the end -/

/-- A capture that is polled until it is finished has ended. -/
theorem Phase.ended_of_pollUntil {s : Rehearsal} {queued : List UInt8} {c : Rehearsing}
    {answers : List Progress} (h : s.Phase queued c answers) {limit polls : Nat}
    (hpoll : c.pollUntil limit = (polls, .finished trailer, after)) :
    ∃ fed, s.Ended fed trailer after ∧ fed <+: queued := by
  induction limit generalizing c answers polls with
  | zero => cases hpoll
  | succ limit ih =>
    have hphase := h.poll.1
    unfold Controller.pollUntil at hpoll
    split at hpoll
    · rename_i c₁ heq
      rw [heq] at hphase
      rcases hrest : c₁.pollUntil limit with ⟨polls', progress, c₂⟩
      rw [hrest] at hpoll
      cases hpoll
      exact ih hphase hrest
    · rename_i progress c₁ _ heq
      rw [heq] at hphase
      cases hpoll
      have hmem : Progress.finished trailer ∈ answers ++ [.finished trailer] := by simp
      generalize answers ++ [.finished trailer] = all at hphase hmem
      cases hphase with
      | streaming n h hfed => cases List.eq_of_mem_replicate hmem
      | draining n h hfed hwaiting hreads => cases List.eq_of_mem_replicate hmem
      | @ended fed trailer' n k h hfed =>
        rcases List.mem_append.mp hmem with hmem | hmem
        · cases List.eq_of_mem_replicate hmem
        · rcases List.mem_cons.mp hmem with heq | hmem
          · cases heq
            exact ⟨fed, h, ⟨_, hfed⟩⟩
          · cases List.eq_of_mem_replicate hmem

/-- **What a capture comes to** is what some bytes at the beginning of the stream amount to. -/
theorem Finishes.outcome (hfaultless : before.session.transport.Faultless)
    (hpending : before.session.transport.pending = [])
    (h : Finishes before poolSize bufferSize trailer after) :
    ∃ fed, fed <+: before.session.transport.stream ∧
      ((newDecoder before).feed fed).1.reason ≠ none ∧
      (newDecoder before).outcome fed =
        ⟨after.sink.samples, after.sink.triggers, some trailer.reason⟩ ∧
      trailer.samples = after.sink.samples.length := by
  obtain ⟨started, limit, polls, hstart, hpoll⟩ := h
  have hpool : 0 < (before.withTransferPool poolSize bufferSize).poolSize :=
    Nat.lt_of_lt_of_le Nat.one_pos (Nat.le_max_right ..)
  obtain ⟨⟨a, hstreaming⟩, hstream, -⟩ :=
    streaming_of_start (c := before.withTransferPool poolSize bufferSize) hfaultless hpending hpool
      hstart
  have hphase : Phase _ before.session.transport.stream started [] :=
    .streaming 0 hstreaming hstream
  obtain ⟨fed, hended, hfed⟩ := hphase.ended_of_pollUntil hpoll
  refine ⟨fed, hfed, ?_, ?_, ?_⟩
  · intro hnone
    cases hended.reason.symm.trans hnone
  · rw [hended.sink.samples, hended.sink.triggers, ← hended.reason]
    rfl
  · rw [hended.samples, hended.sink.samples, (StreamDecoder.feed_follows _ fed).emitted]
    exact Nat.zero_add _

/-- Of a conclusive stream this is what all of it amounts to. -/
theorem Finishes.outcome_of_conclusive (hfaultless : before.session.transport.Faultless)
    (hpending : before.session.transport.pending = [])
    (hconclusive : (newDecoder before).Conclusive before.session.transport.stream)
    (h : Finishes before poolSize bufferSize trailer after) :
    (newDecoder before).outcome before.session.transport.stream =
        ⟨after.sink.samples, after.sink.triggers, some trailer.reason⟩ ∧
      trailer.samples = after.sink.samples.length := by
  obtain ⟨fed, hfed, hreason, houtcome, hcount⟩ := h.outcome hfaultless hpending
  exact ⟨(hconclusive fed hfed hreason).symm.trans houtcome, hcount⟩

/-- With one read at a time, a buffer that takes just some bytes that give a reason to end makes
these bytes what the capture comes to. -/
theorem finishes_of_reason (hfaultless : before.session.transport.Faultless)
    (hpending : before.session.transport.pending = [])
    (hstarts : ∃ poolSize bufferSize started,
      (before.withTransferPool poolSize bufferSize).start = some (.ok (), started))
    {seen : List UInt8} (hseen : seen <+: before.session.transport.stream)
    (hreason : ((newDecoder before).feed seen).1.reason ≠ none)
    (hsize : seen.length ≤ TransferPool.maxAllocation) :
    ∃ trailer after, Finishes before 1 seen.length trailer after ∧
      (newDecoder before).outcome seen =
        ⟨after.sink.samples, after.sink.triggers, some trailer.reason⟩ := by
  obtain ⟨poolSize, bufferSize, started', hstart'⟩ := hstarts
  obtain ⟨e, transport, hresult, -⟩ | ⟨-, hactive, hidle, pool, commands, -, -, hprepare, -⟩ :=
    Controller.start_cases hstart'
  · cases hresult
  obtain ⟨-, configure, arm, hconfigure, harm, -⟩ := Controller.prepare_eq_ok.mp hprepare
  obtain ⟨pool₁, hallocate⟩ := TransferPool.allocate_one hsize
  obtain ⟨started, hstart⟩ :=
    Controller.start_of_faultless (c := before.withTransferPool 1 seen.length) hfaultless hpending
      hactive hidle
      (Controller.prepare_eq_ok.mpr ⟨hallocate, configure, arm, hconfigure, harm, rfl⟩)
  obtain ⟨⟨a, hstreaming⟩, hstream, hreads⟩ :=
    streaming_of_start (c := before.withTransferPool 1 seen.length) hfaultless hpending Nat.one_pos
      hstart
  have hpos : 0 < seen.length := by
    apply List.length_pos_iff.mpr
    intro hnil
    apply hreason
    rw [hnil, newDecoder, StreamDecoder.feed_start_nil]
    rfl
  have hchunk : seen = started.session.transport.stream.take (max seen.length 1) := by
    rw [hstream, Nat.max_eq_left hpos]
    exact List.prefix_iff_eq_take.mp hseen
  have hne : started.session.transport.stream ≠ [] := by
    intro hnil
    rw [hnil, List.take_nil] at hchunk
    rw [hchunk] at hpos
    exact Nat.lt_irrefl 0 hpos
  obtain ⟨c₁, hpoll, -, ⟨a₁, hagain⟩ | ⟨hlength, a₁, hdraining⟩⟩ :=
    hstreaming.poll hreads hne hchunk
  · exact absurd hagain.reason hreason
  · obtain ⟨trailer, hanswer, hended, -⟩ :=
      hdraining.finishIfDrained (List.eq_nil_of_length_eq_zero hlength)
    refine ⟨trailer, c₁.finishIfDrained.2, ⟨started, 1, 1, hstart, ?_⟩, ?_⟩
    · have heq : started.poll = (.finished trailer, c₁.finishIfDrained.2) := by
        rw [hpoll, ← hanswer]
      simp only [Controller.pollUntil, heq]
    · rw [hended.sink.samples, hended.sink.triggers, ← hended.reason]
      rfl

/-! ## Two captures of one stream -/

/-- Two captures have delivered the same samples and triggers, and the same trailer. -/
structure Agree (trailer : StreamTrailer) (after : Rehearsing) (trailer' : StreamTrailer)
    (after' : Rehearsing) : Prop where
  samples : after.sink.samples = after'.sink.samples
  triggers : after.sink.triggers = after'.sink.triggers
  trailer : trailer = trailer'

/-- **When the boundaries of reads do not matter.**  Let a faultless device have a stream queued.
If the stream is conclusive, all captures of it that end by polling agree, whatever number and
size of reads they use.  If it is not, and fits in memory, and a capture can be started at all, then
there are two that do not agree. -/
theorem boundaries_matter_unless_conclusive (hfaultless : before.session.transport.Faultless)
    (hpending : before.session.transport.pending = []) :
    ((newDecoder before).Conclusive before.session.transport.stream →
      ∀ poolSize bufferSize poolSize' bufferSize' trailer after trailer' after',
        Finishes before poolSize bufferSize trailer after →
        Finishes before poolSize' bufferSize' trailer' after' →
        Agree trailer after trailer' after') ∧
    (¬(newDecoder before).Conclusive before.session.transport.stream →
      before.session.transport.stream.length ≤ TransferPool.maxAllocation →
      (∃ poolSize bufferSize started,
        (before.withTransferPool poolSize bufferSize).start = some (.ok (), started)) →
      ∃ bufferSize bufferSize' trailer after trailer' after',
        Finishes before 1 bufferSize trailer after ∧
        Finishes before 1 bufferSize' trailer' after' ∧
        ¬Agree trailer after trailer' after') := by
  refine ⟨?_, ?_⟩
  · intro hconclusive poolSize bufferSize poolSize' bufferSize' trailer after trailer' after' h h'
    obtain ⟨houtcome, hcount⟩ := h.outcome_of_conclusive hfaultless hpending hconclusive
    obtain ⟨houtcome', hcount'⟩ := h'.outcome_of_conclusive hfaultless hpending hconclusive
    have hall := houtcome.symm.trans houtcome'
    simp only [Outcome.mk.injEq, Option.some.injEq] at hall
    obtain ⟨hsamples, htriggers, hwhy⟩ := hall
    refine ⟨hsamples, htriggers, ?_⟩
    cases trailer
    cases trailer'
    rw [StreamTrailer.mk.injEq]
    exact ⟨hcount.trans ((congrArg List.length hsamples).trans hcount'.symm), hwhy⟩
  -- one buffer takes the bytes that amount to something else, the other takes the whole stream
  · intro hnot hsize hstarts
    obtain ⟨seen, hseen⟩ := Classical.not_forall.mp hnot
    obtain ⟨⟨more, hmore⟩, hseen⟩ := Classical.not_imp.mp hseen
    obtain ⟨hreason, hdiffer⟩ := Classical.not_imp.mp hseen
    have hwhole := StreamDecoder.reason_append_ne_none hreason more
    rw [hmore] at hwhole
    have hshort := Nat.le_trans (List.IsPrefix.length_le ⟨more, hmore⟩) hsize
    obtain ⟨trailer, after, hfinishes, houtcome⟩ :=
      finishes_of_reason hfaultless hpending hstarts ⟨more, hmore⟩ hreason hshort
    obtain ⟨trailer', after', hfinishes', houtcome'⟩ :=
      finishes_of_reason hfaultless hpending hstarts (List.prefix_refl _) hwhole hsize
    refine ⟨_, _, trailer, after, trailer', after', hfinishes, hfinishes', fun hagree => hdiffer ?_⟩
    rw [houtcome, houtcome', hagree.samples, hagree.triggers, hagree.trailer]

/-! ## A stream for which they matter -/

/-- One sample, and behind it a frame with an unknown operation code. -/
def corruptBehindSample : List UInt8 := [0x01, 0x80, 0x02, 0x00, 0x05, 0x00, 0x99, 0x00, 0x00, 0x00]

/-- A device that has it to stream, and of which one sample is wanted. -/
def oneSampleWanted : Rehearsing := opened .lwla1016 1 corruptBehindSample

theorem reason_take_corruptBehindSample :
    ((newDecoder oneSampleWanted).feed (corruptBehindSample.take 6)).1.reason =
      some .limitReached := by
  cbv

theorem reason_corruptBehindSample :
    ((newDecoder oneSampleWanted).feed corruptBehindSample).1.reason =
      some (.aborted (.corruption (.unknownOpcode 0x99))) := by
  cbv

theorem not_conclusive_corruptBehindSample :
    ¬(newDecoder oneSampleWanted).Conclusive corruptBehindSample := by
  intro hconclusive
  have hreason := reason_take_corruptBehindSample
  have hsame := hconclusive _ (List.take_prefix 6 _) (by simp [hreason])
  have hwhole := (congrArg Outcome.reason hsame).trans reason_corruptBehindSample
  have hboth := hreason.symm.trans hwhole
  simp at hboth

theorem oneSampleWanted_faultless : oneSampleWanted.session.transport.Faultless :=
  ⟨rfl, rfl, rfl, rfl⟩

theorem oneSampleWanted_starts : ∃ poolSize bufferSize started,
    (oneSampleWanted.withTransferPool poolSize bufferSize).start = some (.ok (), started) :=
  ⟨1, 1, _, rfl⟩

/-- Two samples, the trigger, and a third sample. -/
def triggerInside : List StreamPart := [.records [1, 6], .trigger, .records [5]]

/-- A device that has them to stream, and the notice that this is all. -/
def threeSamples : Rehearsing :=
  opened .lwla1016 0 ([1, 128, 4, 0, 1, 0, 6, 0, 2, 128, 0, 0, 1, 128, 2, 0, 5, 0] ++
    Response.captureDone.frame.toBytes)

theorem conclusive_threeSamples :
    (newDecoder threeSamples).Conclusive threeSamples.session.transport.stream := by
  have hencode : Script.encode 2 triggerInside =
      some [1, 128, 4, 0, 1, 0, 6, 0, 2, 128, 0, 0, 1, 128, 2, 0, 5, 0] := by decide +kernel
  exact (StreamDecoder.Reads.of_script (by decide) hencode).conclusive

/-- A capture that is started, and has finished after some polls, ends by polling. -/
theorem exists_finishes (limit : Nat) {trailer : StreamTrailer}
    (h : ((before.withTransferPool poolSize bufferSize).start.map fun started =>
      (started.1, (started.2.pollUntil limit).2.1)) = some (.ok (), .finished trailer)) :
    ∃ after, Finishes before poolSize bufferSize trailer after := by
  obtain ⟨⟨result, started⟩, hstart, hview⟩ := Option.map_eq_some_iff.mp h
  obtain ⟨rfl, hfinished⟩ := Prod.mk.inj hview
  refine ⟨(started.pollUntil limit).2.2, started, limit, (started.pollUntil limit).1, hstart, ?_⟩
  rw [← hfinished]

/-- Two captures of the stream that is corrupt behind the sample do not agree.  Two captures of the
three samples do, one with a small buffer and one with three larger ones. -/
theorem boundaries_matter_oneSampleWanted :
    (∃ bufferSize bufferSize' trailer after trailer' after',
      Finishes oneSampleWanted 1 bufferSize trailer after ∧
      Finishes oneSampleWanted 1 bufferSize' trailer' after' ∧
      ¬Agree trailer after trailer' after') ∧
    ∃ after after', Finishes threeSamples 1 4 ⟨3, .deviceDone⟩ after ∧
      Finishes threeSamples 3 16 ⟨3, .deviceDone⟩ after' ∧
      Agree ⟨3, .deviceDone⟩ after ⟨3, .deviceDone⟩ after' := by
  have hsize : corruptBehindSample.length ≤ TransferPool.maxAllocation := by decide
  constructor
  · have hcorrupt := boundaries_matter_unless_conclusive oneSampleWanted_faultless rfl
    exact hcorrupt.2 not_conclusive_corruptBehindSample hsize oneSampleWanted_starts
  · have hfaultless : threeSamples.session.transport.Faultless := ⟨rfl, rfl, rfl, rfl⟩
    have hcomplete := boundaries_matter_unless_conclusive hfaultless rfl
    obtain ⟨after, hfinishes⟩ : ∃ after, Finishes threeSamples 1 4 ⟨3, .deviceDone⟩ after :=
      exists_finishes 10 (by decide +kernel)
    obtain ⟨after', hfinishes'⟩ : ∃ after, Finishes threeSamples 3 16 ⟨3, .deviceDone⟩ after :=
      exists_finishes 10 (by decide +kernel)
    exact ⟨after, after', hfinishes, hfinishes',
      hcomplete.1 conclusive_threeSamples 1 4 3 16 _ _ _ _ hfinishes hfinishes'⟩

/-- **The boundaries of reads can matter.**  With a buffer for the sample the capture of that stream
ends because the limit is reached, with one for all of the stream because it is corrupt. -/
theorem limitReached_and_aborted :
    ∃ trailer after trailer' after',
      Finishes oneSampleWanted 1 6 trailer after ∧
      Finishes oneSampleWanted 1 10 trailer' after' ∧
      trailer.reason = .limitReached ∧
      trailer'.reason = .aborted (.corruption (.unknownOpcode 0x99)) := by
  have hreason := reason_take_corruptBehindSample
  have hreason' := reason_corruptBehindSample
  have hsome := Option.ne_none_iff_exists'.mpr ⟨_, hreason⟩
  have hsome' := Option.ne_none_iff_exists'.mpr ⟨_, hreason'⟩
  obtain ⟨trailer, after, hfinishes, houtcome⟩ :=
    finishes_of_reason oneSampleWanted_faultless rfl oneSampleWanted_starts
      (List.take_prefix 6 _) hsome (by decide)
  obtain ⟨trailer', after', hfinishes', houtcome'⟩ :=
    finishes_of_reason oneSampleWanted_faultless rfl oneSampleWanted_starts
      (List.prefix_refl _) hsome' (by decide)
  refine ⟨trailer, after, trailer', after', hfinishes, hfinishes', ?_, ?_⟩
  · exact Option.some.inj ((congrArg Outcome.reason houtcome).symm.trans hreason)
  · exact Option.some.inj ((congrArg Outcome.reason houtcome').symm.trans hreason')

end LogicAnalyzer.Rehearsal
