import LogicAnalyzer.Proofs.Capture.Transitions
import LogicAnalyzer.Proofs.Stream.Script

/-!
# What a stream amounts to

Once a stream gives a reason to end the capture, more of it can change the reason to a stronger
one, and can add samples.  A stream is conclusive if neither happens: from its first reason on
it amounts to the same.  Scripts that end with the notice that the capture is complete are
conclusive.  A stream with a corrupt frame behind the limit is not, nor is one with samples
behind that notice.

## Main definitions

* `StreamDecoder.outcome`: what some bytes amount to
* `StreamDecoder.Conclusive`: they amount to the same from their first reason on

## Main results

* `StreamDecoder.reason_append_ne_none`: a reason does not go away
* `StreamDecoder.Reads.outcome`, `StreamDecoder.Reads.conclusive`: complete scripts
-/

namespace LogicAnalyzer

/-- If the first chunk gives no reason, the second decides. -/
theorem Decoded.reason_append {x : Decoded} (h : x.reason = none) (y : Decoded) :
    (x ++ y).reason = y.reason := by
  obtain ⟨-, hlimit, hdone⟩ := reason_eq_none.mp h
  simp only [Decoded.reason, Decoded.limitReached_append, Decoded.captureDone_append,
    Decoded.corruption_append, hlimit, hdone, Bool.false_or]

/-- What a capture comes to. -/
structure Outcome where
  samples : List UInt64
  /-- For each trigger the number of samples before it. -/
  triggers : List Nat
  reason : Option EndReason
deriving DecidableEq, Repr

namespace StreamDecoder

variable {d d' : StreamDecoder} {out : Decoded} {bytes x y : List UInt8}

/-- What some bytes amount to. -/
def outcome (d : StreamDecoder) (bytes : List UInt8) : Outcome :=
  ⟨(d.feed bytes).1.samples, (d.feed bytes).1.triggers, (d.feed bytes).1.reason⟩

/-- **Conclusive bytes** amount to the same from their first reason on. -/
def Conclusive (d : StreamDecoder) (stream : List UInt8) : Prop :=
  ∀ seen, seen <+: stream → (d.feed seen).1.reason ≠ none → d.outcome seen = d.outcome stream

/-! ## A reason does not go away -/

/-- The frame at which decoding stopped is what is left over. -/
theorem nextFrame_of_corruption {cause : Corruption}
    (h : (d.decodeFrames {} bytes).2.corruption = some cause) :
    (d.decodeFrames {} bytes).1.nextFrame {} (d.decodeFrames {} bytes).1.residue =
      .error (.corrupt cause) := by
  induction d, bytes using frames_induction with
  | truncated d bytes needed available hnext =>
    rw [decodeFrames_of_truncated hnext] at h
    cases h
  | corrupt d bytes cause' hnext =>
    rw [decodeFrames_of_corrupt hnext] at h ⊢
    cases h
    rw [nextFrame_residue, hnext]
    rfl
  | frame d bytes d' out rest hnext ih =>
    rw [decodeFrames_cons hnext] at h ⊢
    exact ih h

/-- Behind a corrupt frame nothing is decoded. -/
theorem feed_eq_of_corruption {cause : Corruption} (h : (d.feed x).1.corruption = some cause)
    (y : List UInt8) : ((d.feed x).2.feed y).1 = { corruption := some cause } := by
  have hnext := nextFrame_append_of_corrupt (nextFrame_of_corruption h) y
  simp only [feed] at hnext ⊢
  rw [decodeFrames_of_corrupt hnext]
  exact Decoded.ext rfl rfl (Bool.not_and_self _) rfl rfl

theorem corruption_feed_append {cause : Corruption} (h : (d.feed x).1.corruption = some cause)
    (y : List UInt8) : (d.feed (x ++ y)).1.corruption = some cause := by
  rw [feed_append, Decoded.corruption_append, feed_eq_of_corruption h y]

/-- **A reason does not go away**, though a stronger one may take its place. -/
theorem reason_append_ne_none (h : (d.feed x).1.reason ≠ none) (y : List UInt8) :
    (d.feed (x ++ y)).1.reason ≠ none := by
  cases hboth : (d.feed (x ++ y)).1.corruption with
  | some cause => simp [Decoded.reason, hboth]
  | none =>
    have hfirst : (d.feed x).1.corruption = none := by
      apply Option.eq_none_iff_forall_ne_some.mpr
      intro cause hcause
      rw [corruption_feed_append hcause y] at hboth
      cases hboth
    simp only [Decoded.reason, hfirst, hboth] at h ⊢
    simp only [feed_append, Decoded.limitReached_append, Decoded.captureDone_append]
    split at h
    · rename_i hlimit
      simp [hlimit]
    · split at h
      · rename_i hdone
        simp only [hdone, Bool.true_or, if_true]
        split <;> simp
      · exact absurd rfl h

/-! ## Behind the limit -/

theorem receive_of_limitReached (hlimit : d.limitReached = true) {response : Response}
    (h : d.receive {} response = .ok (d', out)) : out.samples = [] ∧ out.triggers = [] := by
  cases response with
  | samples payload =>
    have hnone : d.accept payload = [] := by
      simp only [limitReached, Bool.and_eq_true, bne_iff_ne, ne_eq, decide_eq_true_eq] at hlimit
      simp only [accept, wanted, if_neg hlimit.1, Nat.sub_eq_zero_of_le hlimit.2, Nat.min_zero,
        List.take_zero, List.map_nil]
    rw [receive, hnone] at h
    split at h
    · cases h
      exact ⟨rfl, rfl⟩
    · cases h
  | triggered =>
    rw [receive, if_pos hlimit] at h
    cases h
    exact ⟨rfl, rfl⟩
  | captureDone =>
    cases h
    exact ⟨rfl, rfl⟩

/-- Behind the limit nothing is handed out. -/
theorem decodeFrames_of_limitReached (hlimit : d.limitReached = true) (bytes : List UInt8) :
    (d.decodeFrames {} bytes).2.samples = [] ∧ (d.decodeFrames {} bytes).2.triggers = [] := by
  induction d, bytes using frames_induction with
  | truncated d bytes needed available h =>
    rw [decodeFrames_of_truncated h]
    exact ⟨rfl, rfl⟩
  | corrupt d bytes cause h =>
    rw [decodeFrames_of_corrupt h]
    exact ⟨rfl, rfl⟩
  | frame d bytes d' out rest h ih =>
    have hreceive : out.samples = [] ∧ out.triggers = [] := by
      unfold nextFrame at h
      split at h
      · cases h
      · split at h
        · cases h
        · rename_i after heq
          cases h
          exact receive_of_limitReached hlimit heq
    obtain ⟨hsamples, htriggers⟩ := ih ((nextFrame_follows h).1.limitReached hlimit)
    rw [decodeFrames_cons h]
    simp only [Decoded.samples_append, Decoded.triggers_append, hreceive.1, hreceive.2, hsamples,
      htriggers, List.append_nil, and_self]

/-! ## Complete scripts -/

variable {width : Nat} {channels : ChannelSet} {limit : UInt64} {records : List UInt64}
  {triggers : List Nat}

/-- **What a complete script amounts to.** -/
theorem Reads.outcome (h : Reads width channels limit bytes records triggers) :
    (start width channels limit).outcome (bytes ++ Response.captureDone.frame.toBytes) =
      { samples := (within limit records).map (Record.cut width channels)
        triggers := triggers.filter (inTime limit)
        reason := some (if inTime limit records.length then .deviceDone else .limitReached) } := by
  simp only [StreamDecoder.outcome, h.captureDone_feed, Decoded.reason]
  cases inTime limit records.length <;> rfl

/-- A header that is not all there is kept. -/
theorem feed_of_short (hresidue : d.residue = []) (hshort : x.length < Frame.headerLength) :
    d.feed x = ({}, { d with residue := x }) := by
  have hnext : d.nextFrame {} x = .error (.truncated Frame.headerLength x.length) := by
    rw [nextFrame, Response.decode_of_short hshort]
  have hlimit : StreamDecoder.limitReached { d with residue := x } = d.limitReached := rfl
  simp only [feed, hresidue, List.nil_append, decodeFrames_of_truncated hnext, hlimit,
    Bool.not_and_self]

/-- The notice that the capture is complete is not heard before all of it is there. -/
theorem Reads.captureDone_prefix (h : Reads width channels limit bytes records triggers)
    {seen more : List UInt8}
    (hseen : seen ++ more = bytes ++ Response.captureDone.frame.toBytes) (hmore : more ≠ []) :
    ((start width channels limit).feed seen).1.captureDone = false := by
  rcases List.append_eq_append_iff.mp hseen with ⟨rest, rfl, hrest⟩ | ⟨part, rfl, hpart⟩
  · have hdone := h.captureDone
    rw [feed_append, Decoded.captureDone_append, Bool.or_eq_false_iff] at hdone
    exact hdone.1
  · have hshort : part.length < Frame.headerLength := by
      have hlength := congrArg List.length hpart
      rw [List.length_append, Response.length_toBytes_frame, Response.wireLength] at hlength
      have hpos := List.length_pos_iff.mpr hmore
      omega
    rw [feed_append, Decoded.captureDone_append, h.captureDone, feed_of_short h.residue hshort,
      Bool.false_or]

/-- **Complete scripts are conclusive.**  The first reason is the limit, behind which nothing is
handed out, or the notice that the capture is complete, behind which nothing comes. -/
theorem Reads.conclusive (h : Reads width channels limit bytes records triggers) :
    (start width channels limit).Conclusive (bytes ++ Response.captureDone.frame.toBytes) := by
  rintro seen ⟨more, hmore⟩ hreason
  have hwhole : ((start width channels limit).feed (seen ++ more)).1.corruption = none := by
    rw [hmore, h.captureDone_feed]
  have hgood : ((start width channels limit).feed seen).1.corruption = none := by
    apply Option.eq_none_iff_forall_ne_some.mpr
    intro cause hcause
    rw [corruption_feed_append hcause more] at hwhole
    cases hwhole
  rw [← hmore]
  cases hlimit : ((start width channels limit).feed seen).1.limitReached with
  | true =>
    have hreached := limitReached_feed_start.symm.trans hlimit
    obtain ⟨hsamples, htriggers⟩ := decodeFrames_of_limitReached hreached
      (((start width channels limit).feed seen).2.residue ++ more)
    have hnothing : (((start width channels limit).feed seen).2.feed more).1.samples = [] ∧
        (((start width channels limit).feed seen).2.feed more).1.triggers = [] :=
      ⟨hsamples, htriggers⟩
    simp only [feed_append] at hwhole
    simp only [StreamDecoder.outcome, Decoded.reason, feed_append, hgood, hwhole,
      Decoded.samples_append, Decoded.triggers_append, Decoded.limitReached_append, hnothing.1,
      hnothing.2, hlimit, List.append_nil, Bool.true_or, if_true]
  | false =>
    have hnone : more = [] := by
      by_cases hnone : more = []
      · exact hnone
      · have hdone := h.captureDone_prefix hmore hnone
        simp [Decoded.reason, hgood, hlimit, hdone] at hreason
    rw [hnone, List.append_nil]

end StreamDecoder

end LogicAnalyzer
