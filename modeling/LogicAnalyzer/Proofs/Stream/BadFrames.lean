import LogicAnalyzer.Proofs.Capture.Outcomes

/-!
# Scripts that break off in a corrupt frame

A frame can be corrupt in three ways: its operation code is unknown, it is a notice that announces a
payload, or its payload is not a whole number of records.  The first two show in the header, the
third once the frame is complete.  A script that is followed by a corrupt frame is decoded as if
nothing came behind it, except that the corruption is reported, and whatever follows the frame does
not matter.

## Main definitions

* `BadFrame`: the bytes at which a frame shows to be corrupt, and what is wrong with it

## Main results

* `BadFrame.nextFrame`: a corrupt frame is refused, whatever follows it
* `StreamDecoder.Reads.corrupt`: what a script amounts to that breaks off in a corrupt frame
* `StreamDecoder.conclusive_of_streams`: a stream that gives no other reason to end is conclusive
-/

namespace LogicAnalyzer

/-! ## Corrupt frames -/

/-- The header of a frame with this operation code that announces this length. -/
def header (opcode length : UInt16) : List UInt8 :=
  littleEndian 2 opcode.toNat ++ littleEndian 2 length.toNat

/-- **A corrupt frame** for records of this width, and what is wrong with it. -/
inductive BadFrame (width : Nat) : List UInt8 → Corruption → Prop where
  | unknownOpcode (opcode length : UInt16)
      (unknown : opcode ∉
        [Response.samplesOpcode, Response.triggeredOpcode, Response.captureDoneOpcode]) :
      BadFrame width (header opcode length) (.unknownOpcode opcode)
  | unexpectedPayload (opcode length : UInt16)
      (notice : opcode = Response.triggeredOpcode ∨ opcode = Response.captureDoneOpcode)
      (announced : length ≠ 0) :
      BadFrame width (header opcode length) (.unexpectedPayload opcode)
  | partialRecord (payload : List UInt8) (fits : payload.length ≤ Frame.maxPayload)
      (notWhole : payload.length % width ≠ 0) :
      BadFrame width (Response.samples payload).frame.toBytes .partialRecord

/-- A header that belongs to no frame of the stream is refused. -/
theorem Response.decode_header_append {opcode length : UInt16} {cause : Corruption}
    (h : ofHeader opcode length.toNat = .error cause) (rest : List UInt8) :
    decode (header opcode length ++ rest) = .error (.corrupt cause) := by
  have hopcode : UInt16.ofNat (ofLittleEndian (littleEndian 2 opcode.toNat)) = opcode := by
    rw [ofLittleEndian_littleEndian]
    have := opcode.toNat_lt
    rw [Nat.mod_eq_of_lt (by omega), UInt16.ofNat_toNat]
  have hlength : ofLittleEndian (littleEndian 2 length.toNat) = length.toNat := by
    rw [ofLittleEndian_littleEndian]
    have := length.toNat_lt
    rw [Nat.mod_eq_of_lt (by omega)]
  simp only [littleEndian] at hopcode hlength
  simp only [header, littleEndian, List.cons_append, List.nil_append, decode, hopcode, hlength, h]

/-- **A corrupt frame is refused**, whatever follows it. -/
theorem BadFrame.nextFrame {d : StreamDecoder} {bytes : List UInt8} {cause : Corruption}
    (h : BadFrame d.recordWidth bytes cause) (rest : List UInt8) :
    d.nextFrame {} (bytes ++ rest) = .error (.corrupt cause) := by
  cases h with
  | unknownOpcode opcode length unknown =>
    simp only [List.mem_cons, List.not_mem_nil, or_false, not_or] at unknown
    have hheader : Response.ofHeader opcode length.toNat = .error (.unknownOpcode opcode) := by
      simp [Response.ofHeader, unknown]
    rw [StreamDecoder.nextFrame, Response.decode_header_append hheader]
  | unexpectedPayload opcode length notice announced =>
    have hsamples : opcode ≠ Response.samplesOpcode := by
      rcases notice with rfl | rfl <;> decide
    have hlength : length.toNat ≠ 0 := fun hzero => announced (UInt16.toNat_inj.mp hzero)
    have hheader : Response.ofHeader opcode length.toNat = .error (.unexpectedPayload opcode) := by
      rw [Response.ofHeader, if_neg hsamples, if_pos notice, if_neg hlength]
    rw [StreamDecoder.nextFrame, Response.decode_header_append hheader]
  | partialRecord payload fits notWhole =>
    have hdecode := Response.decode_frame_append (r := .samples payload) fits rest
    simp only [StreamDecoder.nextFrame, hdecode, StreamDecoder.receive, if_neg notWhole]

/-- All of it stays with a decoder that is fed it between two frames. -/
theorem BadFrame.feed {d : StreamDecoder} {bytes : List UInt8} {cause : Corruption}
    (h : BadFrame d.recordWidth bytes cause) (hresidue : d.residue = []) (rest : List UInt8) :
    d.feed (bytes ++ rest) =
      ({ corruption := some cause }, { d with residue := bytes ++ rest }) := by
  simp only [StreamDecoder.feed, hresidue, List.nil_append,
    StreamDecoder.decodeFrames_of_corrupt (h.nextFrame rest)]
  exact Prod.ext (Decoded.ext rfl rfl (Bool.not_and_self _) rfl rfl) rfl

namespace StreamDecoder

variable {d : StreamDecoder} {width : Nat} {channels : ChannelSet} {limit : UInt64}
  {bytes bad stream : List UInt8} {records : List UInt64} {triggers : List Nat} {cause : Corruption}

/-! ## Conclusive streams -/

/-- **A stream that reaches no limit and has no notice** that the capture is complete is conclusive:
the one reason it can give is a corrupt frame, behind which nothing is decoded. -/
theorem conclusive_of_streams (hlimit : (d.feed stream).1.limitReached = false)
    (hdone : (d.feed stream).1.captureDone = false) : d.Conclusive stream := by
  rintro seen ⟨more, rfl⟩ hreason
  rw [feed_append, Decoded.limitReached_append, Bool.or_eq_false_iff] at hlimit
  rw [feed_append, Decoded.captureDone_append, Bool.or_eq_false_iff] at hdone
  cases hcorrupt : (d.feed seen).1.corruption with
  | none => exact absurd (Decoded.reason_eq_none.mpr ⟨hcorrupt, hlimit.1, hdone.1⟩) hreason
  | some cause =>
    have hnothing := feed_eq_of_corruption hcorrupt more
    have hbehind : ((d.feed seen).2.feed more).1.samples = [] ∧
        ((d.feed seen).2.feed more).1.triggers = [] := ⟨by rw [hnothing], by rw [hnothing]⟩
    simp only [StreamDecoder.outcome, Decoded.reason, feed_append, Decoded.samples_append,
      Decoded.triggers_append, Decoded.corruption_append, hcorrupt, hnothing, List.append_nil]

/-! ## Behind a script -/

/-- **A script that breaks off in a corrupt frame.**  Before the limit all of it is decoded, and the
corruption is reported. -/
theorem Reads.corrupt (h : Reads width channels limit bytes records triggers) (hpos : 0 < width)
    (hbad : BadFrame width bad cause) (rest : List UInt8) :
    (start width channels limit).feed (bytes ++ (bad ++ rest)) =
      ({ samples := (within limit records).map (Record.cut width channels)
         triggers := triggers.filter (inTime limit)
         limitReached := !inTime limit records.length
         corruption := some cause },
        { ((start width channels limit).feed bytes).2 with residue := bad ++ rest }) := by
  have hwidth : ((start width channels limit).feed bytes).2.recordWidth = width := by
    rw [h.setup]
    exact Nat.max_eq_left hpos
  rw [← hwidth] at hbad
  have hlimit := limitReached_feed_start.trans h.limitReached
  rw [feed_append, hbad.feed h.residue rest]
  refine Prod.ext (Decoded.ext ?_ ?_ ?_ ?_ ?_) rfl
  · simp only [Decoded.samples_append, h.samples, List.append_nil]
  · simp only [Decoded.triggers_append, h.triggers, List.append_nil]
  · simp only [Decoded.limitReached_append, hlimit, Bool.or_false]
  · simp only [Decoded.captureDone_append, h.captureDone, Bool.or_false]
  · rfl

end StreamDecoder

end LogicAnalyzer
