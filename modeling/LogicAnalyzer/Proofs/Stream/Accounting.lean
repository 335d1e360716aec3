import LogicAnalyzer.Proofs.Stream.BadFrames
import LogicAnalyzer.Proofs.Stream.Filters
import LogicAnalyzer.Proofs.Wire.Grammar

/-!
# What becomes of the bytes

A decoder loses no byte and reads none twice.  What it had left over and what it is fed are some
complete frames, whose records it hands out, and what it has left over then.  This is the beginning
of a frame, shorter than the longest frame, or a corrupt frame with all that came behind it.  Behind
a corrupt frame nothing is decoded any more.

## Main definitions

* `Response.records`: the records that a response holds
* `Response.Whole`: a response that a decoder takes
* `Response.Incomplete`: bytes that may yet become a frame

## Main results

* `StreamDecoder.exists_frames_decodeFrames`: the frames that are used up, and what they bring
* `StreamDecoder.incomplete_decodeFrames`: what is left over of a stream that is not corrupt
* `StreamDecoder.exists_badFrame`: what a decoder refuses is a corrupt frame
* `StreamDecoder.bytes_accounted_for`: what becomes of the bytes of a chunk
-/

namespace LogicAnalyzer

/-! ## Frames that are taken, and bytes that are kept -/

namespace Response

/-- The records that a response holds. -/
def records (width : Nat) : Response → List (List UInt8)
  | samples payload => pieces width payload
  | triggered | captureDone => []

/-- **A response that a decoder takes**: its payload fits a frame, and falls into records of this
width. -/
structure Whole (width : Nat) (r : Response) : Prop where
  fits : r.frame.payload.length ≤ Frame.maxPayload
  whole : width ∣ r.frame.payload.length

/-- **Bytes that may yet become a frame**: they are shorter than a header, or they are the header of
samples and some of these, but not all. -/
def Incomplete (bytes : List UInt8) : Prop :=
  bytes.length < Frame.headerLength ∨
    ∃ low high payload, bytes = 0x01 :: 0x80 :: low :: high :: payload ∧
      payload.length < ofLittleEndian [low, high]

/-- They are shorter than the longest frame. -/
theorem Incomplete.length_lt {bytes : List UInt8} (h : Incomplete bytes) :
    bytes.length < Frame.headerLength + Frame.maxPayload := by
  obtain hshort | ⟨low, high, payload, rfl, hlength⟩ := h
  · exact Nat.lt_add_right _ hshort
  · have hbound := ofLittleEndian_lt [low, high]
    simp only [List.length_cons, List.length_nil, Frame.headerLength, Frame.maxPayload] at hbound ⊢
    omega

theorem incomplete_of_decode {bytes : List UInt8} {needed available : Nat}
    (h : decode bytes = .error (.truncated needed available)) : Incomplete bytes := by
  obtain ⟨-, hlt, rfl | ⟨low, high, payload, rfl, rfl⟩⟩ := decode_eq_truncated_iff.mp h
  · exact .inl hlt
  · refine .inr ⟨low, high, payload, rfl, ?_⟩
    simp only [List.length_cons, Frame.headerLength] at hlt
    omega

theorem badFrame_of_ofHeader {opcode length : UInt16} {cause : Corruption}
    (h : ofHeader opcode length.toNat = .error cause) (width : Nat) :
    BadFrame width (header opcode length) cause := by
  unfold ofHeader at h
  split at h
  · cases h
  · rename_i hsamples
    split at h
    · rename_i hnotice
      split at h
      · cases h
      · rename_i hlength
        cases h
        exact .unexpectedPayload opcode length hnotice fun hzero => hlength (by rw [hzero]; rfl)
    · rename_i hnotice
      cases h
      refine .unknownOpcode opcode length ?_
      simpa [not_or] using ⟨hsamples, not_or.mp hnotice⟩

/-- A header that belongs to no frame of the stream is a corrupt frame for any records. -/
theorem exists_badFrame_of_decode {bytes : List UInt8} {cause : Corruption}
    (h : decode bytes = .error (.corrupt cause)) (width : Nat) :
    ∃ bad, BadFrame width bad cause ∧ bad <+: bytes := by
  match bytes, h with
  | b₀ :: b₁ :: b₂ :: b₃ :: rest, h =>
    have hbad : BadFrame width
        (header (UInt16.ofNat (ofLittleEndian [b₀, b₁])) (UInt16.ofNat (ofLittleEndian [b₂, b₃])))
        cause := by
      apply badFrame_of_ofHeader
      rw [toNat_word]
      cases hheader : ofHeader (UInt16.ofNat (ofLittleEndian [b₀, b₁]))
          (ofLittleEndian [b₂, b₃]) with
      | error cause' =>
        cases (decode_of_header_error hheader).symm.trans h
        rfl
      | ok make =>
        rw [decode_of_header_ok hheader] at h
        split at h <;> cases h
    refine ⟨_, hbad, rest, ?_⟩
    have hword (low high : UInt8) :
        littleEndian 2 (UInt16.ofNat (ofLittleEndian [low, high])).toNat = [low, high] := by
      rw [toNat_word]
      exact littleEndian_ofLittleEndian [low, high]
    rw [header, hword, hword]
    rfl

end Response

section

variable {α : Type} (limit : UInt64)

/-- Entries that are not wanted take no room. -/
theorem withinAfter_add_length (count : Nat) (xs ys : List α) :
    withinAfter limit (count + (withinAfter limit count xs).length) ys =
      withinAfter limit (count + xs.length) ys := by
  unfold withinAfter
  split
  · rfl
  · rw [List.length_take]
    congr 1
    omega

end

namespace StreamDecoder

variable {d d' : StreamDecoder} {out : Decoded} {bytes rest : List UInt8}

/-- The sample that a decoder hands out for a record. -/
def sampleOf (d : StreamDecoder) (record : List UInt8) : UInt64 :=
  Record.unpack record &&& d.channels.bits

theorem accept_eq (d : StreamDecoder) (payload : List UInt8) :
    d.accept payload =
      (withinAfter d.sampleLimit d.emitted (pieces d.recordWidth payload)).map d.sampleOf := by
  simp only [accept, wanted, withinAfter]
  split
  · rw [List.take_length]
    rfl
  · rw [Nat.min_comm, ← List.take_eq_take_min]
    rfl

/-! ## One frame -/

/-- What a response brings are its records, as far as they are wanted. -/
theorem samples_receive {r : Response} (h : d.receive {} r = .ok (d', out)) :
    d.recordWidth ∣ r.frame.payload.length ∧
      out.samples =
        (withinAfter d.sampleLimit d.emitted (r.records d.recordWidth)).map d.sampleOf := by
  cases r with
  | samples payload =>
    by_cases hwhole : payload.length % d.recordWidth = 0
    · rw [receive_samples hwhole] at h
      cases h
      exact ⟨Nat.dvd_of_mod_eq_zero hwhole, d.accept_eq payload⟩
    · rw [receive, if_neg hwhole] at h
      cases h
  | triggered =>
    refine ⟨Nat.dvd_zero _, ?_⟩
    rw [Response.records, withinAfter_nil, List.map_nil]
    by_cases hlimit : d.limitReached = true
    · rw [receive, if_pos hlimit] at h
      cases h
      rfl
    · rw [receive, if_neg hlimit] at h
      cases h
      rfl
  | captureDone =>
    cases h
    refine ⟨Nat.dvd_zero _, ?_⟩
    rw [Response.records, withinAfter_nil, List.map_nil]

/-- **A frame that is read** is complete, and what it brings are its records. -/
theorem exists_response_of_nextFrame (h : d.nextFrame {} bytes = .ok ((d', out), rest)) :
    ∃ r : Response, r.Whole d.recordWidth ∧ bytes = r.frame.toBytes ++ rest ∧
      out.samples =
        (withinAfter d.sampleLimit d.emitted (r.records d.recordWidth)).map d.sampleOf := by
  unfold nextFrame at h
  split at h
  · cases h
  · rename_i r hdecode
    split at h
    · cases h
    · rename_i after hreceive
      cases h
      obtain ⟨hwhole, hsamples⟩ := samples_receive hreceive
      have hbegins := Response.begins_of_decode hdecode
      refine ⟨r, ⟨hbegins.exists_append.1, hwhole⟩, ?_, hsamples⟩
      rw [hbegins.toBytes_frame, List.take_append_drop]

/-- **What a decoder refuses** is a corrupt frame. -/
theorem exists_badFrame {cause : Corruption} (h : d.nextFrame {} bytes = .error (.corrupt cause)) :
    ∃ bad, BadFrame d.recordWidth bad cause ∧ bad <+: bytes := by
  unfold nextFrame at h
  split at h
  · rename_i e hdecode
    cases h
    exact Response.exists_badFrame_of_decode hdecode d.recordWidth
  · rename_i r hdecode
    split at h
    · rename_i cause' hreceive
      cases h
      obtain ⟨hfits, rest, rfl⟩ := (Response.begins_of_decode hdecode).exists_append
      refine ⟨r.frame.toBytes, ?_, List.prefix_append ..⟩
      cases r with
      | samples payload =>
        by_cases hwhole : payload.length % d.recordWidth = 0
        · rw [receive, if_pos hwhole] at hreceive
          cases hreceive
        · rw [receive, if_neg hwhole] at hreceive
          cases hreceive
          exact .partialRecord payload hfits hwhole
      | triggered =>
        rw [receive] at hreceive
        split at hreceive <;> cases hreceive
      | captureDone => cases hreceive
    · cases h

/-! ## All frames -/

/-- **The frames that are used up, and what they bring**: all bytes are those of complete frames and
those that are left over, and the samples are the records of the frames, as far as they are
wanted. -/
theorem exists_frames_decodeFrames (d : StreamDecoder) (bytes : List UInt8) :
    ∃ frames : List Response, (∀ r ∈ frames, r.Whole d.recordWidth) ∧
      bytes = (frames.flatMap fun r => r.frame.toBytes) ++ (d.decodeFrames {} bytes).1.residue ∧
      (d.decodeFrames {} bytes).2.samples =
        (withinAfter d.sampleLimit d.emitted
          (frames.flatMap (Response.records d.recordWidth))).map d.sampleOf := by
  induction d, bytes using frames_induction with
  | truncated d bytes needed available h =>
    rw [decodeFrames_of_truncated h]
    exact ⟨[], by simp, rfl, by simp⟩
  | corrupt d bytes cause h =>
    rw [decodeFrames_of_corrupt h]
    exact ⟨[], by simp, rfl, by simp⟩
  | frame d bytes d' out rest h ih =>
    obtain ⟨r, hr, hbytes, hsamples⟩ := exists_response_of_nextFrame h
    obtain ⟨frames, hframes, hrest, hmore⟩ := ih
    obtain ⟨hfollows, -⟩ := nextFrame_follows h
    rw [hfollows.recordWidth] at hframes
    have hsampleOf : d'.sampleOf = d.sampleOf := by
      funext record
      rw [sampleOf, sampleOf, hfollows.channels]
    rw [hfollows.recordWidth, hfollows.sampleLimit, hfollows.emitted, hsampleOf, hsamples,
      List.length_map, withinAfter_add_length] at hmore
    rw [decodeFrames_cons h]
    refine ⟨r :: frames, List.forall_mem_cons.mpr ⟨hr, hframes⟩, ?_, ?_⟩
    · rw [List.flatMap_cons, List.append_assoc, ← hrest, hbytes]
    · rw [Decoded.samples_append, hsamples, hmore, List.flatMap_cons, withinAfter_append,
        List.map_append]

/-- **What is left over of a stream that is not corrupt** may yet become a frame. -/
theorem incomplete_decodeFrames (h : (d.decodeFrames {} bytes).2.corruption = none) :
    Response.Incomplete (d.decodeFrames {} bytes).1.residue := by
  induction d, bytes using frames_induction with
  | truncated d bytes needed available hnext =>
    rw [decodeFrames_of_truncated hnext]
    unfold nextFrame at hnext
    split at hnext
    · rename_i e hdecode
      cases hnext
      exact Response.incomplete_of_decode hdecode
    · split at hnext <;> cases hnext
  | corrupt d bytes cause hnext =>
    rw [decodeFrames_of_corrupt hnext] at h
    cases h
  | frame d bytes d' out rest hnext ih =>
    rw [decodeFrames_cons hnext] at h ⊢
    exact ih h

/-! ## Feeding -/

/-- Behind a corrupt frame no chunk brings anything. -/
theorem feedAll_of_corruption {cause : Corruption} {chunk : List UInt8}
    (h : (d.feed chunk).1.corruption = some cause) (later : List (List UInt8)) :
    ∀ next ∈ ((d.feed chunk).2.feedAll later).1, next = { corruption := some cause } := by
  induction later generalizing d chunk with
  | nil => exact fun next hnext => absurd hnext List.not_mem_nil
  | cons first later ih =>
    have hfirst := feed_eq_of_corruption h first
    rw [feedAll_cons]
    exact List.forall_mem_cons.mpr ⟨hfirst, ih (by rw [hfirst])⟩

/-- What chunks brought so far has been counted. -/
theorem feedAll_follows (d : StreamDecoder) (chunks : List (List UInt8)) :
    Follows d (d.feedAll chunks).2 (Decoded.allSamples (d.feedAll chunks).1) := by
  induction chunks generalizing d with
  | nil => exact ⟨rfl, rfl, rfl, rfl⟩
  | cons chunk chunks ih =>
    rw [feedAll_cons, Decoded.allSamples_cons]
    exact (feed_follows d chunk).trans (ih _)

/-- **What becomes of the bytes of a chunk.**  Whatever a decoder was fed before, the bytes that it
had left over and those of the chunk are some complete frames, and what it has left over then.  The
frames carry whole records, and these are the samples that it hands out, in order, masked, and as
far as they are wanted behind the samples that were handed out before.  If the stream is not found
corrupt, what is left over may yet become a frame, so it has at most 65538 bytes.  If it is, what is
left over begins with the corrupt frame, and every later chunk, whatever its bytes, brings nothing
but the same complaint. -/
theorem bytes_accounted_for (width : Nat) (channels : ChannelSet) (limit : UInt64)
    (earlier : List (List UInt8)) (chunk : List UInt8) :
    let before := (start width channels limit).feedAll earlier
    let after := before.2.feed chunk
    (∃ frames : List Response, (∀ r ∈ frames, r.Whole (max width 1)) ∧
      before.2.residue ++ chunk = (frames.flatMap fun r => r.frame.toBytes) ++ after.2.residue ∧
      after.1.samples =
        (withinAfter limit (Decoded.allSamples before.1).length
          (frames.flatMap (Response.records (max width 1)))).map fun record =>
            Record.unpack record &&& channels.bits) ∧
    (after.1.corruption = none →
      Response.Incomplete after.2.residue ∧ after.2.residue.length ≤ 65538) ∧
    ∀ cause, after.1.corruption = some cause →
      (∃ bad, BadFrame (max width 1) bad cause ∧ bad <+: after.2.residue) ∧
      ∀ later, ∀ next ∈ (after.2.feedAll later).1, next = { corruption := some cause } := by
  intro before after
  have hbefore : Follows (start width channels limit) before.2 _ := feedAll_follows _ earlier
  have hafter : Follows before.2 after.2 _ := feed_follows before.2 chunk
  refine ⟨?_, fun hclean => ?_, fun cause hcorrupt => ⟨?_, feedAll_of_corruption hcorrupt⟩⟩
  · obtain ⟨frames, hframes, hbytes, hsamples⟩ :=
      exists_frames_decodeFrames before.2 (before.2.residue ++ chunk)
    have hcount : before.2.emitted = (Decoded.allSamples before.1).length :=
      hbefore.emitted.trans (Nat.zero_add _)
    have hsampleOf : before.2.sampleOf = fun record => Record.unpack record &&& channels.bits := by
      funext record
      rw [sampleOf, hbefore.channels]
      rfl
    rw [hbefore.recordWidth] at hframes
    rw [hbefore.recordWidth, hbefore.sampleLimit, hcount, hsampleOf] at hsamples
    exact ⟨frames, hframes, hbytes, hsamples⟩
  · have hincomplete : Response.Incomplete after.2.residue := incomplete_decodeFrames hclean
    exact ⟨hincomplete, Nat.le_of_lt_succ hincomplete.length_lt⟩
  · obtain ⟨bad, hbad, hprefix⟩ := exists_badFrame (nextFrame_of_corruption hcorrupt)
    have hwidth : after.2.recordWidth = max width 1 := hafter.recordWidth.trans hbefore.recordWidth
    exact ⟨bad, hwidth ▸ hbad, hprefix⟩

end StreamDecoder

end LogicAnalyzer
