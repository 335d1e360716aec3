import LogicAnalyzer.Proofs.Wire.Responses

/-!
# The grammar of responses

A string of bytes begins with a response if it begins with one of three kinds of frames.  Reading
finds the response if and only if there is one.  Otherwise it says which of two things is the case:
more bytes may complete a frame, and then it says how many it takes, or no bytes can.

## Main definitions

* `Response.Begins r bytes`: the bytes begin with the frame of `r`, spelled out

## Main results

* `Response.decode_eq_ok_iff`: reading accepts the grammar
* `Response.decode_eq_truncated_iff`: what is waited for
* `Response.decode_eq_corrupt_iff`: what is refused
* `Response.decode_by_grammar`: the verdicts, and what further bytes make of them
-/

namespace LogicAnalyzer.Response

variable {bytes more : List UInt8} {r : Response}

/-- **The bytes begin with a response**: its operation code, the length of its payload, low byte
first, and the payload itself.  Only samples have one. -/
inductive Begins : Response → List UInt8 → Prop where
  | samples (low high : UInt8) (payload rest : List UInt8)
      (complete : payload.length = low.toNat + 256 * high.toNat) :
      Begins (.samples payload) (0x01 :: 0x80 :: low :: high :: (payload ++ rest))
  | triggered (rest : List UInt8) : Begins .triggered (0x02 :: 0x80 :: 0 :: 0 :: rest)
  | captureDone (rest : List UInt8) : Begins .captureDone (0x03 :: 0x80 :: 0 :: 0 :: rest)

/-! ## Headers -/

/-- Two bytes are the same word only if they are the same bytes. -/
theorem word_inj {low high low' high' : UInt8} :
    UInt16.ofNat (ofLittleEndian [low, high]) = UInt16.ofNat (ofLittleEndian [low', high']) ↔
      low = low' ∧ high = high' := by
  constructor
  · intro h
    have hvalue := congrArg UInt16.toNat h
    have h₀ := low.toNat_lt
    have h₁ := high.toNat_lt
    have h₂ := low'.toNat_lt
    have h₃ := high'.toNat_lt
    simp only [ofLittleEndian, UInt16.toNat_ofNat', Nat.reducePow] at hvalue
    exact ⟨UInt8.toNat_inj.mp (by omega), UInt8.toNat_inj.mp (by omega)⟩
  · rintro ⟨rfl, rfl⟩
    rfl

/-- The number that two bytes spell fits a word. -/
theorem toNat_word (low high : UInt8) :
    (UInt16.ofNat (ofLittleEndian [low, high])).toNat = ofLittleEndian [low, high] := by
  have hbound := ofLittleEndian_lt [low, high]
  simp only [List.length_cons, List.length_nil, Nat.reduceAdd, Nat.reducePow] at hbound
  rw [UInt16.toNat_ofNat', Nat.mod_eq_of_lt hbound]

/-- The length that two bytes announce. -/
theorem ofLittleEndian_pair (low high : UInt8) :
    ofLittleEndian [low, high] = low.toNat + 256 * high.toNat := by
  simp [ofLittleEndian]

theorem ofLittleEndian_pair_eq_zero {low high : UInt8} :
    ofLittleEndian [low, high] = 0 ↔ low = 0 ∧ high = 0 := by
  rw [ofLittleEndian_pair, ← UInt8.toNat_inj, ← UInt8.toNat_inj, UInt8.toNat_zero]
  omega

theorem samplesOpcode_eq : samplesOpcode = UInt16.ofNat (ofLittleEndian [0x01, 0x80]) := rfl

theorem triggeredOpcode_eq : triggeredOpcode = UInt16.ofNat (ofLittleEndian [0x02, 0x80]) := rfl

theorem captureDoneOpcode_eq : captureDoneOpcode = UInt16.ofNat (ofLittleEndian [0x03, 0x80]) := rfl

/-- **The headers that belong to the stream.** -/
theorem ofHeader_eq_ok_iff {opcode : UInt16} {length : Nat} {make : List UInt8 → Response} :
    ofHeader opcode length = .ok make ↔
      (opcode = samplesOpcode ∧ make = Response.samples) ∨
      (opcode = triggeredOpcode ∧ length = 0 ∧ make = fun _ => .triggered) ∨
      (opcode = captureDoneOpcode ∧ length = 0 ∧ make = fun _ => .captureDone) := by
  constructor
  · intro h
    unfold ofHeader at h
    split_ifs at h with hsamples hnotice hlength htriggered
    · cases h
      exact .inl ⟨hsamples, rfl⟩
    · cases h
      exact .inr (.inl ⟨htriggered, hlength, rfl⟩)
    · cases h
      exact .inr (.inr ⟨hnotice.resolve_left htriggered, hlength, rfl⟩)
  · rintro (⟨rfl, rfl⟩ | ⟨rfl, rfl, rfl⟩ | ⟨rfl, rfl, rfl⟩) <;> rfl

/-- The header of samples, whatever their number. -/
theorem ofHeader_samples (low high : UInt8) :
    ofHeader (UInt16.ofNat (ofLittleEndian [0x01, 0x80])) (ofLittleEndian [low, high]) =
      .ok Response.samples := ofHeader_eq_ok_iff.mpr (.inl ⟨samplesOpcode_eq.symm, rfl⟩)

/-- A header is refused for its operation code, or for the payload that it announces. -/
theorem cause_of_ofHeader {opcode : UInt16} {length : Nat} {cause : Corruption}
    (h : ofHeader opcode length = .error cause) :
    cause = .unknownOpcode opcode ∨ cause = .unexpectedPayload opcode := by
  unfold ofHeader at h
  split_ifs at h <;> cases h
  · exact .inr rfl
  · exact .inl rfl

section

variable {b₀ b₁ b₂ b₃ : UInt8} {rest : List UInt8}

/-- The header alone decides whether bytes are refused. -/
theorem decode_of_header_error {cause : Corruption}
    (h : ofHeader (UInt16.ofNat (ofLittleEndian [b₀, b₁])) (ofLittleEndian [b₂, b₃]) =
      .error cause) :
    decode (b₀ :: b₁ :: b₂ :: b₃ :: rest) = .error (.corrupt cause) := by
  simp only [decode, h]

/-- Behind a header that belongs to the stream the length of the rest is what counts. -/
theorem decode_of_header_ok {make : List UInt8 → Response}
    (h : ofHeader (UInt16.ofNat (ofLittleEndian [b₀, b₁])) (ofLittleEndian [b₂, b₃]) = .ok make) :
    decode (b₀ :: b₁ :: b₂ :: b₃ :: rest) =
      if ofLittleEndian [b₂, b₃] ≤ rest.length then
        .ok (make (rest.take (ofLittleEndian [b₂, b₃])))
      else .error (.truncated (Frame.headerLength + ofLittleEndian [b₂, b₃])
        (Frame.headerLength + rest.length)) := by
  have hcomplete : (rest.take (ofLittleEndian [b₂, b₃])).length = ofLittleEndian [b₂, b₃] ↔
      ofLittleEndian [b₂, b₃] ≤ rest.length := by
    rw [List.length_take]
    omega
  simp only [decode, h, hcomplete]

end

/-! ## What is accepted -/

/-- Bytes that begin with a response begin with its frame, as it is written. -/
theorem Begins.exists_append (h : Begins r bytes) :
    r.frame.payload.length ≤ Frame.maxPayload ∧ ∃ rest, bytes = r.frame.toBytes ++ rest := by
  cases h with
  | samples low high payload rest complete =>
    have hlength : littleEndian 2 payload.length = [low, high] := by
      rw [complete, ← ofLittleEndian_pair]
      exact littleEndian_ofLittleEndian [low, high]
    refine ⟨?_, rest, ?_⟩
    · have hlow := low.toNat_lt
      have hhigh := high.toNat_lt
      show payload.length ≤ Frame.maxPayload
      rw [Frame.maxPayload]
      omega
    · show _ = littleEndian 2 samplesOpcode.toNat ++ littleEndian 2 payload.length ++ payload ++
        rest
      rw [hlength]
      rfl
  | triggered rest => exact ⟨Nat.zero_le _, rest, rfl⟩
  | captureDone rest => exact ⟨Nat.zero_le _, rest, rfl⟩

/-- Writing a response that was read gives the bytes that it took. -/
theorem Begins.toBytes_frame (h : Begins r bytes) : r.frame.toBytes = bytes.take r.wireLength := by
  obtain ⟨-, rest, rfl⟩ := h.exists_append
  rw [← length_toBytes_frame, List.take_left]

/-- A header that belongs to the stream, with the payload that it announces. -/
theorem begins_of_header {b₀ b₁ b₂ b₃ : UInt8} {make : List UInt8 → Response} {rest : List UInt8}
    (h : ofHeader (UInt16.ofNat (ofLittleEndian [b₀, b₁])) (ofLittleEndian [b₂, b₃]) = .ok make)
    (hlength : ofLittleEndian [b₂, b₃] ≤ rest.length) :
    Begins (make (rest.take (ofLittleEndian [b₂, b₃]))) (b₀ :: b₁ :: b₂ :: b₃ :: rest) := by
  obtain ⟨hopcode, rfl⟩ | ⟨hopcode, hnone, rfl⟩ | ⟨hopcode, hnone, rfl⟩ := ofHeader_eq_ok_iff.mp h
  · obtain ⟨rfl, rfl⟩ := word_inj.mp (hopcode.trans samplesOpcode_eq)
    have hpayload : (rest.take (ofLittleEndian [b₂, b₃])).length = b₂.toNat + 256 * b₃.toNat := by
      rw [List.length_take, Nat.min_eq_left hlength, ofLittleEndian_pair]
    have hbegins := Begins.samples b₂ b₃ _ (rest.drop (ofLittleEndian [b₂, b₃])) hpayload
    rwa [List.take_append_drop] at hbegins
  · obtain ⟨rfl, rfl⟩ := word_inj.mp (hopcode.trans triggeredOpcode_eq)
    obtain ⟨rfl, rfl⟩ := ofLittleEndian_pair_eq_zero.mp hnone
    exact .triggered rest
  · obtain ⟨rfl, rfl⟩ := word_inj.mp (hopcode.trans captureDoneOpcode_eq)
    obtain ⟨rfl, rfl⟩ := ofLittleEndian_pair_eq_zero.mp hnone
    exact .captureDone rest

theorem begins_of_decode (h : decode bytes = .ok r) : Begins r bytes := by
  match bytes, h with
  | b₀ :: b₁ :: b₂ :: b₃ :: rest, h =>
    cases hheader : ofHeader (UInt16.ofNat (ofLittleEndian [b₀, b₁])) (ofLittleEndian [b₂, b₃]) with
    | error cause =>
      rw [decode_of_header_error hheader] at h
      cases h
    | ok make =>
      rw [decode_of_header_ok hheader] at h
      split_ifs at h with hlength
      cases h
      exact begins_of_header hheader hlength

/-- **Reading accepts the grammar.** -/
theorem decode_eq_ok_iff : decode bytes = .ok r ↔ Begins r bytes := by
  refine ⟨begins_of_decode, fun h => ?_⟩
  obtain ⟨hlength, rest, rfl⟩ := h.exists_append
  exact decode_frame_append hlength rest

/-! ## What is waited for, and what is refused -/

/-- **What is waited for** is a header, or the rest of the samples that a header announces. -/
theorem decode_eq_truncated_iff {needed available : Nat} :
    decode bytes = .error (.truncated needed available) ↔
      available = bytes.length ∧ bytes.length < needed ∧
        (needed = Frame.headerLength ∨
          ∃ low high rest, bytes = 0x01 :: 0x80 :: low :: high :: rest ∧
            needed = Frame.headerLength + ofLittleEndian [low, high]) := by
  constructor
  · intro h
    match bytes, h with
    | [], h | [_], h | [_, _], h | [_, _, _], h =>
      cases h
      exact ⟨rfl, by simp [Frame.headerLength], .inl rfl⟩
    | b₀ :: b₁ :: b₂ :: b₃ :: rest, h =>
      cases hheader : ofHeader (UInt16.ofNat (ofLittleEndian [b₀, b₁]))
          (ofLittleEndian [b₂, b₃]) with
      | error cause =>
        rw [decode_of_header_error hheader] at h
        cases h
      | ok make =>
        rw [decode_of_header_ok hheader] at h
        split_ifs at h with hlength
        cases h
        obtain ⟨hopcode, -⟩ | ⟨-, hnone, -⟩ | ⟨-, hnone, -⟩ := ofHeader_eq_ok_iff.mp hheader
        · obtain ⟨rfl, rfl⟩ := word_inj.mp (hopcode.trans samplesOpcode_eq)
          refine ⟨?_, ?_, .inr ⟨b₂, b₃, rest, rfl, rfl⟩⟩
          · simp only [List.length_cons, Frame.headerLength]
            omega
          · simp only [List.length_cons, Frame.headerLength]
            omega
        · exact absurd (hnone ▸ Nat.zero_le _) hlength
        · exact absurd (hnone ▸ Nat.zero_le _) hlength
  · rintro ⟨rfl, hlt, rfl | ⟨low, high, rest, rfl, rfl⟩⟩
    · exact decode_of_short hlt
    · simp only [List.length_cons, Frame.headerLength] at hlt
      rw [decode_of_header_ok (ofHeader_samples low high), if_neg (by omega)]
      simp only [List.length_cons, Frame.headerLength, Nat.add_comm 4]

/-- **What is refused** are headers that no response has, whatever follows them: their operation
code is unknown, or they announce a payload that there is not. -/
theorem decode_eq_corrupt_iff :
    (∃ opcode, decode bytes = .error (.corrupt (.unknownOpcode opcode)) ∨
        decode bytes = .error (.corrupt (.unexpectedPayload opcode))) ↔
      Frame.headerLength ≤ bytes.length ∧
        ∀ r rest, ¬Begins r (bytes.take Frame.headerLength ++ rest) := by
  constructor
  · rintro ⟨opcode, h⟩
    obtain ⟨cause, hcorrupt⟩ : ∃ cause, decode bytes = .error (.corrupt cause) :=
      h.elim (fun h => ⟨_, h⟩) fun h => ⟨_, h⟩
    match bytes, hcorrupt with
    | b₀ :: b₁ :: b₂ :: b₃ :: rest, hcorrupt =>
      refine ⟨Nat.le_add_left 4 rest.length, fun r more hbegins => ?_⟩
      have hdecode := decode_eq_ok_iff.mpr hbegins
      cases hheader : ofHeader (UInt16.ofNat (ofLittleEndian [b₀, b₁]))
          (ofLittleEndian [b₂, b₃]) with
      | error cause => cases (decode_of_header_error hheader).symm.trans hdecode
      | ok make =>
        rw [decode_of_header_ok hheader] at hcorrupt
        split_ifs at hcorrupt
        cases hcorrupt
  · rintro ⟨hlength, hnone⟩
    match bytes, hlength with
    | b₀ :: b₁ :: b₂ :: b₃ :: rest, _ =>
      cases hheader : ofHeader (UInt16.ofNat (ofLittleEndian [b₀, b₁]))
          (ofLittleEndian [b₂, b₃]) with
      | error cause =>
        have hcorrupt : decode (b₀ :: b₁ :: b₂ :: b₃ :: rest) = .error (.corrupt cause) :=
          decode_of_header_error hheader
        obtain rfl | rfl := cause_of_ofHeader hheader
        · exact ⟨_, .inl hcorrupt⟩
        · exact ⟨_, .inr hcorrupt⟩
      | ok make =>
        have hlength : ofLittleEndian [b₂, b₃] ≤
            (List.replicate (ofLittleEndian [b₂, b₃]) (0 : UInt8)).length :=
          Nat.le_of_eq List.length_replicate.symm
        exact absurd (begins_of_header hheader hlength) (hnone _ _)

/-! ## The verdicts -/

/-- **Reading accepts the grammar, and further bytes do not change its mind.**  It reads a response
if and only if the bytes begin with one; the bytes that it took are the frame of this response, and
what follows does not matter.  What it refuses it refuses for good, and that is exactly a header
that begins no frame.  If it waits, it tells how many bytes there are and how many it takes: with
fewer it still waits for as many, and behind a whole header with as many it reads a response. -/
theorem decode_by_grammar (bytes more : List UInt8) :
    (∀ r, decode bytes = .ok r ↔ Begins r bytes) ∧
    (∀ r, decode bytes = .ok r →
      r.frame.toBytes = bytes.take r.wireLength ∧ decode (bytes ++ more) = .ok r) ∧
    (∀ cause, decode bytes = .error (.corrupt cause) →
      decode (bytes ++ more) = .error (.corrupt cause)) ∧
    (∀ needed available, decode bytes = .error (.truncated needed available) →
      available = bytes.length ∧ bytes.length < needed ∧
      ((bytes ++ more).length < needed →
        decode (bytes ++ more) = .error (.truncated needed (bytes ++ more).length)) ∧
      (Frame.headerLength ≤ bytes.length → needed ≤ (bytes ++ more).length →
        ∃ r, decode (bytes ++ more) = .ok r)) ∧
    ((∃ opcode, decode bytes = .error (.corrupt (.unknownOpcode opcode)) ∨
        decode bytes = .error (.corrupt (.unexpectedPayload opcode))) ↔
      Frame.headerLength ≤ bytes.length ∧
        ∀ r rest, ¬Begins r (bytes.take Frame.headerLength ++ rest)) := by
  refine ⟨fun r => decode_eq_ok_iff, fun r h => ?_, fun cause h => decode_append_of_corrupt h more,
    fun needed available h => ?_, decode_eq_corrupt_iff⟩
  · exact ⟨(begins_of_decode h).toBytes_frame, decode_append_of_ok h more⟩
  · obtain ⟨havailable, hlt, hneeded⟩ := decode_eq_truncated_iff.mp h
    refine ⟨havailable, hlt, fun hshort => ?_, fun hheader henough => ?_⟩
    · apply decode_eq_truncated_iff.mpr
      refine ⟨rfl, hshort, hneeded.imp id ?_⟩
      rintro ⟨low, high, rest, rfl, hsum⟩
      exact ⟨low, high, rest ++ more, rfl, hsum⟩
    · obtain rfl | ⟨low, high, rest, rfl, rfl⟩ := hneeded
      · exact absurd hlt (Nat.not_lt.mpr hheader)
      · simp only [List.cons_append, List.length_cons, Frame.headerLength] at henough
        have hlength : ofLittleEndian [low, high] ≤ (rest ++ more).length := by
          omega
        exact ⟨_, decode_eq_ok_iff.mpr (begins_of_header (ofHeader_samples low high) hlength)⟩

end LogicAnalyzer.Response
