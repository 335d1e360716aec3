import LogicAnalyzer.Proofs.Wire.Words
import LogicAnalyzer.Wire.Response
import Mathlib.Tactic.SplitIfs

/-!
# Reading responses

A reader sees the stream grow.  What it has read stays read, and what it has refused stays
refused, whatever bytes follow; only an incomplete frame waits for more.  Reading undoes
writing: a response that is written and followed by anything is read back.

## Main results

* `Response.decode_append_of_ok`, `decode_append_of_corrupt`: verdicts survive further bytes
* `Response.decode_frame_append`: reading undoes writing
-/

namespace LogicAnalyzer.Response

/-! ## The verdict on a prefix -/

theorem ofHeader_ok_wireLength {opcode : UInt16} {payload : List UInt8}
    {response : List UInt8 → Response} (h : ofHeader opcode payload.length = .ok response) :
    (response payload).wireLength = Frame.headerLength + payload.length := by
  unfold ofHeader at h
  split_ifs at h with hsamples hnotice hlength htriggered
  · cases h
    rfl
  · cases h
    rw [hlength]
    rfl
  · cases h
    rw [hlength]
    rfl

/-- **What is read stays read**: the bytes behind a complete frame do not matter. -/
theorem decode_append_of_ok {bytes : List UInt8} {response : Response}
    (h : decode bytes = .ok response) (more : List UInt8) :
    decode (bytes ++ more) = .ok response := by
  match bytes, h with
  | b₀ :: b₁ :: b₂ :: b₃ :: rest, h =>
    simp only [decode] at h
    simp only [List.cons_append, decode]
    split at h
    · cases h
    · split_ifs at h with hcomplete
      have hfits : ofLittleEndian [b₂, b₃] ≤ rest.length := by
        rw [List.length_take] at hcomplete
        omega
      simp only [List.take_append_of_le_length hfits, if_pos hcomplete]
      exact h

/-- **What is refused stays refused.** -/
theorem decode_append_of_corrupt {bytes : List UInt8} {cause : Corruption}
    (h : decode bytes = .error (.corrupt cause)) (more : List UInt8) :
    decode (bytes ++ more) = .error (.corrupt cause) := by
  match bytes, h with
  | b₀ :: b₁ :: b₂ :: b₃ :: rest, h =>
    simp only [decode] at h
    simp only [List.cons_append, decode]
    split at h
    · exact h
    · split_ifs at h
      cases h

/-- A header that is not all there is waited for. -/
theorem decode_of_short {bytes : List UInt8} (h : bytes.length < Frame.headerLength) :
    decode bytes = .error (.truncated Frame.headerLength bytes.length) := by
  match bytes, h with
  | [], _ | [_], _ | [_, _], _ | [_, _, _], _ => rfl

theorem wireLength_le_of_decode_eq_ok {bytes : List UInt8} {response : Response}
    (h : decode bytes = .ok response) : response.wireLength ≤ bytes.length := by
  match bytes, h with
  | b₀ :: b₁ :: b₂ :: b₃ :: rest, h =>
    simp only [decode] at h
    split at h
    · cases h
    · rename_i make hmake
      split_ifs at h with hcomplete
      cases h
      rw [← hcomplete] at hmake
      rw [ofHeader_ok_wireLength hmake, hcomplete, Frame.headerLength]
      rw [List.length_take] at hcomplete
      simp only [List.length_cons]
      omega

/-! ## Reading what was written -/

@[simp]
theorem length_toBytes_frame (r : Response) : r.frame.toBytes.length = r.wireLength := by
  cases r <;> simp [frame, wireLength]

/-- A frame is its header followed by its payload. -/
theorem decode_toBytes_append {f : Frame} {make : List UInt8 → Response}
    (hlength : f.payload.length ≤ Frame.maxPayload)
    (hmake : ofHeader f.opcode f.payload.length = .ok make) (rest : List UInt8) :
    decode (f.toBytes ++ rest) = .ok (make f.payload) := by
  have hopcode : UInt16.ofNat (ofLittleEndian (littleEndian 2 f.opcode.toNat)) = f.opcode := by
    rw [ofLittleEndian_littleEndian]
    have := f.opcode.toNat_lt
    rw [Nat.mod_eq_of_lt (by omega), UInt16.ofNat_toNat]
  have hpayload : ofLittleEndian (littleEndian 2 f.payload.length) = f.payload.length := by
    rw [ofLittleEndian_littleEndian, Nat.mod_eq_of_lt]
    rw [Frame.maxPayload] at hlength
    omega
  simp only [littleEndian] at hopcode hpayload
  simp only [Frame.toBytes, littleEndian, List.cons_append, List.nil_append, decode, hopcode,
    hpayload, hmake, List.take_left', if_pos]

/-- **Reading undoes writing**, whatever follows. -/
theorem decode_frame_append {r : Response} (h : r.frame.payload.length ≤ Frame.maxPayload)
    (rest : List UInt8) : decode (r.frame.toBytes ++ rest) = .ok r := by
  cases r with
  | samples payload =>
    have hmake : ofHeader samplesOpcode payload.length = .ok samples := by simp [ofHeader]
    exact decode_toBytes_append h hmake rest
  | triggered =>
    have hmake : ofHeader triggeredOpcode 0 = .ok fun _ => triggered := by
      simp [ofHeader, triggeredOpcode, samplesOpcode]
    exact decode_toBytes_append h hmake rest
  | captureDone =>
    have hmake : ofHeader captureDoneOpcode 0 = .ok fun _ => captureDone := by
      simp [ofHeader, triggeredOpcode, samplesOpcode, captureDoneOpcode]
    exact decode_toBytes_append h hmake rest

end LogicAnalyzer.Response
