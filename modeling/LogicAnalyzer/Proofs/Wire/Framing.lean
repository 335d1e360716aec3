import LogicAnalyzer.Proofs.Wire.Records
import Mathlib.Algebra.Order.Floor.Div

/-!
# The frames of some samples

Samples share frames, as many as the length field can announce.  No frame is cut short and none is
empty, so the length of the stream can be told from the number of samples.

## Main definitions

* `Frame.lengthField`: the length that a frame announces
* `Frame.CarriesRecords`: a frame whose payload is some whole records

## Main results

* `length_pieces`: how many pieces a list is cut into
* `Record.length_mul_le_of_mem_pieces`: the records of a frame fit it
* `Record.carriesRecords_frames`: every frame of some samples carries whole records
* `Record.length_flatMap_frames`: how long the stream of some samples is
-/

namespace LogicAnalyzer

/-! ## Pieces -/

section

variable {α : Type} {size : Nat}

theorem ne_nil_of_mem_pieces {entries piece : List α} (h : piece ∈ pieces size entries) :
    piece ≠ [] := by
  fun_induction pieces size entries with
  | case1 => cases h
  | case2 first rest ih =>
    rcases List.mem_cons.mp h with rfl | h
    · exact List.cons_ne_nil _ _
    · exact ih h

/-- A list that is no longer than a piece is one. -/
theorem pieces_of_length_le {entries : List α} (hsome : entries ≠ [])
    (hlength : entries.length ≤ size) : pieces size entries = [entries] := by
  obtain ⟨first, rest, rfl⟩ := List.exists_cons_of_ne_nil hsome
  have hrest : rest.length ≤ size - 1 := by
    rw [List.length_cons] at hlength
    omega
  rw [pieces_cons, List.take_of_length_le hrest, List.drop_of_length_le hrest, pieces_nil]

/-- **How many pieces a list is cut into.** -/
theorem length_pieces (hsize : 0 < size) (entries : List α) :
    (pieces size entries).length = entries.length ⌈/⌉ size := by
  fun_induction pieces size entries with
  | case1 => simp
  | case2 first rest ih =>
    rw [List.length_cons, ih, Nat.ceilDiv_eq_add_pred_div, Nat.ceilDiv_eq_add_pred_div,
      List.length_drop, List.length_cons]
    have hall : rest.length + 1 + size - 1 = rest.length + size := by omega
    rw [hall, Nat.add_div_right _ hsize]
    rcases Nat.lt_or_ge rest.length (size - 1) with hshort | hlong
    · have hnone : rest.length - (size - 1) + size - 1 = size - 1 := by omega
      rw [hnone, Nat.div_eq_of_lt (by omega), Nat.div_eq_of_lt (by omega)]
    · have hleft : rest.length - (size - 1) + size - 1 = rest.length := by omega
      rw [hleft]

end

/-! ## Frames -/

/-- The length that a frame announces. -/
def Frame.lengthField (f : Frame) : Nat := ofLittleEndian ((f.toBytes.drop 2).take 2)

/-- The announced length is that of the payload, unless the payload is too long for it. -/
theorem Frame.lengthField_eq {f : Frame} (h : f.payload.length ≤ Frame.maxPayload) :
    f.lengthField = f.payload.length := by
  have hfield : (f.toBytes.drop 2).take 2 = littleEndian 2 f.payload.length := by
    simp [Frame.toBytes, littleEndian]
  rw [Frame.maxPayload] at h
  rw [Frame.lengthField, hfield, ofLittleEndian_littleEndian, Nat.mod_eq_of_lt (by omega)]

/-- **A frame that carries records of this width**: it announces the length of its payload, which is
that of some whole records, one at least. -/
structure Frame.CarriesRecords (width : Nat) (f : Frame) : Prop where
  opcode : f.opcode = Response.samplesOpcode
  lengthField : f.lengthField = f.payload.length
  whole : width ∣ f.payload.length
  nonempty : f.payload.length ≠ 0

namespace Record

variable {width : Nat}

theorem one_le_perFrame (width : Nat) : 1 ≤ perFrame width := Nat.le_max_right ..

/-- A record of at most eight bytes fits a frame, so rounding up to one per frame does no harm. -/
theorem perFrame_eq (hpos : 0 < width) (hwidth : width ≤ maxWidth) :
    perFrame width = Frame.maxPayload / width := by
  have hfits : 1 ≤ Frame.maxPayload / width := by
    rw [Nat.le_div_iff_mul_le hpos]
    rw [maxWidth] at hwidth
    rw [Frame.maxPayload]
    omega
  exact Nat.max_eq_left hfits

/-- The records that share a frame fit it. -/
theorem length_mul_le_of_mem_pieces (hpos : 0 < width) (hwidth : width ≤ maxWidth)
    {samples piece : List UInt64} (h : piece ∈ pieces (perFrame width) samples) :
    piece.length * width ≤ Frame.maxPayload := by
  have hlength := length_le_of_mem_pieces h
  rw [Nat.max_eq_left (one_le_perFrame width), perFrame_eq hpos hwidth] at hlength
  exact (Nat.le_div_iff_mul_le hpos).mp hlength

/-- **Every frame of some samples** carries whole records. -/
theorem carriesRecords_frames (hpos : 0 < width) (hwidth : width ≤ maxWidth)
    (samples : List UInt64) : ∀ f ∈ frames width samples, f.CarriesRecords width := by
  intro f hf
  obtain ⟨piece, hpiece, rfl⟩ := List.mem_map.mp hf
  have hlength : (piece.flatMap (pack width)).length = piece.length * width :=
    length_flatMap_pack piece
  refine ⟨rfl, ?_, ?_, ?_⟩
  · apply Frame.lengthField_eq
    rw [hlength]
    exact length_mul_le_of_mem_pieces hpos hwidth hpiece
  · exact ⟨piece.length, by rw [hlength, Nat.mul_comm]⟩
  · rw [hlength]
    have hsome := List.length_pos_of_ne_nil (ne_nil_of_mem_pieces hpiece)
    exact Nat.ne_of_gt (Nat.mul_pos hsome hpos)

/-- The stream of some samples is their records, and a header for each frame. -/
theorem length_flatMap_map_frame (parts : List (List UInt64)) :
    ((parts.map fun piece => (⟨Response.samplesOpcode, piece.flatMap (pack width)⟩ : Frame)).flatMap
        Frame.toBytes).length =
      width * parts.flatten.length + Frame.headerLength * parts.length := by
  induction parts with
  | nil => rfl
  | cons piece parts ih =>
    rw [List.map_cons, List.flatMap_cons, List.length_append, ih, Frame.length_toBytes,
      length_flatMap_pack, List.flatten_cons, List.length_append, List.length_cons, Nat.mul_add,
      Nat.mul_add, Nat.mul_comm piece.length]
    omega

/-- **How long the stream of some samples is.** -/
theorem length_flatMap_frames (hpos : 0 < width) (hwidth : width ≤ maxWidth)
    (samples : List UInt64) :
    ((frames width samples).flatMap Frame.toBytes).length =
      width * samples.length +
        Frame.headerLength * (samples.length ⌈/⌉ (Frame.maxPayload / width)) := by
  rw [frames, length_flatMap_map_frame, flatten_pieces, length_pieces (one_le_perFrame width),
    perFrame_eq hpos hwidth]

/-- Records of one to eight bytes can be written. -/
theorem encode_eq_some (hpos : 0 < width) (hwidth : width ≤ maxWidth) (samples : List UInt64) :
    encode width samples = some ((frames width samples).flatMap Frame.toBytes) := by
  have hnot : ¬(width = 0 ∨ (maxWidth < width ∧ samples ≠ [])) := by omega
  exact if_neg hnot

end Record

end LogicAnalyzer
