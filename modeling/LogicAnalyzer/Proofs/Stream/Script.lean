import LogicAnalyzer.Proofs.Stream.Chunks
import LogicAnalyzer.Proofs.Wire.Framing

/-!
# Decoding a script

A script is what a device streams when nothing goes wrong: records, and between them notices
that the trigger fired.  Decoding it gives back the records up to the limit, cut to their width
and to the recorded channels, and the triggers that fired before the limit.

## Main definitions

* `StreamPart`: one part of a script
* `Script.encode`, `Script.samples`, `Script.triggers`: its bytes, its records, where it triggers
* `within limit`, `inTime limit`: what is wanted of some records, and of some triggers
* `StreamDecoder.Reads`: what bytes of a script are decoded to

## Main results

* `StreamDecoder.Reads.script`: a script is decoded to its records and triggers
* `StreamDecoder.Reads.captureDone_feed`: the notice that the capture is complete adds nothing to
  them
-/

namespace LogicAnalyzer

/-- What a device streams in one go. -/
inductive StreamPart where
  /-- Records of these samples, in as many frames as they need. -/
  | records (samples : List UInt64)
  | trigger
deriving DecidableEq, Repr

/-- The bytes of a part, if records of this width can be written. -/
def StreamPart.encode (width : Nat) : StreamPart → Option (List UInt8)
  | records samples => Record.encode width samples
  | trigger => some Response.triggered.frame.toBytes

/-- Records of one to eight bytes can be written. -/
theorem StreamPart.exists_encode {width : Nat} (hpos : 0 < width) (hwidth : width ≤ Record.maxWidth)
    (part : StreamPart) : ∃ bytes, part.encode width = some bytes := by
  cases part with
  | records samples => exact ⟨_, Record.encode_eq_some hpos hwidth samples⟩
  | trigger => exact ⟨_, rfl⟩

namespace Script

/-- The bytes of a script. -/
def encode (width : Nat) : List StreamPart → Option (List UInt8)
  | [] => some []
  | part :: rest => do
    let bytes ← part.encode width
    let more ← encode width rest
    return bytes ++ more

/-- All samples of a script. -/
def samples : List StreamPart → List UInt64
  | [] => []
  | .records samples :: rest => samples ++ Script.samples rest
  | .trigger :: rest => Script.samples rest

/-- For each trigger the number of samples before it, `count` of which come before the script. -/
def triggers (count : Nat) : List StreamPart → List Nat
  | [] => []
  | .records samples :: rest => triggers (count + samples.length) rest
  | .trigger :: rest => count :: triggers count rest

theorem exists_encode {width : Nat} (hpos : 0 < width) (hwidth : width ≤ Record.maxWidth)
    (script : List StreamPart) : ∃ bytes, encode width script = some bytes := by
  induction script with
  | nil => exact ⟨[], rfl⟩
  | cons part rest ih =>
    obtain ⟨more, hmore⟩ := ih
    obtain ⟨bytes, hbytes⟩ := part.exists_encode hpos hwidth
    exact ⟨bytes ++ more, by simp only [encode, hbytes, hmore, Option.bind_eq_bind,
      Option.bind_some, Option.pure_def]⟩

/-- No trigger fires behind the last sample. -/
theorem le_of_mem_triggers {count trigger : Nat} {script : List StreamPart}
    (h : trigger ∈ triggers count script) : trigger ≤ count + (samples script).length := by
  induction script generalizing count with
  | nil => cases h
  | cons part rest ih =>
    cases part with
    | records samples =>
      have hrest := ih h
      rwa [Nat.add_assoc, ← List.length_append] at hrest
    | trigger =>
      rcases List.mem_cons.mp h with rfl | h
      · exact Nat.le_add_right ..
      · exact ih h

end Script

/-! ## What is wanted -/

/-- The entries that are wanted under a limit; zero is no limit. -/
def within {α : Type} (limit : UInt64) (entries : List α) : List α :=
  if limit = 0 then entries else entries.take limit.toNat

/-- Whether a trigger at this position comes before the limit. -/
def inTime (limit : UInt64) (position : Nat) : Bool := limit == 0 || decide (position < limit.toNat)

theorem inTime_eq_false {limit : UInt64} {position : Nat} :
    inTime limit position = false ↔ limit ≠ 0 ∧ limit.toNat ≤ position := by
  simp [inTime]

theorem toNat_limit_eq_zero {limit : UInt64} : limit.toNat = 0 ↔ limit = 0 :=
  UInt64.toNat_inj (b := 0)

theorem inTime_iff {limit : UInt64} {position : Nat} :
    inTime limit position = true ↔ limit.toNat = 0 ∨ position < limit.toNat := by
  rw [inTime, Bool.or_eq_true, beq_iff_eq, decide_eq_true_eq, toNat_limit_eq_zero]

/-- Everything is wanted of records before the limit. -/
theorem within_of_inTime {α : Type} {limit : UInt64} {entries : List α}
    (h : inTime limit entries.length = true) : within limit entries = entries := by
  rw [inTime, Bool.or_eq_true, beq_iff_eq, decide_eq_true_eq] at h
  unfold within
  split
  · rfl
  · rename_i hlimit
    exact List.take_of_length_le (Nat.le_of_lt (h.resolve_left hlimit))

/-- Before the limit come all triggers of records before it. -/
theorem filter_inTime_triggers {limit : UInt64} {script : List StreamPart}
    (h : inTime limit (Script.samples script).length = true) :
    (Script.triggers 0 script).filter (inTime limit) = Script.triggers 0 script := by
  rw [List.filter_eq_self]
  intro trigger htrigger
  have hle := Script.le_of_mem_triggers htrigger
  rw [Nat.zero_add] at hle
  rw [inTime, Bool.or_eq_true, beq_iff_eq, decide_eq_true_eq] at h ⊢
  exact h.imp_right fun hlt => Nat.lt_of_le_of_lt hle hlt

/-- What a record of this width keeps of a sample, on the recorded channels. -/
def Record.cut (width : Nat) (channels : ChannelSet) (sample : UInt64) : UInt64 :=
  UInt64.ofNat (sample.toNat % 2 ^ (8 * width)) &&& channels.bits

theorem within_append {α : Type} (limit : UInt64) (xs ys : List α) :
    within limit (xs ++ ys) =
      within limit xs ++
        ys.take (if limit = 0 then ys.length
          else min ys.length (limit.toNat - (within limit xs).length)) := by
  by_cases h : limit = 0
  · simp only [within, if_pos h, List.take_length]
  · simp only [within, if_neg h, List.take_append, List.length_take]
    congr 1
    rw [Nat.min_comm ys.length, ← List.take_eq_take_min]
    rcases Nat.le_total xs.length limit.toNat with hle | hle
    · rw [Nat.min_eq_right hle]
    · rw [Nat.min_eq_left hle, Nat.sub_self, Nat.sub_eq_zero_of_le hle]

theorem length_within {α : Type} (limit : UInt64) (xs : List α) :
    (within limit xs).length =
      if limit = 0 then xs.length else min limit.toNat xs.length := by
  unfold within
  split
  · rfl
  · exact List.length_take

namespace StreamDecoder

variable {d d' : StreamDecoder} {out : Decoded} {width : Nat} {channels : ChannelSet}
  {limit : UInt64} {bytes : List UInt8} {records : List UInt64} {triggers : List Nat}

theorem limitReached_start : (start width channels limit).limitReached = false := by
  by_cases h : limit = 0
  · simp [limitReached, start, h]
  · have hpos : limit.toNat ≠ 0 := fun hzero => h (UInt64.toNat_inj.mp hzero)
    simp [limitReached, start, hpos]

/-- A new decoder has not reached the limit, so reaching it is always news. -/
theorem limitReached_feed_start :
    ((start width channels limit).feed bytes).1.limitReached =
      ((start width channels limit).feed bytes).2.limitReached := by
  simp only [feed, limitReached_start, Bool.not_false, Bool.true_and]

theorem feed_start_nil :
    (start width channels limit).feed [] = ({}, start width channels limit) := by
  simp [start, feed, decodeFrames]

/-- Decoding one whole frame. -/
theorem feed_frame {r : Response} (hresidue : d.residue = [])
    (hlength : r.frame.payload.length ≤ Frame.maxPayload)
    (hreceive : d.receive {} r = .ok (d', out)) :
    d.feed r.frame.toBytes =
      ({ out with limitReached := !d.limitReached && d'.limitReached },
        { d' with residue := [] }) := by
  have hdecode := Response.decode_frame_append hlength []
  rw [List.append_nil] at hdecode
  have hnext : d.nextFrame {} r.frame.toBytes = .ok ((d', out), []) := by
    simp only [nextFrame, hdecode, hreceive, Except.ok.injEq, Prod.mk.injEq, true_and,
      List.drop_eq_nil_iff, Response.length_toBytes_frame, Nat.le_refl]
  have hnothing : d'.decodeFrames out [] = ({ d' with residue := [] }, out) := by
    rw [decodeFrames]
  simp only [feed, hresidue, List.nil_append, decodeFrames_of_ok hnext, hnothing]
  rfl

theorem receive_samples {payload : List UInt8} (h : payload.length % d.recordWidth = 0) :
    d.receive {} (.samples payload) =
      .ok ({ d with emitted := d.emitted + (d.accept payload).length },
        { samples := d.accept payload }) := by
  rw [receive, if_pos h]
  rfl

/-- The samples to hand out for records that were packed: those that are wanted, each cut to its
record and to the recorded channels. -/
theorem accept_flatMap_pack (hpos : 0 < width) (hwidth : width ≤ Record.maxWidth)
    (hd : d.recordWidth = width) (samples : List UInt64) :
    d.accept (samples.flatMap (Record.pack width)) =
      (samples.take (d.wanted samples.length)).map (Record.cut width d.channels) := by
  simp only [accept, hd, Record.pieces_flatMap_pack hpos, List.length_map, ← List.map_take,
    List.map_map]
  apply List.map_congr_left
  intro sample _
  simp only [Function.comp_apply, Record.unpack_pack hwidth, Record.cut]

theorem receive_captureDone (d : StreamDecoder) :
    d.receive {} .captureDone = .ok (d, { captureDone := true }) := rfl

/-! ## Whole frames, one after another -/

/-- A new decoder reads all of `bytes`, as these records with triggers at these positions. -/
structure Reads (width : Nat) (channels : ChannelSet) (limit : UInt64) (bytes : List UInt8)
    (records : List UInt64) (triggers : List Nat) : Prop where
  residue : ((start width channels limit).feed bytes).2.residue = []
  samples : ((start width channels limit).feed bytes).1.samples =
    (within limit records).map (Record.cut width channels)
  triggers : ((start width channels limit).feed bytes).1.triggers = triggers.filter (inTime limit)
  captureDone : ((start width channels limit).feed bytes).1.captureDone = false
  corruption : ((start width channels limit).feed bytes).1.corruption = none

theorem Reads.nil : Reads width channels limit [] [] [] := by
  constructor <;> rw [feed_start_nil] <;> simp [start, within]

theorem Reads.emitted (h : Reads width channels limit bytes records triggers) :
    ((start width channels limit).feed bytes).2.emitted =
      if limit = 0 then records.length else min limit.toNat records.length := by
  have hfollows := (feed_follows (start width channels limit) bytes).emitted
  rw [h.samples, List.length_map, length_within] at hfollows
  rw [hfollows]
  exact Nat.zero_add _

/-- The limit is reached when there are as many records. -/
theorem Reads.limitReached (h : Reads width channels limit bytes records triggers) :
    ((start width channels limit).feed bytes).2.limitReached = !inTime limit records.length := by
  have hlimit := (feed_follows (start width channels limit) bytes).sampleLimit
  have hstart : (start width channels limit).sampleLimit = limit := rfl
  rw [StreamDecoder.limitReached, h.emitted, hlimit, hstart, inTime]
  by_cases hzero : limit = 0
  · simp [hzero]
  · simp only [if_neg hzero, Nat.le_min, Nat.le_refl, true_and]
    simp only [Bool.not_or, bne, ← Nat.not_lt, decide_not]

/-- What the decoder is like after all of `bytes`. -/
theorem Reads.setup (h : Reads width channels limit bytes records triggers) :
    ((start width channels limit).feed bytes).2 =
      { recordWidth := max width 1
        channels := channels
        sampleLimit := limit
        emitted := (within limit records).length } := by
  have hfollows := feed_follows (start width channels limit) bytes
  have hemitted := h.emitted
  rw [← length_within] at hemitted
  have hresidue := h.residue
  generalize ((start width channels limit).feed bytes).2 = after at *
  obtain ⟨hwidth, hchannels, hlimit, -⟩ := hfollows
  cases after
  simp only at hwidth hchannels hlimit hemitted hresidue
  subst hwidth hchannels hlimit hemitted hresidue
  rfl

/-- One frame of records. -/
theorem Reads.frame (h : Reads width channels limit bytes records triggers) (hpos : 0 < width)
    (hwidth : width ≤ Record.maxWidth) {samples : List UInt64}
    (hlength : samples.length * width ≤ Frame.maxPayload) :
    Reads width channels limit
      (bytes ++ (Response.samples (samples.flatMap (Record.pack width))).frame.toBytes)
      (records ++ samples) triggers := by
  have hrecordWidth : ((start width channels limit).feed bytes).2.recordWidth = width := by
    rw [h.setup]
    exact Nat.max_eq_left hpos
  -- the decoder cuts at the limit before it unpacks, so the records it does not want are not read
  have haccept : ((start width channels limit).feed bytes).2.accept
        (samples.flatMap (Record.pack width)) =
      (samples.take (if limit = 0 then samples.length
        else min samples.length (limit.toNat - (within limit records).length))).map
          (Record.cut width channels) := by
    rw [accept_flatMap_pack hpos hwidth hrecordWidth, h.setup]
    rfl
  have hwhole : (samples.flatMap (Record.pack width)).length %
      ((start width channels limit).feed bytes).2.recordWidth = 0 := by
    rw [hrecordWidth, Record.length_flatMap_pack, Nat.mul_mod_left]
  have hfits : (Response.samples (samples.flatMap (Record.pack width))).frame.payload.length ≤
      Frame.maxPayload := by
    rw [Response.frame, Record.length_flatMap_pack]
    exact hlength
  have hframe := feed_frame h.residue hfits (receive_samples hwhole)
  refine ⟨?_, ?_, ?_, ?_, ?_⟩ <;> rw [feed_append, hframe]
  · simp only [Decoded.samples_append, h.samples, haccept]
    rw [within_append, List.map_append]
  · simp only [Decoded.triggers_append, h.triggers, List.append_nil]
  · simp only [Decoded.captureDone_append, h.captureDone, Bool.or_self]
  · rfl

/-- Frames of records, one after another. -/
theorem Reads.frames (h : Reads width channels limit bytes records triggers) (hpos : 0 < width)
    (hwidth : width ≤ Record.maxWidth) {pieces : List (List UInt64)}
    (hpieces : ∀ piece ∈ pieces, piece.length * width ≤ Frame.maxPayload) :
    Reads width channels limit
      (bytes ++ pieces.flatMap fun piece =>
        (Response.samples (piece.flatMap (Record.pack width))).frame.toBytes)
      (records ++ pieces.flatten) triggers := by
  induction pieces generalizing bytes records with
  | nil => simpa using h
  | cons piece pieces ih =>
    have hfirst := h.frame hpos hwidth (hpieces piece (List.mem_cons_self ..))
    have hrest := ih hfirst fun piece hmem => hpieces piece (List.mem_cons_of_mem _ hmem)
    rwa [List.append_assoc, List.append_assoc] at hrest

/-- The notice that the trigger fired.  Behind the limit it is dropped. -/
theorem Reads.trigger (h : Reads width channels limit bytes records triggers) :
    Reads width channels limit (bytes ++ Response.triggered.frame.toBytes) records
      (triggers ++ [records.length]) := by
  have hfits : Response.triggered.frame.payload.length ≤ Frame.maxPayload := Nat.zero_le _
  have hlimit := h.limitReached
  cases htime : inTime limit records.length with
  | false =>
    rw [htime, Bool.not_false] at hlimit
    have hreceive : ((start width channels limit).feed bytes).2.receive {} .triggered =
        .ok (((start width channels limit).feed bytes).2, {}) := by
      rw [receive, if_pos hlimit]
    have hframe := feed_frame h.residue hfits hreceive
    refine ⟨?_, ?_, ?_, ?_, ?_⟩ <;> rw [feed_append, hframe]
    · simp only [Decoded.samples_append, h.samples, List.append_nil]
    · simp [h.triggers, htime]
    · simp only [Decoded.captureDone_append, h.captureDone, Bool.or_self]
    · rfl
  | true =>
    rw [htime] at hlimit
    have hemitted : ((start width channels limit).feed bytes).2.emitted = records.length := by
      rw [h.emitted]
      split
      · rfl
      · rename_i hzero
        simp only [inTime, Bool.or_eq_true, beq_iff_eq, hzero, false_or, decide_eq_true_eq] at htime
        exact Nat.min_eq_right (Nat.le_of_lt htime)
    have hreceive : ((start width channels limit).feed bytes).2.receive {} .triggered =
        .ok (((start width channels limit).feed bytes).2, { triggers := [records.length] }) := by
      rw [receive, if_neg (by simp [hlimit]), hemitted]
      rfl
    have hframe := feed_frame h.residue hfits hreceive
    refine ⟨?_, ?_, ?_, ?_, ?_⟩ <;> rw [feed_append, hframe]
    · simp only [Decoded.samples_append, h.samples, List.append_nil]
    · simp [h.triggers, htime]
    · simp only [Decoded.captureDone_append, h.captureDone, Bool.or_self]
    · rfl

/-! ## A script -/

/-- All frames of the records of a part. -/
theorem Reads.recordsPart (h : Reads width channels limit bytes records triggers)
    (hwidth : width ≤ Record.maxWidth) {samples : List UInt64} {more : List UInt8}
    (hencode : Record.encode width samples = some more) :
    Reads width channels limit (bytes ++ more) (records ++ samples) triggers := by
  unfold Record.encode at hencode
  split at hencode
  · cases hencode
  · rename_i hnot
    have hpos : 0 < width := Nat.pos_of_ne_zero fun hzero => hnot (.inl hzero)
    have hpieces : ∀ piece ∈ pieces (Record.perFrame width) samples,
        piece.length * width ≤ Frame.maxPayload :=
      fun piece hmem => Record.length_mul_le_of_mem_pieces hpos hwidth hmem
    have hframes := h.frames hpos hwidth hpieces
    rw [flatten_pieces] at hframes
    cases hencode
    rw [Record.frames, List.flatMap_map]
    exact hframes

/-- **A script is decoded to its records and triggers**, whatever script it follows. -/
theorem Reads.script (h : Reads width channels limit bytes records triggers)
    (hwidth : width ≤ Record.maxWidth) {script : List StreamPart} {more : List UInt8}
    (hencode : Script.encode width script = some more) :
    Reads width channels limit (bytes ++ more) (records ++ Script.samples script)
      (triggers ++ Script.triggers records.length script) := by
  -- on the parts, with all that was read before them as `bytes`
  induction script generalizing bytes records triggers more with
  | nil =>
    cases hencode
    simpa [Script.samples, Script.triggers] using h
  | cons part rest ih =>
    simp only [Script.encode, Option.bind_eq_bind, Option.bind_eq_some_iff, Option.pure_def,
      Option.some.injEq] at hencode
    obtain ⟨first, hfirst, others, hothers, rfl⟩ := hencode
    rw [← List.append_assoc]
    cases part with
    | records samples =>
      have hpart := ih (h.recordsPart hwidth hfirst) hothers
      rwa [List.append_assoc records, List.length_append] at hpart
    | trigger =>
      cases hfirst
      have hpart := ih h.trigger hothers
      rwa [List.append_assoc triggers] at hpart

/-- A new decoder reads a script from its beginning. -/
theorem Reads.of_script (hwidth : width ≤ Record.maxWidth) {script : List StreamPart}
    (hencode : Script.encode width script = some bytes) :
    Reads width channels limit bytes (Script.samples script) (Script.triggers 0 script) :=
  Reads.nil.script hwidth hencode

/-- **The notice that the capture is complete** adds nothing to what was read before. -/
theorem Reads.captureDone_feed (h : Reads width channels limit bytes records triggers) :
    (start width channels limit).feed (bytes ++ Response.captureDone.frame.toBytes) =
      ({ samples := (within limit records).map (Record.cut width channels)
         triggers := triggers.filter (inTime limit)
         limitReached := !inTime limit records.length
         captureDone := true },
        ((start width channels limit).feed bytes).2) := by
  have hfits : Response.captureDone.frame.payload.length ≤ Frame.maxPayload := Nat.zero_le _
  have hlimit := limitReached_feed_start.trans h.limitReached
  have hframe := feed_frame h.residue hfits (receive_captureDone _)
  rw [feed_append, hframe]
  refine Prod.ext (Decoded.ext ?_ ?_ ?_ ?_ ?_) ?_
  · simp only [Decoded.samples_append, h.samples, List.append_nil]
  · simp only [Decoded.triggers_append, h.triggers, List.append_nil]
  · simp only [Decoded.limitReached_append, hlimit, Bool.not_and_self, Bool.or_false]
  · simp only [Decoded.captureDone_append, Bool.or_true]
  · rfl
  · rw [h.setup]

end StreamDecoder

end LogicAnalyzer
