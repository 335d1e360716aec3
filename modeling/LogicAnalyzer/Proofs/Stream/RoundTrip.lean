import LogicAnalyzer.Proofs.Stream.Filters
import LogicAnalyzer.Proofs.Wire.Framing

/-!
# Decoding undoes encoding

A device streams blocks: samples, in as many frames as they need, and the notices that the trigger
fired and that the capture is complete.  A decoder that keeps everything gets back what went into
the blocks.  Every sample comes back, cut to what a record holds, and nothing is left over.

A decoder is between two frames when it is asked for the first block, and again after every frame.

## Main definitions

* `StreamBlock`: one block of a stream
* `StreamBlock.encodeAll`: the stream of some blocks
* `StreamDecoder.Ready`: a decoder between two frames

## Main results

* `StreamDecoder.Ready.consumes_encodeAll`: what a decoder makes of some blocks
* `StreamDecoder.decoding_undoes_encoding`: decoding undoes encoding
-/

namespace LogicAnalyzer

/-- What a device streams in one go, its last notice included. -/
inductive StreamBlock where
  | part (sent : StreamPart)
  | captureDone
deriving DecidableEq, Repr

namespace StreamBlock

/-- The bytes of a block, if records of this width can be written. -/
def encode (width : Nat) : StreamBlock → Option (List UInt8)
  | .part sent => sent.encode width
  | .captureDone => some Response.captureDone.frame.toBytes

/-- The bytes of some blocks. -/
def encodeAll (width : Nat) : List StreamBlock → Option (List UInt8)
  | [] => some []
  | block :: rest => do
    let bytes ← block.encode width
    let more ← encodeAll width rest
    return bytes ++ more

/-- The script of some blocks: all but the notices that the capture is complete. -/
def script : List StreamBlock → List StreamPart
  | [] => []
  | .part sent :: rest => sent :: script rest
  | .captureDone :: rest => script rest

/-- Records of one to eight bytes can be written. -/
theorem exists_encodeAll {width : Nat} (hpos : 0 < width) (hwidth : width ≤ Record.maxWidth)
    (blocks : List StreamBlock) : ∃ bytes, encodeAll width blocks = some bytes := by
  induction blocks with
  | nil => exact ⟨[], rfl⟩
  | cons block rest ih =>
    obtain ⟨more, hmore⟩ := ih
    obtain ⟨bytes, hbytes⟩ : ∃ bytes, block.encode width = some bytes := by
      cases block with
      | part sent => exact sent.exists_encode hpos hwidth
      | captureDone => exact ⟨_, rfl⟩
    refine ⟨bytes ++ more, ?_⟩
    simp only [encodeAll, hbytes, hmore, Option.bind_eq_bind, Option.bind_some, Option.pure_def]

end StreamBlock

/-- What a record of this width holds of a sample. -/
def Record.stored (width : Nat) (sample : UInt64) : UInt64 :=
  UInt64.ofNat (sample.toNat % 2 ^ (8 * width))

namespace StreamDecoder

variable {d : StreamDecoder} {width : Nat} {bytes : List UInt8} {out : Decoded}

/-! ## Between two frames -/

/-- **A decoder between two frames** that keeps all records of this width. -/
structure Ready (width : Nat) (d : StreamDecoder) : Prop extends KeepsAll d where
  recordWidth : d.recordWidth = width
  residue : d.residue = []

/-- The decoder after it has handed out as many samples more. -/
def counted (d : StreamDecoder) (count : Nat) : StreamDecoder :=
  { d with emitted := d.emitted + count }

theorem counted_counted (d : StreamDecoder) (first second : Nat) :
    (d.counted first).counted second = d.counted (first + second) := by
  simp only [counted, Nat.add_assoc]

theorem ready_start (hpos : 0 < width) :
    (start width (.first ChannelSet.capacity) 0).Ready width where
  toKeepsAll := keepsAll_start width
  recordWidth := Nat.max_eq_left hpos
  residue := rfl

theorem Ready.counted (h : d.Ready width) (count : Nat) : (d.counted count).Ready width where
  channels := h.channels
  sampleLimit := h.sampleLimit
  recordWidth := h.recordWidth
  residue := h.residue

theorem KeepsAll.limitReached (h : d.KeepsAll) : d.limitReached = false := by
  simp [StreamDecoder.limitReached, h.sampleLimit]

/-- What a decoder makes of bytes of which nothing is left over: it hands out these samples and
triggers, and has counted the samples. -/
def Consumes (d : StreamDecoder) (bytes : List UInt8) (out : Decoded) : Prop :=
  d.feed bytes = (out, d.counted out.samples.length)

theorem Consumes.congr {out' : Decoded} (h : d.Consumes bytes out) (heq : out = out') :
    d.Consumes bytes out' := heq ▸ h

theorem Consumes.append {more : List UInt8} {next : Decoded} (h : d.Consumes bytes out)
    (hmore : (d.counted out.samples.length).Consumes more next) :
    d.Consumes (bytes ++ more) (out ++ next) := by
  unfold Consumes at h hmore ⊢
  rw [feed_append, h, hmore, counted_counted, Decoded.samples_append, List.length_append]

theorem Ready.consumes_nil (h : d.Ready width) : d.Consumes [] {} := by
  have hresidue := h.residue
  cases d
  subst hresidue
  simp [Consumes, feed, decodeFrames, StreamDecoder.counted]

/-- A frame is read whole, and the limit does not matter. -/
theorem Ready.consumes_frame (h : d.Ready width) {r : Response}
    (hlength : r.frame.payload.length ≤ Frame.maxPayload) (hlimit : out.limitReached = false)
    (hreceive : d.receive {} r = .ok (d.counted out.samples.length, out)) :
    d.Consumes r.frame.toBytes out := by
  have hbefore := h.limitReached
  have hafter := (h.counted out.samples.length).limitReached
  unfold Consumes
  rw [feed_frame h.residue hlength hreceive, hbefore, hafter]
  refine Prod.ext ?_ ?_
  · exact Decoded.ext rfl rfl hlimit.symm rfl rfl
  · show { d.counted out.samples.length with residue := [] } = d.counted out.samples.length
    rw [← (h.counted out.samples.length).residue]

/-! ## Blocks -/

/-- The records of a frame come back, each cut to what it holds. -/
theorem Ready.consumes_records (h : d.Ready width) (hpos : 0 < width)
    (hwidth : width ≤ Record.maxWidth) {samples : List UInt64}
    (hlength : samples.length * width ≤ Frame.maxPayload) :
    d.Consumes (Response.samples (samples.flatMap (Record.pack width))).frame.toBytes
      { samples := samples.map (Record.stored width) } := by
  have hpacked : (samples.flatMap (Record.pack width)).length = samples.length * width :=
    Record.length_flatMap_pack samples
  have haccept : d.accept (samples.flatMap (Record.pack width)) =
      samples.map (Record.stored width) := by
    rw [accept_flatMap_pack hpos hwidth h.recordWidth, wanted, if_pos h.sampleLimit,
      List.take_length, h.channels]
    apply List.map_congr_left
    intro sample _
    exact ChannelSet.and_bits_first_capacity _
  have hwhole : (samples.flatMap (Record.pack width)).length % d.recordWidth = 0 := by
    rw [hpacked, h.recordWidth, Nat.mul_mod_left]
  have hreceive := receive_samples hwhole
  rw [haccept] at hreceive
  apply h.consumes_frame _ rfl hreceive
  show (samples.flatMap (Record.pack width)).length ≤ Frame.maxPayload
  rwa [hpacked]

/-- So do those of several frames, in order. -/
theorem Ready.consumes_frames (h : d.Ready width) (hpos : 0 < width)
    (hwidth : width ≤ Record.maxWidth) {parts : List (List UInt64)}
    (hparts : ∀ part ∈ parts, part.length * width ≤ Frame.maxPayload) :
    d.Consumes
      (parts.flatMap fun part =>
        (Response.samples (part.flatMap (Record.pack width))).frame.toBytes)
      { samples := parts.flatten.map (Record.stored width) } := by
  induction parts generalizing d with
  | nil => exact h.consumes_nil
  | cons part parts ih =>
    have hfirst := h.consumes_records hpos hwidth (hparts part (List.mem_cons_self ..))
    have hrest := ih (h.counted part.length) fun part hmem =>
      hparts part (List.mem_cons_of_mem _ hmem)
    have hlength : (part.map (Record.stored width)).length = part.length := List.length_map _
    rw [← hlength] at hrest
    have hboth := hfirst.append hrest
    rw [List.flatMap_cons, List.flatten_cons, List.map_append]
    exact hboth

theorem Ready.consumes_encode (h : d.Ready width) (hpos : 0 < width)
    (hwidth : width ≤ Record.maxWidth) {samples : List UInt64}
    (hencode : Record.encode width samples = some bytes) :
    d.Consumes bytes
      { samples := samples.map (Record.stored width) } := by
  have hpieces : ∀ piece ∈ pieces (Record.perFrame width) samples,
      piece.length * width ≤ Frame.maxPayload :=
    fun piece hmem => Record.length_mul_le_of_mem_pieces hpos hwidth hmem
  have hframes := h.consumes_frames hpos hwidth hpieces
  rw [flatten_pieces] at hframes
  rw [Record.encode_eq_some hpos hwidth] at hencode
  cases hencode
  rw [Record.frames, List.flatMap_map]
  exact hframes

/-- The trigger is told with the number of samples before it. -/
theorem Ready.consumes_triggered (h : d.Ready width) :
    d.Consumes Response.triggered.frame.toBytes { triggers := [d.emitted] } := by
  have hreceive : d.receive {} .triggered = .ok (d, { triggers := [d.emitted] }) := by
    rw [receive, if_neg (by simp [h.toKeepsAll.limitReached])]
    rfl
  exact h.consumes_frame (Nat.zero_le _) rfl hreceive

theorem Ready.consumes_captureDone (h : d.Ready width) :
    d.Consumes Response.captureDone.frame.toBytes { captureDone := true } :=
  h.consumes_frame (Nat.zero_le _) rfl (receive_captureDone d)

/-- What comes back of some blocks, behind `count` samples: all samples, cut to what a record holds,
a position for every trigger, and whether a notice told that the capture is complete. -/
def recovered (width count : Nat) (blocks : List StreamBlock) : Decoded where
  samples := (Script.samples (StreamBlock.script blocks)).map (Record.stored width)
  triggers := Script.triggers count (StreamBlock.script blocks)
  captureDone := decide (.captureDone ∈ blocks)

/-- **What a decoder makes of some blocks.** -/
theorem Ready.consumes_encodeAll (h : d.Ready width) (hpos : 0 < width)
    (hwidth : width ≤ Record.maxWidth) {blocks : List StreamBlock}
    (hencode : StreamBlock.encodeAll width blocks = some bytes) :
    d.Consumes bytes (recovered width d.emitted blocks) := by
  -- on the blocks; what a block brings is counted before the next is read
  induction blocks generalizing d bytes with
  | nil =>
    cases hencode
    exact h.consumes_nil
  | cons block rest ih =>
    simp only [StreamBlock.encodeAll, Option.bind_eq_bind, Option.bind_eq_some_iff,
      Option.pure_def, Option.some.injEq] at hencode
    obtain ⟨first, hfirst, more, hmore, rfl⟩ := hencode
    rcases block with (samples | _) | _
    · have hblocks := (h.consumes_encode hpos hwidth hfirst).append (ih (h.counted _) hmore)
      apply hblocks.congr
      refine Decoded.ext ?_ ?_ rfl ?_ rfl
      · show _ ++ _ = List.map _ (samples ++ _)
        rw [List.map_append]
        rfl
      · show [] ++ Script.triggers (d.emitted + (samples.map _).length) _ =
          Script.triggers (d.emitted + samples.length) _
        rw [List.nil_append, List.length_map]
      · simp [recovered]
    · cases hfirst
      have hblocks := h.consumes_triggered.append (ih (h.counted _) hmore)
      apply hblocks.congr
      refine Decoded.ext rfl rfl rfl ?_ rfl
      simp [recovered]
    · cases hfirst
      have hblocks := h.consumes_captureDone.append (ih (h.counted _) hmore)
      apply hblocks.congr
      refine Decoded.ext rfl rfl rfl ?_ rfl
      simp [recovered]

/-- **Decoding undoes encoding.**  For records of one to eight bytes, the stream of some samples is
made of frames that announce their length truly and carry whole records, and it is as long as the
records and a header for each frame.  Of any such streams with notices between them, a decoder that
keeps everything hands out all samples, cut to what a record holds and in order, for each trigger
the number of samples before it, and whether the capture is complete.  It finds nothing wrong, and
nothing is left over. -/
theorem decoding_undoes_encoding (hpos : 0 < width) (hwidth : width ≤ Record.maxWidth) :
    (∀ samples : List UInt64, ∃ frames : List Frame,
      Record.encode width samples = some (frames.flatMap Frame.toBytes) ∧
      (∀ f ∈ frames, f.CarriesRecords width) ∧
      (frames.flatMap Frame.toBytes).length = width * samples.length +
        Frame.headerLength * (samples.length ⌈/⌉ (Frame.maxPayload / width))) ∧
    ∀ blocks : List StreamBlock, ∃ bytes after,
      StreamBlock.encodeAll width blocks = some bytes ∧
      (start width (.first ChannelSet.capacity) 0).feed bytes =
        ({ samples := (Script.samples (StreamBlock.script blocks)).map fun sample =>
             UInt64.ofNat (sample.toNat % 2 ^ (8 * width))
           triggers := Script.triggers 0 (StreamBlock.script blocks)
           limitReached := false
           captureDone := decide (.captureDone ∈ blocks)
           corruption := none }, after) ∧
      after.residue = [] := by
  constructor
  · intro samples
    exact ⟨Record.frames width samples, Record.encode_eq_some hpos hwidth samples,
      Record.carriesRecords_frames hpos hwidth samples,
      Record.length_flatMap_frames hpos hwidth samples⟩
  · intro blocks
    obtain ⟨bytes, hbytes⟩ := StreamBlock.exists_encodeAll hpos hwidth blocks
    have hfeed := (ready_start hpos).consumes_encodeAll hpos hwidth hbytes
    exact ⟨bytes, _, hbytes, hfeed, rfl⟩

/-- Two records of three bytes, the first of which loses its highest, with both notices between
them. -/
theorem decoding_undoes_encoding_of_three_bytes :
    ∃ bytes after,
      StreamBlock.encodeAll 3 [.part (.records [0x01020304]), .part .trigger, .captureDone,
        .part (.records [5])] = some bytes ∧
      (start 3 (.first ChannelSet.capacity) 0).feed bytes =
        ({ samples := [0x020304, 5], triggers := [1], captureDone := true }, after) ∧
      after.residue = [] :=
  (decoding_undoes_encoding (show 0 < 3 by decide) (by decide)).2
    [.part (.records [0x01020304]), .part .trigger, .captureDone, .part (.records [5])]

end StreamDecoder

end LogicAnalyzer
