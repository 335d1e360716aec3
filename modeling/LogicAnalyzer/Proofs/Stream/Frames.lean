import LogicAnalyzer.Proofs.Stream.Script

/-!
# The frames of a script

The records of one part of a script may need several frames.  A script that has one part for each
frame streams the same bytes, and a decoder that was fed all bytes of some of these frames, and any
that follow, has handed out what they hold.

## Main definitions

* `StreamPart.toBytes`: the bytes of a part
* `Script.frames`: a script with one part for each frame

## Main results

* `Script.encode_frames`: it streams the same bytes
* `StreamDecoder.front_delivered`, `front_delivered_of_inTime`: frames that were fed are handed out
-/

namespace LogicAnalyzer

variable {width : Nat}

/-- The bytes of a part, for records that can be written. -/
def StreamPart.toBytes (width : Nat) : StreamPart → List UInt8
  | records samples => (Record.frames width samples).flatMap Frame.toBytes
  | trigger => Response.triggered.frame.toBytes

theorem StreamPart.encode_eq_some (hpos : 0 < width) (hwidth : width ≤ Record.maxWidth)
    (part : StreamPart) : part.encode width = some (part.toBytes width) := by
  cases part with
  | records samples => exact Record.encode_eq_some hpos hwidth samples
  | trigger => rfl

namespace Script

theorem encode_eq_some (hpos : 0 < width) (hwidth : width ≤ Record.maxWidth)
    (script : List StreamPart) :
    encode width script = some (script.flatMap (StreamPart.toBytes width)) := by
  induction script with
  | nil => rfl
  | cons part rest ih =>
    rw [encode, StreamPart.encode_eq_some hpos hwidth, ih]
    rfl

/-- **A script with one part for each frame.** -/
def frames (width : Nat) : List StreamPart → List StreamPart
  | [] => []
  | .records samples :: rest =>
    (pieces (Record.perFrame width) samples).map .records ++ frames width rest
  | .trigger :: rest => .trigger :: frames width rest

/-- Records that share a frame need no other. -/
theorem flatMap_toBytes_pieces (samples : List UInt64) :
    ((pieces (Record.perFrame width) samples).map StreamPart.records).flatMap
        (StreamPart.toBytes width) =
      (StreamPart.records samples).toBytes width := by
  rw [StreamPart.toBytes, Record.frames, List.flatMap_map, List.flatMap_map]
  apply List.flatMap_congr
  intro piece hpiece
  have hlength := length_le_of_mem_pieces hpiece
  rw [Nat.max_eq_left (Record.one_le_perFrame width)] at hlength
  rw [StreamPart.toBytes, Record.frames,
    pieces_of_length_le (ne_nil_of_mem_pieces hpiece) hlength]
  exact List.append_nil _

theorem flatMap_toBytes_frames (script : List StreamPart) :
    (frames width script).flatMap (StreamPart.toBytes width) =
      script.flatMap (StreamPart.toBytes width) := by
  induction script with
  | nil => rfl
  | cons part rest ih =>
    cases part with
    | records samples =>
      rw [frames, List.flatMap_append, flatMap_toBytes_pieces, ih, List.flatMap_cons]
    | trigger => rw [frames, List.flatMap_cons, ih, List.flatMap_cons]

/-- **It streams the same bytes.** -/
theorem encode_frames (hpos : 0 < width) (hwidth : width ≤ Record.maxWidth)
    (script : List StreamPart) : encode width (frames width script) = encode width script := by
  rw [encode_eq_some hpos hwidth, encode_eq_some hpos hwidth, flatMap_toBytes_frames]

/-- The first frames are at the front of what is streamed, and so of as much of it as was seen. -/
theorem prefix_of_encode {script front : List StreamPart} {bytes frontBytes seen tail : List UInt8}
    (hpos : 0 < width) (hwidth : width ≤ Record.maxWidth)
    (hencode : encode width script = some bytes) (hseen : seen <+: bytes ++ tail)
    (hfront : front <+: frames width script) (hfrontBytes : encode width front = some frontBytes)
    (hlength : frontBytes.length ≤ seen.length) : frontBytes <+: seen := by
  obtain ⟨others, hothers⟩ := hfront
  have hbytes : bytes = frontBytes ++ others.flatMap (StreamPart.toBytes width) := by
    rw [← encode_frames hpos hwidth, ← hothers, encode_eq_some hpos hwidth,
      Option.some.injEq, List.flatMap_append] at hencode
    rw [encode_eq_some hpos hwidth, Option.some.injEq] at hfrontBytes
    rw [← hencode, hfrontBytes]
  have hwhole : frontBytes <+: bytes ++ tail := by
    rw [hbytes, List.append_assoc]
    exact List.prefix_append ..
  exact List.prefix_of_prefix_length_le hwhole hseen hlength

end Script

namespace StreamDecoder

variable {channels : ChannelSet} {limit : UInt64} {front : List StreamPart}
  {frontBytes seen : List UInt8}

/-- **Frames that were fed are handed out**: a new decoder that was fed all bytes of some frames, and
any that follow, has handed out the records of these frames that are wanted, and the triggers between
them. -/
theorem front_delivered (hwidth : width ≤ Record.maxWidth)
    (hfrontBytes : Script.encode width front = some frontBytes) (hseen : frontBytes <+: seen) :
    (within limit (Script.samples front)).map (Record.cut width channels) <+:
        ((start width channels limit).feed seen).1.samples ∧
      (Script.triggers 0 front).filter (inTime limit) <+:
        ((start width channels limit).feed seen).1.triggers := by
  obtain ⟨more, rfl⟩ := hseen
  have hreads : Reads width channels limit frontBytes _ _ := .of_script hwidth hfrontBytes
  rw [feed_append, Decoded.samples_append, Decoded.triggers_append, hreads.samples, hreads.triggers]
  exact ⟨List.prefix_append .., List.prefix_append ..⟩

/-- **Before the limit** these are all of them. -/
theorem front_delivered_of_inTime (hwidth : width ≤ Record.maxWidth)
    (hfrontBytes : Script.encode width front = some frontBytes) (hseen : frontBytes <+: seen)
    (hlimit : ((start width channels limit).feed seen).1.limitReached = false) :
    (Script.samples front).map (Record.cut width channels) <+:
        ((start width channels limit).feed seen).1.samples ∧
      Script.triggers 0 front <+: ((start width channels limit).feed seen).1.triggers := by
  have hreads : Reads width channels limit frontBytes _ _ := .of_script hwidth hfrontBytes
  have htime : inTime limit (Script.samples front).length = true := by
    obtain ⟨more, rfl⟩ := hseen
    rw [feed_append, Decoded.limitReached_append, Bool.or_eq_false_iff, limitReached_feed_start,
      hreads.limitReached] at hlimit
    simpa using hlimit.1
  rw [← within_of_inTime htime, ← filter_inTime_triggers htime]
  exact front_delivered hwidth hfrontBytes hseen

end StreamDecoder

end LogicAnalyzer
