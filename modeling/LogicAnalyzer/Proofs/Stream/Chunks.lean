import LogicAnalyzer.Proofs.Wire.Responses
import LogicAnalyzer.Stream.Decoder

/-!
# Chunks do not matter

A decoder that is fed a stream in chunks gives the same samples, triggers and notices as one
that is fed the whole stream at once, and remembers the same afterwards.  It holds of corrupt
streams as well: the corrupt frame stays in front of the residue and is refused again.

What chunks bring is added up with `++`, so feeding is an action of the byte strings on
decoders: feeding `x ++ y` is feeding `x` and then `y`.

## Main definitions

* `Decoded.append`: what two chunks bring, one after the other
* `Decoded.AddsUp`: what a list of chunks brings together
* `StreamDecoder.nextFrame`: what the first frame of some bytes does

## Main results

* `StreamDecoder.feed_append`: feeding `x ++ y` is feeding `x` and then `y`
* `StreamDecoder.feedAll_start`: chunks do not matter
-/

namespace LogicAnalyzer

/-! ## What two chunks bring -/

namespace Decoded

/-- What two chunks bring, one after the other.  A corrupt frame counts if it is still in the
way of the second. -/
def append (first second : Decoded) : Decoded where
  samples := first.samples ++ second.samples
  triggers := first.triggers ++ second.triggers
  limitReached := first.limitReached || second.limitReached
  captureDone := first.captureDone || second.captureDone
  corruption := second.corruption

instance : Append Decoded := ⟨append⟩

variable (x y z : Decoded)

@[simp] theorem samples_append : (x ++ y).samples = x.samples ++ y.samples := rfl

@[simp] theorem triggers_append : (x ++ y).triggers = x.triggers ++ y.triggers := rfl

@[simp] theorem limitReached_append :
    (x ++ y).limitReached = (x.limitReached || y.limitReached) := rfl

@[simp] theorem captureDone_append :
    (x ++ y).captureDone = (x.captureDone || y.captureDone) := rfl

@[simp] theorem corruption_append : (x ++ y).corruption = y.corruption := rfl

@[simp]
theorem empty_append : ({} : Decoded) ++ x = x := by
  change append {} x = x
  simp [append]

theorem append_empty {x : Decoded} (h : x.corruption = none) : x ++ ({} : Decoded) = x := by
  change append x {} = x
  simp [append, ← h]

theorem append_assoc : x ++ y ++ z = x ++ (y ++ z) := by
  change append (append x y) z = append x (append y z)
  simp [append, Bool.or_assoc]

/-- Together the pieces bring what the whole brings.  A frame that is corrupt for the whole is
still corrupt for the last piece. -/
structure AddsUp (pieces : List Decoded) (whole : Decoded) : Prop where
  samples : pieces.flatMap Decoded.samples = whole.samples
  triggers : pieces.flatMap Decoded.triggers = whole.triggers
  limitReached : pieces.any Decoded.limitReached = whole.limitReached
  captureDone : pieces.any Decoded.captureDone = whole.captureDone
  /-- What is wrong with the stream is what is wrong for the last piece. -/
  corruption : ∀ last ∈ pieces.getLast?, last.corruption = whole.corruption

theorem AddsUp.nil : AddsUp [] {} := ⟨rfl, rfl, rfl, rfl, by simp⟩

theorem AddsUp.singleton : AddsUp [x] x := by
  constructor <;> simp

theorem AddsUp.cons {pieces : List Decoded} {whole : Decoded} (h : AddsUp pieces whole)
    (hpieces : pieces ≠ []) : AddsUp (x :: pieces) (x ++ whole) where
  samples := by rw [List.flatMap_cons, h.samples, samples_append]
  triggers := by rw [List.flatMap_cons, h.triggers, triggers_append]
  limitReached := by rw [List.any_cons, h.limitReached, limitReached_append]
  captureDone := by rw [List.any_cons, h.captureDone, captureDone_append]
  corruption := by
    obtain ⟨piece, rest, rfl⟩ := List.exists_cons_of_ne_nil hpieces
    rw [List.getLast?_cons_cons, corruption_append]
    exact h.corruption

end Decoded

namespace StreamDecoder

variable {d d' : StreamDecoder} {out out' : Decoded} {bytes : List UInt8}

/-! ## One frame -/

/-- What the first frame of some bytes does: the decoder and the output after it, and the
bytes behind it. -/
def nextFrame (d : StreamDecoder) (out : Decoded) (bytes : List UInt8) :
    Except ResponseError ((StreamDecoder × Decoded) × List UInt8) :=
  match Response.decode bytes with
  | .error e => .error e
  | .ok response =>
    match d.receive out response with
    | .error cause => .error (.corrupt cause)
    | .ok after => .ok (after, bytes.drop response.wireLength)

theorem decodeFrames_of_ok {rest : List UInt8}
    (h : d.nextFrame out bytes = .ok ((d', out'), rest)) :
    d.decodeFrames out bytes = d'.decodeFrames out' rest := by
  unfold nextFrame at h
  split at h
  · cases h
  · rename_i response hdecode
    split at h
    · cases h
    · rename_i after hreceive
      cases h
      have hlength := response.headerLength_le_wireLength
      rw [Frame.headerLength] at hlength
      cases bytes with
      | nil => cases hdecode
      | cons first tail =>
        obtain ⟨n, hn⟩ : ∃ n, response.wireLength = n + 1 := ⟨response.wireLength - 1, by omega⟩
        rw [decodeFrames, hdecode]
        simp only [hreceive, hn, List.drop_succ_cons, Nat.add_sub_cancel]

theorem decodeFrames_of_truncated {needed available : Nat}
    (h : d.nextFrame out bytes = .error (.truncated needed available)) :
    d.decodeFrames out bytes = ({ d with residue := bytes }, out) := by
  cases bytes with
  | nil => rw [decodeFrames]
  | cons first rest =>
    unfold nextFrame at h
    split at h
    · rename_i e hdecode
      cases h
      rw [decodeFrames, hdecode]
    · split at h <;> cases h

theorem decodeFrames_of_corrupt {cause : Corruption}
    (h : d.nextFrame out bytes = .error (.corrupt cause)) :
    d.decodeFrames out bytes =
      ({ d with residue := bytes }, { out with corruption := some cause }) := by
  cases bytes with
  | nil => cases h
  | cons first rest =>
    unfold nextFrame at h
    split at h
    · rename_i e hdecode
      cases h
      rw [decodeFrames, hdecode]
    · rename_i response hdecode
      split at h
      · rename_i cause' hreceive
        cases h
        rw [decodeFrames, hdecode]
        simp only [hreceive]
      · cases h

theorem length_lt_of_nextFrame {rest : List UInt8}
    (h : d.nextFrame out bytes = .ok ((d', out'), rest)) : rest.length < bytes.length := by
  unfold nextFrame at h
  split at h
  · cases h
  · rename_i response hdecode
    split at h
    · cases h
    · cases h
      have hle := Response.wireLength_le_of_decode_eq_ok hdecode
      have hheader := response.headerLength_le_wireLength
      rw [Frame.headerLength] at hheader
      rw [List.length_drop]
      omega

/-- A complete frame does the same whatever follows it. -/
theorem nextFrame_append_of_ok {rest : List UInt8}
    (h : d.nextFrame out bytes = .ok ((d', out'), rest)) (more : List UInt8) :
    d.nextFrame out (bytes ++ more) = .ok ((d', out'), rest ++ more) := by
  unfold nextFrame at h
  split at h
  · cases h
  · rename_i response hdecode
    split at h
    · cases h
    · rename_i after hreceive
      cases h
      have hle := Response.wireLength_le_of_decode_eq_ok hdecode
      simp only [nextFrame, Response.decode_append_of_ok hdecode, hreceive,
        List.drop_append_of_le_length hle]

/-- A corrupt frame is refused whatever follows it. -/
theorem nextFrame_append_of_corrupt {cause : Corruption}
    (h : d.nextFrame out bytes = .error (.corrupt cause)) (more : List UInt8) :
    d.nextFrame out (bytes ++ more) = .error (.corrupt cause) := by
  unfold nextFrame at h
  split at h
  · rename_i e hdecode
    cases h
    simp only [nextFrame, Response.decode_append_of_corrupt hdecode]
  · rename_i response hdecode
    split at h
    · rename_i cause' hreceive
      cases h
      simp only [nextFrame, Response.decode_append_of_ok hdecode, hreceive]
    · cases h

/-- **Decoding, frame by frame**: a property of decoders and bytes holds if it holds of bytes
whose first frame is incomplete or corrupt, and follows from what is behind a frame. -/
theorem frames_induction {motive : StreamDecoder → List UInt8 → Prop}
    (truncated : ∀ d bytes needed available,
      d.nextFrame {} bytes = .error (.truncated needed available) → motive d bytes)
    (corrupt : ∀ d bytes cause, d.nextFrame {} bytes = .error (.corrupt cause) → motive d bytes)
    (frame : ∀ d bytes d' out rest,
      d.nextFrame {} bytes = .ok ((d', out), rest) → motive d' rest → motive d bytes)
    (d : StreamDecoder) (bytes : List UInt8) : motive d bytes := by
  -- on how many bytes are left: a frame has a header, so less is left behind it
  induction h : bytes.length using Nat.strongRecOn generalizing d bytes with
  | _ n ih =>
    cases hnext : d.nextFrame {} bytes with
    | error e =>
      cases e with
      | truncated needed available => exact truncated d bytes needed available hnext
      | corrupt cause => exact corrupt d bytes cause hnext
    | ok after =>
      obtain ⟨⟨d', out⟩, rest⟩ := after
      have hlt := length_lt_of_nextFrame hnext
      exact frame d bytes d' out rest hnext (ih rest.length (h ▸ hlt) d' rest rfl)

/-! ## What receiving keeps, and what it depends on -/

/-- `d'` is `d` after handing out some samples: it is set up as `d` is, and has counted them. -/
structure Follows (d d' : StreamDecoder) (samples : List UInt64) : Prop where
  recordWidth : d'.recordWidth = d.recordWidth
  channels : d'.channels = d.channels
  sampleLimit : d'.sampleLimit = d.sampleLimit
  emitted : d'.emitted = d.emitted + samples.length

theorem Follows.trans {d'' : StreamDecoder} {xs ys : List UInt64} (h : Follows d d' xs)
    (h' : Follows d' d'' ys) : Follows d d'' (xs ++ ys) where
  recordWidth := h'.recordWidth.trans h.recordWidth
  channels := h'.channels.trans h.channels
  sampleLimit := h'.sampleLimit.trans h.sampleLimit
  emitted := by rw [h'.emitted, h.emitted, List.length_append, Nat.add_assoc]

/-- A limit that is reached stays reached. -/
theorem Follows.limitReached {xs : List UInt64} (h : Follows d d' xs)
    (hd : d.limitReached = true) : d'.limitReached = true := by
  simp only [StreamDecoder.limitReached, h.sampleLimit, h.emitted, Bool.and_eq_true,
    decide_eq_true_eq] at hd ⊢
  exact ⟨hd.1, by omega⟩

theorem receive_follows {response : Response} (h : d.receive {} response = .ok (d', out)) :
    Follows d d' out.samples ∧ out.limitReached = false ∧ out.corruption = none := by
  cases response with
  | samples payload =>
    by_cases hwhole : payload.length % d.recordWidth = 0
    · rw [receive, if_pos hwhole] at h
      cases h
      exact ⟨⟨rfl, rfl, rfl, rfl⟩, rfl, rfl⟩
    · rw [receive, if_neg hwhole] at h
      cases h
  | triggered =>
    by_cases hlimit : d.limitReached = true
    · rw [receive, if_pos hlimit] at h
      cases h
      exact ⟨⟨rfl, rfl, rfl, rfl⟩, rfl, rfl⟩
    · rw [receive, if_neg hlimit] at h
      cases h
      exact ⟨⟨rfl, rfl, rfl, rfl⟩, rfl, rfl⟩
  | captureDone =>
    cases h
    exact ⟨⟨rfl, rfl, rfl, rfl⟩, rfl, rfl⟩

theorem nextFrame_follows {rest : List UInt8} (h : d.nextFrame {} bytes = .ok ((d', out), rest)) :
    Follows d d' out.samples ∧ out.limitReached = false ∧ out.corruption = none := by
  unfold nextFrame at h
  split at h
  · cases h
  · split at h
    · cases h
    · rename_i after hreceive
      cases h
      exact receive_follows hreceive

/-- What a response adds to an output does not depend on the output. -/
theorem receive_append (d : StreamDecoder) {first : Decoded} (hfirst : first.corruption = none)
    (response : Response) :
    d.receive first response =
      (d.receive {} response).map fun (d', out) => (d', first ++ out) := by
  cases response with
  | samples payload =>
    by_cases h : payload.length % d.recordWidth = 0
    · simp only [receive, if_pos h, Except.map, Except.ok.injEq, Prod.mk.injEq, true_and]
      change _ = Decoded.append _ _
      simp [Decoded.append, hfirst]
    · simp only [receive, if_neg h, Except.map]
  | triggered =>
    by_cases h : d.limitReached = true
    · simp only [receive, if_pos h, Except.map, Decoded.append_empty hfirst]
    · simp only [receive, if_neg h, Except.map, Except.ok.injEq, Prod.mk.injEq, true_and]
      change _ = Decoded.append _ _
      simp [Decoded.append, hfirst]
  | captureDone =>
    simp only [receive, Except.map, Except.ok.injEq, Prod.mk.injEq, true_and]
    change _ = Decoded.append _ _
    simp [Decoded.append, hfirst]

/-- The bytes left over play no part in receiving. -/
theorem receive_residue (d : StreamDecoder) (residue : List UInt8) (response : Response) :
    { d with residue }.receive {} response =
      (d.receive {} response).map fun (d', out) => ({ d' with residue }, out) := by
  cases response with
  | samples payload =>
    by_cases h : payload.length % d.recordWidth = 0
    · simp only [receive, if_pos h, Except.map]
      rfl
    · simp only [receive, if_neg h, Except.map]
  | triggered =>
    have hlimit : StreamDecoder.limitReached { d with residue } = d.limitReached := rfl
    by_cases h : d.limitReached = true
    · simp only [receive, hlimit, if_pos h, Except.map]
    · simp only [receive, hlimit, if_neg h, Except.map]
  | captureDone => rfl

theorem nextFrame_append_out (d : StreamDecoder) {first : Decoded}
    (hfirst : first.corruption = none) (bytes : List UInt8) :
    d.nextFrame first bytes =
      (d.nextFrame {} bytes).map fun ((d', out), rest) => ((d', first ++ out), rest) := by
  unfold nextFrame
  cases Response.decode bytes with
  | error e => rfl
  | ok response =>
    simp only [receive_append d hfirst]
    cases d.receive {} response <;> rfl

theorem nextFrame_residue (d : StreamDecoder) (residue bytes : List UInt8) :
    { d with residue }.nextFrame {} bytes =
      (d.nextFrame {} bytes).map fun ((d', out), rest) => (({ d' with residue }, out), rest) := by
  unfold nextFrame
  cases Response.decode bytes with
  | error e => rfl
  | ok response =>
    simp only [receive_residue]
    cases d.receive {} response <;> rfl

/-! ## All frames -/

/-- What decoding adds to an output does not depend on the output. -/
theorem decodeFrames_append_out (d : StreamDecoder) (bytes : List UInt8) {first : Decoded}
    (hfirst : first.corruption = none) :
    d.decodeFrames first bytes =
      ((d.decodeFrames {} bytes).1, first ++ (d.decodeFrames {} bytes).2) := by
  induction d, bytes using frames_induction generalizing first with
  | truncated d bytes needed available h =>
    have h' : d.nextFrame first bytes = .error (.truncated needed available) := by
      rw [nextFrame_append_out d hfirst, h]
      rfl
    rw [decodeFrames_of_truncated h, decodeFrames_of_truncated h', Decoded.append_empty hfirst]
  | corrupt d bytes cause h =>
    have h' : d.nextFrame first bytes = .error (.corrupt cause) := by
      rw [nextFrame_append_out d hfirst, h]
      rfl
    rw [decodeFrames_of_corrupt h, decodeFrames_of_corrupt h']
    refine Prod.ext rfl (Decoded.ext ?_ ?_ ?_ ?_ ?_) <;> simp
  | frame d bytes d' out rest h ih =>
    have h' : d.nextFrame first bytes = .ok ((d', first ++ out), rest) := by
      rw [nextFrame_append_out d hfirst, h]
      rfl
    have hout := (nextFrame_follows h).2.2
    have hboth : (first ++ out).corruption = none := hout
    rw [decodeFrames_of_ok h, decodeFrames_of_ok h', ih hout, ih hboth, Decoded.append_assoc]

/-- **One step of decoding**: the first frame, and then what is behind it. -/
theorem decodeFrames_cons {rest : List UInt8} (h : d.nextFrame {} bytes = .ok ((d', out), rest)) :
    d.decodeFrames {} bytes =
      ((d'.decodeFrames {} rest).1, out ++ (d'.decodeFrames {} rest).2) := by
  rw [decodeFrames_of_ok h, decodeFrames_append_out d' rest (nextFrame_follows h).2.2]

/-- The bytes that were left over before play no part in decoding. -/
theorem decodeFrames_residue (residue : List UInt8) (d : StreamDecoder) (bytes : List UInt8) :
    { d with residue }.decodeFrames {} bytes = d.decodeFrames {} bytes := by
  induction d, bytes using frames_induction with
  | truncated d bytes needed available h =>
    have h' : { d with residue }.nextFrame {} bytes = .error (.truncated needed available) := by
      rw [nextFrame_residue, h]
      rfl
    rw [decodeFrames_of_truncated h, decodeFrames_of_truncated h']
  | corrupt d bytes cause h =>
    have h' : { d with residue }.nextFrame {} bytes = .error (.corrupt cause) := by
      rw [nextFrame_residue, h]
      rfl
    rw [decodeFrames_of_corrupt h, decodeFrames_of_corrupt h']
  | frame d bytes d' out rest h ih =>
    have h' : { d with residue }.nextFrame {} bytes = .ok (({ d' with residue }, out), rest) := by
      rw [nextFrame_residue, h]
      rfl
    rw [decodeFrames_cons h, decodeFrames_cons h', ih]

theorem decodeFrames_follows (d : StreamDecoder) (bytes : List UInt8) :
    Follows d (d.decodeFrames {} bytes).1 (d.decodeFrames {} bytes).2.samples ∧
      (d.decodeFrames {} bytes).2.limitReached = false := by
  induction d, bytes using frames_induction with
  | truncated d bytes needed available h =>
    rw [decodeFrames_of_truncated h]
    exact ⟨⟨rfl, rfl, rfl, rfl⟩, rfl⟩
  | corrupt d bytes cause h =>
    rw [decodeFrames_of_corrupt h]
    exact ⟨⟨rfl, rfl, rfl, rfl⟩, rfl⟩
  | frame d bytes d' out rest h ih =>
    obtain ⟨hfollows, hlimit, -⟩ := nextFrame_follows h
    rw [decodeFrames_cons h]
    refine ⟨hfollows.trans ih.1, ?_⟩
    rw [Decoded.limitReached_append, hlimit, ih.2, Bool.or_false]

/-- **Decoding resumes where it stopped**: what is left over of `bytes`, followed by `more`, is
decoded to what decoding all of it at once has in addition. -/
theorem decodeFrames_append (d : StreamDecoder) (bytes more : List UInt8) :
    d.decodeFrames {} (bytes ++ more) =
      let before := d.decodeFrames {} bytes
      let after := before.1.decodeFrames {} (before.1.residue ++ more)
      (after.1, before.2 ++ after.2) := by
  induction d, bytes using frames_induction with
  | truncated d bytes needed available h =>
    simp only [decodeFrames_of_truncated h, decodeFrames_residue, Decoded.empty_append]
  | corrupt d bytes cause h =>
    have hmore := nextFrame_append_of_corrupt h more
    simp only [decodeFrames_of_corrupt h, decodeFrames_residue, decodeFrames_of_corrupt hmore]
    rfl
  | frame d bytes d' out rest h ih =>
    have hmore := nextFrame_append_of_ok h more
    simp only [decodeFrames_cons h, decodeFrames_cons hmore, ih, Decoded.append_assoc]

/-! ## Feeding -/

theorem feed_follows (d : StreamDecoder) (bytes : List UInt8) :
    Follows d (d.feed bytes).2 (d.feed bytes).1.samples :=
  (decodeFrames_follows d _).1

/-- **Feeding is an action**: what `x ++ y` brings is what `x` brings and then `y`. -/
theorem feed_append (d : StreamDecoder) (x y : List UInt8) :
    d.feed (x ++ y) =
      ((d.feed x).1 ++ ((d.feed x).2.feed y).1, ((d.feed x).2.feed y).2) := by
  have hfirst := (feed_follows d x).limitReached
  have hsecond := (feed_follows (d.feed x).2 y).limitReached
  have happend := decodeFrames_append d (d.residue ++ x) y
  simp only [feed] at hfirst hsecond ⊢
  rw [← List.append_assoc, happend]
  refine Prod.ext (Decoded.ext rfl rfl ?_ rfl rfl) rfl
  simp only [Decoded.limitReached_append]
  generalize (d.decodeFrames {} (d.residue ++ x)).1 = after at *
  generalize (after.decodeFrames {} (after.residue ++ y)).1 = after' at *
  cases hd : d.limitReached <;> cases ha : after.limitReached <;> simp_all

/-! ## Feeding chunk by chunk -/

theorem feedAll_cons (d : StreamDecoder) (chunk : List UInt8) (chunks : List (List UInt8)) :
    d.feedAll (chunk :: chunks) =
      ((d.feed chunk).1 :: ((d.feed chunk).2.feedAll chunks).1,
        ((d.feed chunk).2.feedAll chunks).2) := rfl

theorem feedAll_append (d : StreamDecoder) (chunks more : List (List UInt8)) :
    d.feedAll (chunks ++ more) =
      ((d.feedAll chunks).1 ++ ((d.feedAll chunks).2.feedAll more).1,
        ((d.feedAll chunks).2.feedAll more).2) := by
  induction chunks generalizing d with
  | nil => rfl
  | cons chunk chunks ih =>
    rw [List.cons_append, feedAll_cons, feedAll_cons, ih]
    rfl

/-- Feeding some chunks, one at least, is feeding their bytes at once. -/
theorem feedAll_cons_addsUp (d : StreamDecoder) (chunk : List UInt8)
    (chunks : List (List UInt8)) :
    Decoded.AddsUp (d.feedAll (chunk :: chunks)).1 (d.feed (chunk :: chunks).flatten).1 ∧
      (d.feedAll (chunk :: chunks)).2 = (d.feed (chunk :: chunks).flatten).2 := by
  induction chunks generalizing d chunk with
  | nil =>
    rw [feedAll_cons, List.flatten_cons, List.flatten_nil, List.append_nil]
    exact ⟨Decoded.AddsUp.singleton _, rfl⟩
  | cons next chunks ih =>
    obtain ⟨hpieces, hafter⟩ := ih (d.feed chunk).2 next
    rw [feedAll_cons, List.flatten_cons, feed_append]
    exact ⟨hpieces.cons _ (by simp [feedAll_cons]), hafter⟩

/-- **Chunks do not matter.**  However a stream is cut, a new decoder that is fed the pieces one
after another hands out what one that is fed the stream at once does, the samples and the
triggers in the same order, and is then in the same state: the same count, the same bytes left
over, and the same opinion on whether the limit is reached. -/
theorem feedAll_start (recordWidth : Nat) (channels : ChannelSet) (sampleLimit : UInt64)
    (chunks : List (List UInt8)) :
    let fresh := start recordWidth channels sampleLimit
    Decoded.AddsUp (fresh.feedAll chunks).1 (fresh.feed chunks.flatten).1 ∧
      (fresh.feedAll chunks).2 = (fresh.feed chunks.flatten).2 := by
  intro fresh
  cases chunks with
  | nil =>
    have hnothing : fresh.feed [] = ({}, fresh) := by
      simp [fresh, start, feed, decodeFrames]
    rw [List.flatten_nil, hnothing]
    exact ⟨Decoded.AddsUp.nil, rfl⟩
  | cons chunk chunks => exact feedAll_cons_addsUp fresh chunk chunks

end StreamDecoder

end LogicAnalyzer
