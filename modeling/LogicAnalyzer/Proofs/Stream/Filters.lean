import LogicAnalyzer.Proofs.Stream.Script

/-!
# Mask and limit are filters

Take two decoders for records of the same width, of which one keeps everything: it records all
channels and has no limit.  Feed both the same chunks, corrupt ones or not.  They follow the same
frames and refuse the same ones, and what the other hands out is what the first hands out, without
the levels of channels that are not recorded and cut at the limit.

Decoding commutes with cutting: a decoder that keeps everything, cut down to a mask and a limit at
any moment, goes on as the decoder that had them from the start.

## Main definitions

* `StreamDecoder.KeepsAll`: a decoder that keeps everything
* `StreamDecoder.restrict`, `Decoded.restrict`: what mask and limit leave of a decoder, and of what
  a chunk brought
* `StreamDecoder.Filters`: one decoder hands out what mask and limit leave of what another does

## Main results

* `StreamDecoder.feed_restrict`: decoding commutes with cutting
* `StreamDecoder.filters_start`: mask and limit are filters
-/

namespace LogicAnalyzer

/-! ## What is wanted behind other entries -/

section

variable {α β : Type} (limit : UInt64)

/-- The entries that are wanted under a limit, `count` others being in front of them. -/
def withinAfter (count : Nat) (entries : List α) : List α :=
  if limit = 0 then entries else entries.take (limit.toNat - count)

@[simp]
theorem withinAfter_nil (count : Nat) : withinAfter limit count ([] : List α) = [] := by
  unfold withinAfter
  split <;> simp

theorem withinAfter_zero (entries : List α) : withinAfter limit 0 entries = within limit entries :=
  rfl

theorem withinAfter_append (count : Nat) (xs ys : List α) :
    withinAfter limit count (xs ++ ys) =
      withinAfter limit count xs ++ withinAfter limit (count + xs.length) ys := by
  unfold withinAfter
  split
  · rfl
  · rw [List.take_append, Nat.sub_sub]

theorem withinAfter_map (f : α → β) (count : Nat) (entries : List α) :
    withinAfter limit count (entries.map f) = (withinAfter limit count entries).map f := by
  unfold withinAfter
  split
  · rfl
  · rw [List.map_take]

/-- How many of the first `count` entries are wanted. -/
def wantedOf (count : Nat) : Nat := if limit = 0 then count else min limit.toNat count

theorem wantedOf_add_length (count : Nat) (entries : List α) :
    wantedOf limit (count + entries.length) =
      wantedOf limit count + (withinAfter limit count entries).length := by
  unfold wantedOf withinAfter
  split
  · rfl
  · rw [List.length_take]
    omega

theorem wantedOf_of_inTime {limit : UInt64} {count : Nat} (h : inTime limit count = true) :
    wantedOf limit count = count := by
  simp only [inTime, Bool.or_eq_true, beq_iff_eq, decide_eq_true_eq] at h
  unfold wantedOf
  split
  · rfl
  · rename_i hlimit
    exact Nat.min_eq_right (Nat.le_of_lt (h.resolve_left hlimit))

end

theorem inTime_of_le {limit : UInt64} {earlier later : Nat} (hle : earlier ≤ later)
    (h : inTime limit later = true) : inTime limit earlier = true := by
  simp only [inTime, Bool.or_eq_true, beq_iff_eq, decide_eq_true_eq] at h ⊢
  exact h.imp_right (Nat.lt_of_le_of_lt hle)

/-- The limit comes between two positions. -/
theorem inTime_and_not_inTime {limit : UInt64} {earlier later : Nat} :
    (inTime limit earlier && !inTime limit later) = true ↔
      limit ≠ 0 ∧ earlier < limit.toNat ∧ limit.toNat ≤ later := by
  rw [Bool.and_eq_true, Bool.not_eq_true', inTime_eq_false]
  constructor
  · rintro ⟨hearlier, hlimit, hlater⟩
    simp only [inTime, Bool.or_eq_true, beq_iff_eq, decide_eq_true_eq] at hearlier
    exact ⟨hlimit, hearlier.resolve_left hlimit, hlater⟩
  · rintro ⟨hlimit, hearlier, hlater⟩
    refine ⟨?_, hlimit, hlater⟩
    simp [inTime, hearlier]

/-- The bits of all channels take nothing away. -/
theorem ChannelSet.and_bits_first_capacity (sample : UInt64) :
    sample &&& (ChannelSet.first ChannelSet.capacity).bits = sample := by
  have hall : (ChannelSet.first ChannelSet.capacity).bits = -1 := rfl
  rw [hall, UInt64.and_neg_one]

/-! ## What is left of a chunk -/

namespace Decoded

variable (channels : ChannelSet) (limit : UInt64)

/-- What mask and limit leave of what a chunk brought, behind `emitted` samples. -/
def restrict (out : Decoded) (emitted : Nat) : Decoded :=
  { out with
    samples := (withinAfter limit emitted out.samples).map (· &&& channels.bits)
    triggers := out.triggers.filter (inTime limit) }

theorem restrict_append (x y : Decoded) (emitted : Nat) :
    (x ++ y).restrict channels limit emitted =
      x.restrict channels limit emitted ++
        y.restrict channels limit (emitted + x.samples.length) := by
  refine Decoded.ext ?_ ?_ rfl rfl rfl
  · show (withinAfter limit emitted (x.samples ++ y.samples)).map _ = _
    rw [withinAfter_append, List.map_append]
    rfl
  · show (x.triggers ++ y.triggers).filter _ = _
    rw [List.filter_append]
    rfl

theorem restrict_empty (emitted : Nat) : ({} : Decoded).restrict channels limit emitted = {} := by
  simp [restrict]

/-- What mask and limit leave of a chunk, which tells of the limit if it brings the last sample that
is wanted. -/
def limited (emitted : Nat) (out : Decoded) : Decoded :=
  { out.restrict channels limit emitted with
    limitReached := inTime limit emitted && !inTime limit (emitted + out.samples.length) }

/-- What they leave of one chunk after another. -/
def limitedAll (emitted : Nat) : List Decoded → List Decoded
  | [] => []
  | out :: rest =>
    out.limited channels limit emitted :: limitedAll (emitted + out.samples.length) rest

/-! ### One chunk after another -/

/-- All samples that some chunks brought. -/
def allSamples (outs : List Decoded) : List UInt64 := outs.flatMap samples

/-- All triggers that some chunks brought. -/
def allTriggers (outs : List Decoded) : List Nat := outs.flatMap triggers

@[simp] theorem allSamples_nil : allSamples [] = [] := rfl

@[simp] theorem allSamples_append (xs ys : List Decoded) :
    allSamples (xs ++ ys) = allSamples xs ++ allSamples ys := List.flatMap_append

@[simp] theorem allSamples_cons (out : Decoded) (rest : List Decoded) :
    allSamples (out :: rest) = out.samples ++ allSamples rest := List.flatMap_cons

@[simp] theorem allTriggers_cons (out : Decoded) (rest : List Decoded) :
    allTriggers (out :: rest) = out.triggers ++ allTriggers rest := List.flatMap_cons

section

variable (emitted : Nat) (outs : List Decoded)

theorem map_captureDone_limitedAll :
    (limitedAll channels limit emitted outs).map captureDone = outs.map captureDone := by
  induction outs generalizing emitted with
  | nil => rfl
  | cons out rest ih =>
    rw [limitedAll, List.map_cons, ih]
    rfl

theorem map_corruption_limitedAll :
    (limitedAll channels limit emitted outs).map corruption = outs.map corruption := by
  induction outs generalizing emitted with
  | nil => rfl
  | cons out rest ih =>
    rw [limitedAll, List.map_cons, ih]
    rfl

theorem allSamples_limitedAll :
    allSamples (limitedAll channels limit emitted outs) =
      (withinAfter limit emitted (allSamples outs)).map (· &&& channels.bits) := by
  induction outs generalizing emitted with
  | nil => simp [allSamples, limitedAll]
  | cons out rest ih =>
    rw [limitedAll, allSamples_cons, ih, allSamples_cons, withinAfter_append, List.map_append]
    rfl

theorem allTriggers_limitedAll :
    allTriggers (limitedAll channels limit emitted outs) =
      (allTriggers outs).filter (inTime limit) := by
  induction outs generalizing emitted with
  | nil => rfl
  | cons out rest ih =>
    rw [limitedAll, allTriggers_cons, ih, allTriggers_cons, List.filter_append]
    rfl

/-- What is left of a chunk depends on how many samples the chunks in front of it brought. -/
theorem getElem?_limitedAll (index : Nat) :
    (limitedAll channels limit emitted outs)[index]? =
      outs[index]?.map
        (limited channels limit (emitted + (allSamples (outs.take index)).length)) := by
  induction outs generalizing emitted index with
  | nil => rfl
  | cons out rest ih =>
    cases index with
    | zero => rfl
    | succ index =>
      rw [limitedAll, List.getElem?_cons_succ, ih, List.getElem?_cons_succ, List.take_succ_cons,
        allSamples_cons, List.length_append, Nat.add_assoc]

/-- **The limit is told once**, if it is reached at all. -/
theorem countP_limitedAll :
    (limitedAll channels limit emitted outs).countP limitReached =
      if inTime limit emitted && !inTime limit (emitted + (allSamples outs).length) then 1 else 0 := by
  induction outs generalizing emitted with
  | nil => simp [limitedAll, allSamples]
  | cons out rest ih =>
    have htold : (out.limited channels limit emitted).limitReached =
        (inTime limit emitted && !inTime limit (emitted + out.samples.length)) := rfl
    rw [limitedAll, List.countP_cons, ih, htold, allSamples_cons, List.length_append,
      ← Nat.add_assoc]
    -- what is in time later was in time before, so at most one of the two tells of the limit
    have hbetween : inTime limit (emitted + out.samples.length) = true →
        inTime limit emitted = true := inTime_of_le (Nat.le_add_right ..)
    have hafter : inTime limit (emitted + out.samples.length + (allSamples rest).length) = true →
        inTime limit (emitted + out.samples.length) = true := inTime_of_le (Nat.le_add_right ..)
    cases hfirst : inTime limit emitted <;>
      cases hsecond : inTime limit (emitted + out.samples.length) <;>
      cases hthird : inTime limit (emitted + out.samples.length + (allSamples rest).length) <;>
      simp_all

end

end Decoded

namespace StreamDecoder

variable {d d' : StreamDecoder} {out : Decoded} {bytes rest : List UInt8}
  (channels : ChannelSet) (limit : UInt64)

/-- **A decoder that keeps everything**: it records all channels and has no limit. -/
structure KeepsAll (d : StreamDecoder) : Prop where
  channels : d.channels = .first ChannelSet.capacity
  sampleLimit : d.sampleLimit = 0

/-- What mask and limit leave of a decoder that keeps everything. -/
def restrict (d : StreamDecoder) : StreamDecoder :=
  { d with channels, sampleLimit := limit, emitted := wantedOf limit d.emitted }

theorem keepsAll_start (recordWidth : Nat) :
    (start recordWidth (.first ChannelSet.capacity) 0).KeepsAll := ⟨rfl, rfl⟩

theorem KeepsAll.of_follows {samples : List UInt64} (h : d.KeepsAll) (h' : Follows d d' samples) :
    d'.KeepsAll := ⟨h'.channels.trans h.channels, h'.sampleLimit.trans h.sampleLimit⟩

/-- At the start nothing is cut off yet. -/
theorem restrict_start (recordWidth : Nat) :
    (start recordWidth (.first ChannelSet.capacity) 0).restrict channels limit =
      start recordWidth channels limit := by
  have hnone : wantedOf limit 0 = 0 := by
    unfold wantedOf
    split
    · rfl
    · exact Nat.min_zero _
  simp only [restrict, start, hnone]

/-- The limit is reached once it has come before everything further. -/
theorem limitReached_restrict (d : StreamDecoder) :
    (d.restrict channels limit).limitReached = !inTime limit d.emitted := by
  by_cases h : limit = 0
  · simp [limitReached, restrict, inTime, h]
  · have hreached : limit.toNat ≤ min limit.toNat d.emitted ↔ limit.toNat ≤ d.emitted := by omega
    simp only [limitReached, restrict, wantedOf, if_neg h, hreached, inTime, Bool.not_or, bne,
      ← Nat.not_lt, decide_not]

/-! ## One frame -/

/-- A decoder that keeps everything takes all records of a payload. -/
theorem KeepsAll.accept (h : d.KeepsAll) (payload : List UInt8) :
    d.accept payload = (pieces d.recordWidth payload).map Record.unpack := by
  simp only [StreamDecoder.accept, wanted, h.sampleLimit, if_true, List.take_length, h.channels,
    ChannelSet.and_bits_first_capacity]

theorem accept_restrict (h : d.KeepsAll) (payload : List UInt8) :
    (d.restrict channels limit).accept payload =
      (withinAfter limit d.emitted (d.accept payload)).map (· &&& channels.bits) := by
  rw [h.accept, withinAfter_map, List.map_map]
  simp only [StreamDecoder.accept, restrict, wanted, withinAfter, wantedOf]
  by_cases hlimit : limit = 0
  · simp only [hlimit, if_true, List.take_length]
    rfl
  · have hleft (count : Nat) : limit.toNat - min limit.toNat count = limit.toNat - count := by omega
    simp only [if_neg hlimit, hleft]
    rw [Nat.min_comm, ← List.take_eq_take_min]
    rfl

theorem receive_restrict (h : d.KeepsAll) (response : Response) :
    (d.restrict channels limit).receive {} response =
      (d.receive {} response).map fun (d', out) =>
        (d'.restrict channels limit, out.restrict channels limit d.emitted) := by
  cases response with
  | samples payload =>
    have hwidth : (d.restrict channels limit).recordWidth = d.recordWidth := rfl
    by_cases hwhole : payload.length % d.recordWidth = 0
    · rw [receive_samples (d := d) hwhole, receive_samples (by rwa [hwidth]),
        accept_restrict channels limit h, List.length_map]
      simp only [Except.map, restrict, wantedOf_add_length]
      rfl
    · rw [receive, if_neg (by rwa [hwidth]), receive, if_neg hwhole]
      rfl
  | triggered =>
    have hnone : ¬d.limitReached = true := by simp [StreamDecoder.limitReached, h.sampleLimit]
    have hreached := limitReached_restrict channels limit d
    rw [receive, receive, if_neg hnone, hreached]
    cases htime : inTime limit d.emitted with
    | false => simp [Except.map, Decoded.restrict, htime]
    | true =>
      have hcount : (d.restrict channels limit).emitted = d.emitted := wantedOf_of_inTime htime
      simp [Except.map, Decoded.restrict, htime, hcount]
  | captureDone => simp [receive, Except.map, Decoded.restrict]

theorem nextFrame_restrict (h : d.KeepsAll) (bytes : List UInt8) :
    (d.restrict channels limit).nextFrame {} bytes =
      (d.nextFrame {} bytes).map fun ((d', out), rest) =>
        ((d'.restrict channels limit, out.restrict channels limit d.emitted), rest) := by
  unfold nextFrame
  cases Response.decode bytes with
  | error e => rfl
  | ok response =>
    simp only [receive_restrict channels limit h]
    cases d.receive {} response <;> rfl

/-! ## All frames -/

theorem decodeFrames_restrict (h : d.KeepsAll) (bytes : List UInt8) :
    (d.restrict channels limit).decodeFrames {} bytes =
      ((d.decodeFrames {} bytes).1.restrict channels limit,
        (d.decodeFrames {} bytes).2.restrict channels limit d.emitted) := by
  induction d, bytes using frames_induction with
  | truncated d bytes needed available hnext =>
    have hnext' := nextFrame_restrict channels limit h bytes
    rw [hnext] at hnext'
    rw [decodeFrames_of_truncated hnext, decodeFrames_of_truncated hnext', Decoded.restrict_empty]
    rfl
  | corrupt d bytes cause hnext =>
    have hnext' := nextFrame_restrict channels limit h bytes
    rw [hnext] at hnext'
    rw [decodeFrames_of_corrupt hnext, decodeFrames_of_corrupt hnext']
    simp [Decoded.restrict, restrict]
  | frame d bytes d' out rest hnext ih =>
    have hnext' := nextFrame_restrict channels limit h bytes
    rw [hnext] at hnext'
    obtain ⟨hfollows, -, -⟩ := nextFrame_follows hnext
    rw [decodeFrames_cons hnext, decodeFrames_cons hnext', ih (h.of_follows hfollows),
      Decoded.restrict_append, hfollows.emitted]

/-! ## Chunks -/

/-- **Decoding commutes with cutting.** -/
theorem feed_restrict (h : d.KeepsAll) (bytes : List UInt8) :
    (d.restrict channels limit).feed bytes =
      ((d.feed bytes).1.limited channels limit d.emitted,
        (d.feed bytes).2.restrict channels limit) := by
  have hresidue : (d.restrict channels limit).residue = d.residue := rfl
  have hemitted := (feed_follows d bytes).emitted
  unfold Decoded.limited
  rw [← hemitted]
  simp only [feed, hresidue, decodeFrames_restrict channels limit h, limitReached_restrict,
    Bool.not_not]
  rfl

theorem feedAll_restrict (h : d.KeepsAll) (chunks : List (List UInt8)) :
    (d.restrict channels limit).feedAll chunks =
      (Decoded.limitedAll channels limit d.emitted (d.feedAll chunks).1,
        (d.feedAll chunks).2.restrict channels limit) := by
  induction chunks generalizing d with
  | nil => rfl
  | cons chunk chunks ih =>
    have hfollows := feed_follows d chunk
    rw [feedAll_cons, feed_restrict channels limit h, ih (h.of_follows hfollows), feedAll_cons,
      Decoded.limitedAll, hfollows.emitted]

/-- **One decoder hands out what mask and limit leave** of what another does, if both are fed these
chunks. -/
structure Filters (chunks : List (List UInt8)) (filtered plain : StreamDecoder) : Prop where
  /-- Chunk by chunk both see the same notices. -/
  captureDone : (filtered.feedAll chunks).1.map Decoded.captureDone =
    (plain.feedAll chunks).1.map Decoded.captureDone
  /-- Chunk by chunk both meet the same corrupt frames. -/
  corruption : (filtered.feedAll chunks).1.map Decoded.corruption =
    (plain.feedAll chunks).1.map Decoded.corruption
  /-- After every chunk both have the same bytes left over. -/
  residue : ∀ count, (filtered.feedAll (chunks.take count)).2.residue =
    (plain.feedAll (chunks.take count)).2.residue
  /-- The samples are masked, and cut at the limit. -/
  samples : Decoded.allSamples (filtered.feedAll chunks).1 =
    within limit ((Decoded.allSamples (plain.feedAll chunks).1).map (· &&& channels.bits))
  /-- The triggers are those before the limit. -/
  triggers : Decoded.allTriggers (filtered.feedAll chunks).1 =
    (Decoded.allTriggers (plain.feedAll chunks).1).filter (inTime limit)
  /-- A chunk tells of the limit if and only if the last sample that is wanted comes with it. -/
  told : ∀ index, (filtered.feedAll chunks).1[index]?.any Decoded.limitReached = true ↔
    limit ≠ 0 ∧
      (Decoded.allSamples ((plain.feedAll chunks).1.take index)).length < limit.toNat ∧
      limit.toNat ≤ (Decoded.allSamples ((plain.feedAll chunks).1.take (index + 1))).length
  /-- One does if there are as many samples as are wanted, and else none does. -/
  toldOnce : (filtered.feedAll chunks).1.countP Decoded.limitReached =
    if limit ≠ 0 ∧ limit.toNat ≤ (Decoded.allSamples (plain.feedAll chunks).1).length then 1 else 0
  /-- No more samples are handed out than are wanted. -/
  emitted : limit ≠ 0 → ∀ count, (filtered.feedAll (chunks.take count)).2.emitted ≤ limit.toNat

/-- **Mask and limit are filters.**  Take a decoder with a mask and a limit and one with neither, for
records of the same width.  Whatever chunks both are fed, the one hands out what mask and limit
leave of what the other does, and otherwise they go the same way. -/
theorem filters_start (recordWidth : Nat) (chunks : List (List UInt8)) :
    Filters channels limit chunks (start recordWidth channels limit)
      (start recordWidth (.first ChannelSet.capacity) 0) := by
  have hall := keepsAll_start recordWidth
  have hfeed := feedAll_restrict channels limit hall
  rw [restrict_start] at hfeed
  generalize start recordWidth channels limit = filtered at *
  have hzero : (start recordWidth (.first ChannelSet.capacity) 0).emitted = 0 := rfl
  generalize start recordWidth (.first ChannelSet.capacity) 0 = plain at *
  rw [hzero] at hfeed
  constructor
  · rw [hfeed, Decoded.map_captureDone_limitedAll]
  · rw [hfeed, Decoded.map_corruption_limitedAll]
  · intro count
    rw [hfeed]
    rfl
  · rw [hfeed, Decoded.allSamples_limitedAll, ← withinAfter_map,
      withinAfter_zero]
  · rw [hfeed, Decoded.allTriggers_limitedAll]
  · intro index
    rw [hfeed, Decoded.getElem?_limitedAll, Nat.zero_add, List.take_add_one, Decoded.allSamples_append,
      List.length_append]
    cases hout : (plain.feedAll chunks).1[index]? with
    | none =>
      rw [Option.map_none, Option.any_none, Option.toList_none, Decoded.allSamples_nil,
        List.length_nil]
      constructor
      · intro htold
        cases htold
      · rintro ⟨-, hbefore, hafter⟩
        omega
    | some out =>
      rw [Option.map_some, Option.any_some, Option.toList_some, Decoded.allSamples_cons,
        Decoded.allSamples_nil, List.append_nil]
      exact inTime_and_not_inTime
  · rw [hfeed, Decoded.countP_limitedAll, Nat.zero_add]
    have hpos (hlimit : limit ≠ 0) : 0 < limit.toNat :=
      Nat.pos_of_ne_zero fun hzero => hlimit (UInt64.toNat_inj.mp hzero)
    have htold (total : Nat) :
        (inTime limit 0 && !inTime limit total) = true ↔ limit ≠ 0 ∧ limit.toNat ≤ total := by
      rw [inTime_and_not_inTime]
      exact ⟨fun h => ⟨h.1, h.2.2⟩, fun h => ⟨h.1, hpos h.1, h.2⟩⟩
    simp only [htold]
  · intro hlimit count
    rw [hfeed]
    simp only [restrict, wantedOf, if_neg hlimit]
    exact Nat.min_le_left ..

end StreamDecoder

end LogicAnalyzer
