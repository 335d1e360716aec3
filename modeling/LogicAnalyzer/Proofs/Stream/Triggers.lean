import LogicAnalyzer.Proofs.Stream.Chunks

/-!
# Where triggers fire

The samples that a decoder hands out have no levels of channels that are not recorded.  Each of
its triggers fires among the samples of the chunk that it came with, and no trigger fires before
an earlier one.

## Main definitions

* `Decoded.InOrder`: samples and triggers of a chunk that fit together

## Main results

* `StreamDecoder.inOrder_feed`: those of every chunk do
-/

namespace LogicAnalyzer

/-- **Samples and triggers of a chunk**, for a decoder that has handed out `emitted` samples. -/
structure Decoded.InOrder (out : Decoded) (channels : ChannelSet) (emitted : Nat) : Prop where
  masked : ∀ sample ∈ out.samples, sample &&& channels.bits = sample
  sorted : out.triggers.Pairwise (· ≤ ·)
  bounds : ∀ trigger ∈ out.triggers, emitted ≤ trigger ∧ trigger ≤ emitted + out.samples.length

theorem Decoded.InOrder.of_nil {out : Decoded} {channels : ChannelSet} {emitted : Nat}
    (hsamples : out.samples = []) (htriggers : out.triggers = []) : out.InOrder channels emitted where
  masked := by simp [hsamples]
  sorted := by simp [htriggers]
  bounds := by simp [htriggers]

/-- Two chunks, one after the other. -/
theorem Decoded.InOrder.append {x y : Decoded} {channels : ChannelSet} {emitted : Nat}
    (hx : x.InOrder channels emitted) (hy : y.InOrder channels (emitted + x.samples.length)) :
    (x ++ y).InOrder channels emitted where
  masked sample hmem := by
    rcases List.mem_append.mp hmem with hmem | hmem
    · exact hx.masked sample hmem
    · exact hy.masked sample hmem
  sorted := by
    rw [triggers_append, List.pairwise_append]
    refine ⟨hx.sorted, hy.sorted, ?_⟩
    intro trigger htrigger later hlater
    exact Nat.le_trans (hx.bounds trigger htrigger).2 (hy.bounds later hlater).1
  bounds trigger hmem := by
    rw [samples_append, List.length_append]
    rcases List.mem_append.mp hmem with hmem | hmem
    · have := hx.bounds trigger hmem
      omega
    · have := hy.bounds trigger hmem
      omega

namespace StreamDecoder

variable {d d' : StreamDecoder} {out : Decoded} {bytes : List UInt8}

theorem inOrder_receive {response : Response} (h : d.receive {} response = .ok (d', out)) :
    out.InOrder d.channels d.emitted := by
  cases response with
  | samples payload =>
    rw [receive] at h
    split at h
    · cases h
      refine ⟨?_, List.Pairwise.nil, by simp⟩
      intro sample hmem
      obtain ⟨record, -, rfl⟩ := List.mem_map.mp (List.nil_append _ ▸ hmem)
      rw [UInt64.and_assoc, UInt64.and_self]
    · cases h
  | triggered =>
    rw [receive] at h
    split at h
    · cases h
      exact .of_nil rfl rfl
    · cases h
      exact ⟨by simp, by simp, by simp⟩
  | captureDone =>
    cases h
    exact .of_nil rfl rfl

theorem inOrder_decodeFrames (d : StreamDecoder) (bytes : List UInt8) :
    (d.decodeFrames {} bytes).2.InOrder d.channels d.emitted := by
  induction d, bytes using frames_induction with
  | truncated d bytes needed available h =>
    rw [decodeFrames_of_truncated h]
    exact .of_nil rfl rfl
  | corrupt d bytes cause h =>
    rw [decodeFrames_of_corrupt h]
    exact .of_nil rfl rfl
  | frame d bytes d' out rest h ih =>
    obtain ⟨hfollows, -, -⟩ := nextFrame_follows h
    have hout : out.InOrder d.channels d.emitted := by
      unfold nextFrame at h
      split at h
      · cases h
      · split at h
        · cases h
        · rename_i after hreceive
          cases h
          exact inOrder_receive hreceive
    rw [decodeFrames_cons h]
    apply hout.append
    rwa [← hfollows.channels, ← hfollows.emitted]

/-- **The samples and triggers of every chunk** fit together. -/
theorem inOrder_feed (d : StreamDecoder) (bytes : List UInt8) :
    (d.feed bytes).1.InOrder d.channels d.emitted := by
  obtain ⟨hmasked, hsorted, hbounds⟩ := inOrder_decodeFrames d (d.residue ++ bytes)
  exact ⟨hmasked, hsorted, hbounds⟩

end StreamDecoder

end LogicAnalyzer
