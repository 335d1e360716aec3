import LogicAnalyzer.Capture.Controller
import LogicAnalyzer.Capture.Recording

/-!
# Recording deliveries

Samples are delivered in batches that are cut where triggers fired.  The cuts are lost on a
recording: it has the samples and the triggers that were delivered.

## Main definitions

* `Recording.Extends`: one recording has more samples and triggers than another

## Main results

* `Recording.extends_takeAll_deliveries`: what a recording makes of the deliveries
-/

namespace LogicAnalyzer.Recording

/-- One recording has these samples and triggers more than the other. -/
structure Extends (r r' : Recording) (samples : List UInt64) (triggers : List Nat) : Prop where
  header : r'.header = r.header
  samples : r'.samples = r.samples ++ samples
  triggers : r'.triggers = r.triggers ++ triggers
  trailer : r'.trailer = r.trailer

variable {r r' r'' : Recording} {xs ys : List UInt64} {ts us : List Nat}

theorem Extends.refl (r : Recording) : r.Extends r [] [] :=
  ⟨rfl, (List.append_nil _).symm, (List.append_nil _).symm, rfl⟩

theorem Extends.trans (h : r.Extends r' xs ts) (h' : r'.Extends r'' ys us) :
    r.Extends r'' (xs ++ ys) (ts ++ us) where
  header := h'.header.trans h.header
  samples := by rw [h'.samples, h.samples, List.append_assoc]
  triggers := by rw [h'.triggers, h.triggers, List.append_assoc]
  trailer := h'.trailer.trans h.trailer

/-- One batch, unless it is empty. -/
theorem extends_takeAll_batch (r : Recording) (channels : ChannelSet) (firstIndex : Nat)
    (xs : List UInt64) :
    r.Extends (Sink.takeAll r (if xs.isEmpty then [] else [.samples ⟨firstIndex, channels, xs⟩]))
      xs [] := by
  cases xs with
  | nil => exact .refl r
  | cons x xs => exact ⟨rfl, rfl, (List.append_nil _).symm, rfl⟩

/-- **What a recording makes of the deliveries**: it has the samples and the triggers. -/
theorem extends_takeAll_deliveries (r : Recording) (channels : ChannelSet) (firstIndex : Nat)
    (xs : List UInt64) (ts : List Nat) :
    r.Extends (Sink.takeAll r (deliveries channels firstIndex xs ts)) xs ts := by
  -- on the triggers: each cuts a batch off, and the rest is delivered behind it
  induction ts generalizing r firstIndex xs with
  | nil =>
    rw [deliveries]
    exact extends_takeAll_batch r channels firstIndex xs
  | cons trigger rest ih =>
    rw [deliveries, Sink.takeAll, List.foldl_append, List.foldl_cons]
    generalize hcut : min (trigger - firstIndex) xs.length = cut
    have hbatch : r.Extends (Sink.takeAll r
        (if cut = 0 then [] else [.samples ⟨firstIndex, channels, xs.take cut⟩]))
        (xs.take cut) [] := by
      by_cases hzero : cut = 0
      · simp only [hzero, if_true, List.take_zero]
        exact .refl r
      · rw [if_neg hzero]
        exact ⟨rfl, rfl, (List.append_nil _).symm, rfl⟩
    have htrigger (r : Recording) : r.Extends (Sink.take r (.trigger trigger)) [] [trigger] :=
      ⟨rfl, (List.append_nil _).symm, rfl, rfl⟩
    have hall := (hbatch.trans (htrigger _)).trans (ih _ (firstIndex + cut) (xs.drop cut))
    rw [List.append_nil, List.take_append_drop, List.nil_append, List.singleton_append] at hall
    exact hall

end LogicAnalyzer.Recording
