import LogicAnalyzer.Proofs.Channel.Members

/-!
# Sets of channels and their lists

The list of a set has its members in ascending order and without repetition, as many of them as the
set counts, and a set can be made again from it.

## Main results

* `ChannelSet.contains_ofList`: the members of a set that is made from a list
* `ChannelSet.pairwise_toList`, `length_toList`: the list of a set is ascending, and as long as the
  set is large
-/

namespace LogicAnalyzer.ChannelSet

/-- **The members of a set that is made from a list** are those of its entries that are channels. -/
theorem contains_ofList (channels : List Nat) (i : Nat) :
    (ofList channels).contains i = decide (i ∈ channels ∧ i < capacity) := by
  have hfold (s : ChannelSet) : (channels.foldl insert s).contains i =
      (decide (i ∈ channels ∧ i < capacity) || s.contains i) := by
    induction channels generalizing s with
    | nil => simp
    | cons channel rest ih =>
      rw [List.foldl_cons, ih, contains_insert]
      by_cases heq : channel = i
      · subst heq
        by_cases hlt : channel < capacity <;> simp [hlt]
      · simp [heq, Ne.symm heq]
  rw [ofList, hfold, contains_empty, Bool.or_false]

/-- A member is a channel. -/
theorem lt_of_contains {s : ChannelSet} {channel : Nat} (h : s.contains channel = true) :
    channel < capacity := by
  rw [contains, Bool.and_eq_true, decide_eq_true_eq] at h
  exact h.1

/-- **The list of a set** is ascending, -/
theorem pairwise_toList (s : ChannelSet) : s.toList.Pairwise (· < ·) :=
  List.pairwise_lt_range.filter _

/-- so nothing is repeated, -/
theorem nodup_toList (s : ChannelSet) : s.toList.Nodup := List.nodup_range.filter _

/-- The digits that are set are counted one by one. -/
theorem popCount_eq_countP (digits value : Nat) :
    popCount digits value = (List.range digits).countP value.testBit := by
  induction digits generalizing value with
  | zero => rfl
  | succ digits ih =>
    have hshift : value.testBit ∘ Nat.succ = (value / 2).testBit := by
      funext i
      exact Nat.testBit_succ value i
    rw [popCount, ih, List.range_succ_eq_map, List.countP_cons, List.countP_map, hshift,
      Nat.testBit_zero, Nat.add_comm]
    congr 1
    rcases Nat.mod_two_eq_zero_or_one value with hdigit | hdigit <;> simp [hdigit]

/-- and as long as the set is large. -/
theorem length_toList (s : ChannelSet) : s.toList.length = s.size := by
  have hdigits : s.contains = s.bits.toNat.testBit := by
    funext channel
    exact s.contains_eq_testBit channel
  rw [toList, size, popCount_eq_countP, hdigits, List.countP_eq_length_filter]

end LogicAnalyzer.ChannelSet
