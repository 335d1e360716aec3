import LogicAnalyzer.Program.SimulatedCapture
import LogicAnalyzer.Proofs.Channel.Members
import LogicAnalyzer.Proofs.Stream.Script

/-!
# The levels of a counter

The simulated device streams a counter, so that the level of a channel is a binary digit of the
number of the sample.  A digit changes when the digits below it have all been one, and so as often
as its place value goes into the numbers that were counted.

## Main results

* `transitions_snoc`: one level more
* `transitions_testBit`: how often a digit changes while it is counted
* `levelOf_counter`: the levels of the counter
* `cut_counter`: records of two bytes can hold the counter
-/

namespace LogicAnalyzer.Program.SimulatedCapture

/-! ## Changes of a level -/

/-- **One level more** is one transition more, if it differs from the last. -/
theorem transitions_snoc (levels : List Bool) (last next : Bool) :
    transitions (levels ++ [last] ++ [next]) =
      transitions (levels ++ [last]) + if next = last then 0 else 1 := by
  cases levels with
  | nil => cases last <;> cases next <;> rfl
  | cons level rest =>
    simp only [transitions, List.cons_append, List.foldl_append, List.foldl_cons, List.foldl_nil]
    split <;> rfl

/-- A digit changes with the next number if its place value divides it. -/
theorem testBit_succ_eq_iff (n channel : Nat) :
    (n + 1).testBit channel = n.testBit channel ↔ ¬2 ^ channel ∣ n + 1 := by
  rw [Nat.testBit_eq_decide_div_mod_eq, Nat.testBit_eq_decide_div_mod_eq, Nat.succ_div]
  split
  · simp; omega
  · simp [*]

/-- **How often a digit changes** while it is counted up to below `count`. -/
theorem transitions_testBit (count channel : Nat) :
    transitions ((List.range count).map (·.testBit channel)) = (count - 1) / 2 ^ channel := by
  induction count with
  | zero => simp [transitions]
  | succ n ih =>
    cases n with
    | zero => simp [transitions]
    | succ m =>
      have hsnoc : (List.range (m + 1 + 1)).map (·.testBit channel) =
          (List.range m).map (·.testBit channel) ++ [m.testBit channel] ++
            [(m + 1).testBit channel] := by
        simp only [List.range_succ, List.map_append, List.map_singleton]
      have hbefore : (List.range m).map (·.testBit channel) ++ [m.testBit channel] =
          (List.range (m + 1)).map (·.testBit channel) := by
        simp only [List.range_succ, List.map_append, List.map_singleton]
      rw [hsnoc, transitions_snoc, hbefore, ih, Nat.add_sub_cancel, Nat.add_sub_cancel,
        Nat.succ_div]
      simp only [testBit_succ_eq_iff]
      split <;> simp [*]

/-! ## The counter -/

/-- **The level of a channel** in a sample of the counter is a digit of its number. -/
theorem levelOf_counter (index : Nat) {channel : Nat} (h : channel < 16) :
    levelOf (UInt64.ofNat index &&& 0xffff) channel = index.testBit channel := by
  have hmask : (0xffff : UInt64).toNat = 2 ^ 16 - 1 := rfl
  have hwide : channel < 64 := Nat.lt_trans h (by decide)
  rw [levelOf, ChannelSet.contains_eq_testBit]
  simp only [UInt64.toNat_and, UInt64.toNat_ofNat', hmask, Nat.testBit_and,
    Nat.testBit_two_pow_sub_one, Nat.testBit_mod_two_pow, h, hwide, decide_true, Bool.true_and,
    Bool.and_true]

/-- The levels of a channel while the counter runs. -/
theorem levels_counter (count : Nat) {channel : Nat} (h : channel < 16) :
    (counter count).map (levelOf · channel) = (List.range count).map (·.testBit channel) := by
  rw [counter, List.map_map]
  exact List.map_congr_left fun index _ => levelOf_counter index h

theorem length_counter (count : Nat) : (counter count).length = count := by
  rw [counter, List.length_map, List.length_range]

/-- The counter does not depend on how far it runs. -/
theorem take_counter (count taken : Nat) :
    (counter count).take taken = counter (min taken count) := by
  rw [counter, counter, ← List.map_take, List.take_range]

/-- **Records of two bytes can hold the counter**, if all channels of the model are recorded. -/
theorem cut_counter (count : Nat) :
    (counter count).map (Record.cut 2 ⟨0xffff⟩) = counter count := by
  rw [counter, List.map_map]
  refine List.map_congr_left fun index _ => ?_
  have hsmall : (UInt64.ofNat index &&& 0xffff).toNat < 2 ^ (8 * 2) := by
    rw [UInt64.toNat_and]
    exact Nat.and_lt_two_pow _ (by decide)
  rw [Function.comp_apply, Record.cut, Nat.mod_eq_of_lt hsmall, UInt64.ofNat_toNat]
  dsimp only
  rw [UInt64.and_assoc, UInt64.and_self]

end LogicAnalyzer.Program.SimulatedCapture
