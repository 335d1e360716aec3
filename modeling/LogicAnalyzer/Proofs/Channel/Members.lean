import LogicAnalyzer.Channel.Set
import Mathlib.Data.Nat.Bitwise

/-!
# Questions about sets of channels

What is asked of a set of channels is answered by arithmetic on its word.  The answers are
about its members.

## Main results

* `ChannelSet.contains_first`, `contains_diff`: members of the lower channels and of a difference
* `ChannelSet.isEmpty_iff`, `subset_iff`: sets without members, and sets within sets
* `ChannelSet.highest?_eq_none`, `contains_of_highest?`, `le_of_highest?`: the highest member
-/

namespace LogicAnalyzer.ChannelSet

variable {s t : ChannelSet} {i channel : Nat}

/-- A member is a digit of the number that the word stands for. -/
theorem contains_eq_testBit (s : ChannelSet) (channel : Nat) :
    s.contains channel = s.bits.toNat.testBit channel := by
  rw [contains_eq_getLsbD, BitVec.getLsbD, UInt64.toNat_toBitVec]

theorem toNat_bit (h : channel < capacity) : (bit channel).toNat = 2 ^ channel := by
  apply Nat.eq_of_testBit_eq
  intro i
  have hbit := getLsbD_bit h i
  rw [BitVec.getLsbD, UInt64.toNat_toBitVec] at hbit
  rw [hbit, Nat.testBit_two_pow]

/-! ## Members of further sets -/

/-- **The channels below a number**, as far as there are channels. -/
@[simp]
theorem contains_first (count i : Nat) :
    (first count).contains i = decide (i < count ∧ i < capacity) := by
  rw [contains_eq_testBit]
  by_cases h : capacity ≤ count
  · have hall : (first count).bits.toNat = 2 ^ capacity - 1 := by
      rw [first, if_pos h]
      rfl
    rw [hall, Nat.testBit_two_pow_sub_one]
    refine decide_eq_decide.mpr ⟨fun hi => ⟨Nat.lt_of_lt_of_le hi h, hi⟩, And.right⟩
  · have hcount : count < capacity := Nat.lt_of_not_le h
    have hsub : (bit count - 1).toNat = 2 ^ count - 1 := by
      have hone : (1 : UInt64) ≤ bit count := by
        rw [UInt64.le_iff_toNat_le, toNat_bit hcount]
        exact Nat.one_le_two_pow
      rw [UInt64.toNat_sub_of_le _ _ hone, toNat_bit hcount]
      rfl
    rw [first, if_neg h, hsub, Nat.testBit_two_pow_sub_one]
    refine decide_eq_decide.mpr ⟨fun hi => ⟨hi, Nat.lt_trans hi hcount⟩, And.left⟩

@[simp]
theorem contains_diff (s t : ChannelSet) (i : Nat) :
    (s.diff t).contains i = (s.contains i && !t.contains i) := by
  by_cases hi : i < 64
  · simp [contains_eq_getLsbD, diff, hi]
  · simp [contains, capacity, hi]

/-! ## Answers -/

theorem isEmpty_iff : s.isEmpty = true ↔ ∀ i, s.contains i = false := by
  constructor
  · intro h i
    have hbits : s.bits = 0 := by simpa [isEmpty] using h
    simp [contains_eq_testBit, hbits]
  · intro h
    have heq : s = empty := ext_contains fun i => (h i).trans (contains_empty i).symm
    rw [heq]
    rfl

theorem subset_iff : s.subset t = true ↔ ∀ i, s.contains i = true → t.contains i = true := by
  simp only [subset, isEmpty_iff, contains_diff, Bool.and_eq_false_imp, Bool.not_eq_false']

theorem highest?_eq_none : s.highest? = none ↔ s.isEmpty = true := by
  simp [highest?]

/-- **The highest member** is a member, -/
theorem contains_of_highest? (h : s.highest? = some channel) : s.contains channel = true := by
  unfold highest? at h
  split at h
  · cases h
  · rename_i hempty
    cases h
    have hbits : s.bits.toNat ≠ 0 := by
      intro hzero
      exact hempty (by simpa [isEmpty] using UInt64.toNat_inj.mp hzero)
    rw [contains_eq_testBit]
    exact Nat.testBit_log2 hbits

/-- and no member is above it. -/
theorem le_of_highest? (h : s.highest? = some channel) (hi : s.contains i = true) :
    i ≤ channel := by
  unfold highest? at h
  split at h
  · cases h
  · cases h
    rw [contains_eq_testBit] at hi
    have hle : 2 ^ i ≤ s.bits.toNat := Nat.ge_two_pow_of_testBit hi
    have hbits : s.bits.toNat ≠ 0 := Nat.ne_of_gt (Nat.lt_of_lt_of_le (Nat.two_pow_pos i) hle)
    exact (Nat.le_log2 hbits).mpr hle

end LogicAnalyzer.ChannelSet
