/-!
# Sets of channels

Channels are numbered from zero and an analyzer has at most 64 of them, so a set of
channels is one machine word: bit `i` stands for channel `i`.  The layout is the one the
device reads on the wire.  A number from 64 on is no channel: it is never a member, and
adding or removing it leaves a set as it is.

## Main definitions

* `ChannelSet`: a set of channels
* `ChannelSet.first n`: the channels below `n`
* `ChannelSet.insert`, `erase`, `inter`: the operations on sets
* `ChannelSet.contains`, `subset`, `fits`, `size`, `highest?`, `toList`: the questions

## Main results

* `ChannelSet.ext_contains`: a set is determined by its members
* `ChannelSet.contains_insert`, `contains_erase`, `contains_inter`: members after an operation
* `ChannelSet.mem_toList`: the list of a set holds its members
-/

namespace LogicAnalyzer

/-- A set of channels, bit `i` standing for channel `i`. -/
structure ChannelSet where
  /-- The members, one bit each. -/
  bits : UInt64
deriving DecidableEq, Repr, Inhabited

namespace ChannelSet

/-- How many channels a set can tell apart. -/
def capacity : Nat := 64

/-- The set without channels. -/
def empty : ChannelSet := ⟨0⟩

/-- The word in which only the bit of `channel` is set. -/
def bit (channel : Nat) : UInt64 := 1 <<< UInt64.ofNat channel

/-- The channels below `count`. -/
def first (count : Nat) : ChannelSet :=
  if capacity ≤ count then ⟨0xffffffffffffffff⟩ else ⟨bit count - 1⟩

/-- Whether `channel` is a member. -/
def contains (s : ChannelSet) (channel : Nat) : Bool :=
  decide (channel < capacity) && s.bits.toBitVec.getLsbD channel

/-- Adds a channel. -/
def insert (s : ChannelSet) (channel : Nat) : ChannelSet :=
  if channel < capacity then ⟨s.bits ||| bit channel⟩ else s

/-- Removes a channel. -/
def erase (s : ChannelSet) (channel : Nat) : ChannelSet :=
  if channel < capacity then ⟨s.bits &&& ~~~bit channel⟩ else s

/-- The channels in both sets. -/
def inter (s t : ChannelSet) : ChannelSet := ⟨s.bits &&& t.bits⟩

/-- The channels in either set. -/
def union (s t : ChannelSet) : ChannelSet := ⟨s.bits ||| t.bits⟩

/-- The channels of `s` that are not in `t`. -/
def diff (s t : ChannelSet) : ChannelSet := ⟨s.bits &&& ~~~t.bits⟩

/-- Whether there is no member. -/
def isEmpty (s : ChannelSet) : Bool := s.bits == 0

/-- Whether every member of `s` is one of `t`. -/
def subset (s t : ChannelSet) : Bool := (s.diff t).isEmpty

/-- Whether every member is below `count`. -/
def fits (s : ChannelSet) (count : Nat) : Bool := s.subset (first count)

/-- How many bits of a number's binary digits are set, counting at most `digits` of them. -/
def popCount : (digits value : Nat) → Nat
  | 0, _ => 0
  | digits + 1, value => value % 2 + popCount digits (value / 2)

/-- The number of members. -/
def size (s : ChannelSet) : Nat := popCount capacity s.bits.toNat

/-- The highest member, if there is one. -/
def highest? (s : ChannelSet) : Option Nat :=
  if s.isEmpty then none else some s.bits.toNat.log2

/-- The members in ascending order. -/
def toList (s : ChannelSet) : List Nat := (List.range capacity).filter s.contains

/-- The channels of a list. -/
def ofList (channels : List Nat) : ChannelSet := channels.foldl insert empty

/-- **The written form**: the word of the set in hexadecimal. -/
def render (s : ChannelSet) : String :=
  "ChannelSet(0x" ++ String.ofList (Nat.toDigits 16 s.bits.toNat) ++ ")"

/-! ## Members -/

theorem contains_eq_getLsbD (s : ChannelSet) (channel : Nat) :
    s.contains channel = s.bits.toBitVec.getLsbD channel := by
  by_cases h : channel < capacity
  · simp [contains, h]
  · have h64 : 64 ≤ channel := Nat.le_of_not_lt h
    rw [BitVec.getLsbD_of_ge _ channel h64]
    simp [contains, h]

/-- **A set is determined by its members.** -/
theorem ext_contains {s t : ChannelSet} (h : ∀ channel, s.contains channel = t.contains channel) :
    s = t := by
  rcases s with ⟨s⟩
  rcases t with ⟨t⟩
  congr 1
  apply UInt64.toBitVec_inj.mp
  apply BitVec.eq_of_getLsbD_eq
  intro i _
  simpa only [contains_eq_getLsbD] using h i

theorem getLsbD_bit {channel : Nat} (h : channel < capacity) (i : Nat) :
    (bit channel).toBitVec.getLsbD i = decide (channel = i) := by
  have h' : channel < 64 := h
  have hshift : ((UInt64.ofNat channel).toBitVec % 64).toNat = channel := by
    simp only [BitVec.toNat_umod, UInt64.toNat_toBitVec, UInt64.toNat_ofNat',
      show (64 : BitVec 64).toNat = 64 from rfl]
    omega
  simp only [bit, UInt64.toBitVec_shiftLeft, BitVec.shiftLeft_eq', hshift, UInt64.toBitVec_ofNat,
    BitVec.getLsbD_shiftLeft, BitVec.getLsbD_one]
  by_cases hi : channel = i
  · subst hi; simp [h']
  · by_cases h1 : i < 64
    · simp [hi, h1]; omega
    · simp [hi, h1]

@[simp]
theorem contains_empty (channel : Nat) : empty.contains channel = false := by
  simp [contains_eq_getLsbD, empty]

@[simp]
theorem contains_insert (s : ChannelSet) (channel i : Nat) :
    (s.insert channel).contains i =
      (decide (channel < capacity ∧ channel = i) || s.contains i) := by
  by_cases h : channel < capacity
  · simp [insert, h, contains_eq_getLsbD, getLsbD_bit h, Bool.or_comm]
  · simp [insert, h]

@[simp]
theorem contains_erase (s : ChannelSet) (channel i : Nat) :
    (s.erase channel).contains i = (decide (channel ≠ i) && s.contains i) := by
  by_cases h : channel < capacity
  · by_cases hi : i < 64
    · simp only [erase, h, if_true, contains_eq_getLsbD, UInt64.toBitVec_and, UInt64.toBitVec_not,
        BitVec.getLsbD_and, BitVec.getLsbD_not, getLsbD_bit h, hi, decide_true, Bool.true_and]
      rw [Bool.and_comm, decide_not]
    · simp [contains, capacity, hi]
  · by_cases hi : channel = i
    · subst hi; simp [erase, contains, h]
    · simp [erase, h, hi]

@[simp]
theorem contains_inter (s t : ChannelSet) (i : Nat) :
    (s.inter t).contains i = (s.contains i && t.contains i) := by
  simp [contains_eq_getLsbD, inter]

@[simp]
theorem contains_union (s t : ChannelSet) (i : Nat) :
    (s.union t).contains i = (s.contains i || t.contains i) := by
  simp [contains_eq_getLsbD, union]

theorem mem_toList {s : ChannelSet} {i : Nat} : i ∈ s.toList ↔ s.contains i = true := by
  simp only [toList, List.mem_filter, List.mem_range, and_iff_right_iff_imp]
  intro h
  simp only [contains, Bool.and_eq_true, decide_eq_true_eq] at h
  exact h.1

end ChannelSet

end LogicAnalyzer
