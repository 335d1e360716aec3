import LogicAnalyzer.Proofs.Channel.Listing
import Mathlib.Data.Finset.Card
import Mathlib.Data.Finset.Range

/-!
# Sets of channels as finite sets of numbers

A set of channels is a word, and what is done to it and asked of it is arithmetic on the word.
Whoever uses it thinks of the numbers below the capacity that are in it.  Both are the same: the
word has the members that the finite set of numbers has, from its making on and over every change,
and every question about it is answered as it is for the numbers.

## Main definitions

* `ChannelSet.digits`: the numbers of the bits that are set in a word
* `ChannelSet.Origin`, `ChannelSet.Change`: how a set is made, and what may be done to it
* `ChannelSet.Represents`: every question about the set is answered as for a finite set of numbers

## Main results

* `ChannelSet.highest?_eq_getLast?`, `fits_iff_highest?`: the highest member, and bounds by it
* `ChannelSet.Change.contains_apply`, `contains_after`: the members after a change, and after many
* `ChannelSet.represents_after`: a set of channels is a faithful finite set
-/

namespace LogicAnalyzer.ChannelSet

variable {s : ChannelSet} {m : Finset Nat}

/-! ## The highest member -/

/-- An entry of an ascending list that none exceeds is the last one. -/
theorem getLast?_of_pairwise_lt {numbers : List Nat} {top : Nat}
    (hascending : numbers.Pairwise (· < ·)) (hmem : top ∈ numbers) (htop : ∀ i ∈ numbers, i ≤ top) :
    numbers.getLast? = some top := by
  obtain ⟨before, rest, rfl⟩ := List.append_of_mem hmem
  obtain ⟨-, hrest, -⟩ := List.pairwise_append.mp hascending
  have hnone : rest = [] := by
    apply List.eq_nil_iff_forall_not_mem.mpr
    intro i hi
    have habove : top < i := (List.pairwise_cons.mp hrest).1 i hi
    have hbelow : i ≤ top := htop i (by simp [hi])
    exact Nat.not_lt.mpr hbelow habove
  rw [hnone, List.getLast?_concat]

/-- **The highest member** is the last of the list. -/
theorem highest?_eq_getLast? (s : ChannelSet) : s.highest? = s.toList.getLast? := by
  cases hhighest : s.highest? with
  | none =>
    have hnone := isEmpty_iff.mp (highest?_eq_none.mp hhighest)
    have hempty : s.toList = [] := by
      apply List.eq_nil_iff_forall_not_mem.mpr
      intro i hi
      simpa [mem_toList.mp hi] using hnone i
    rw [hempty, List.getLast?_nil]
  | some top =>
    apply Eq.symm
    apply getLast?_of_pairwise_lt s.pairwise_toList
    · exact mem_toList.mpr (contains_of_highest? hhighest)
    · intro i hi
      exact le_of_highest? hhighest (mem_toList.mp hi)

/-- The members are below a number if and only if the set fits. -/
theorem fits_iff {count : Nat} : s.fits count = true ↔ ∀ i, s.contains i = true → i < count := by
  simp only [fits, subset_iff, contains_first, decide_eq_true_eq]
  constructor
  · intro h i hi
    exact (h i hi).1
  · intro h i hi
    exact ⟨h i hi, lt_of_contains hi⟩

/-- **The two checks of a bound agree**: the set fits if and only if its highest member, if there is
one, is below the number. -/
theorem fits_iff_highest? {count : Nat} :
    s.fits count = true ↔ s.highest? = none ∨ ∃ top, s.highest? = some top ∧ top < count := by
  rw [fits_iff]
  cases hhighest : s.highest? with
  | none =>
    have hnone := isEmpty_iff.mp (highest?_eq_none.mp hhighest)
    simp [hnone]
  | some top =>
    simp only [reduceCtorEq, Option.some.injEq, exists_eq_left', false_or]
    constructor
    · intro h
      exact h top (contains_of_highest? hhighest)
    · intro h i hi
      exact Nat.lt_of_le_of_lt (le_of_highest? hhighest hi) h

/-! ## Questions -/

/-- **Every question about the set is answered as for this finite set of numbers.** -/
structure Represents (s : ChannelSet) (m : Finset Nat) : Prop where
  below : ∀ i ∈ m, i < capacity
  contains : ∀ i, s.contains i = true ↔ i ∈ m
  /-- The list has the members, -/
  listed : ∀ i, s.contains i = true ↔ i ∈ s.toList
  /-- in strictly ascending order, -/
  ascending : s.toList.Pairwise (· < ·)
  /-- and the set can be made from it again, bit by bit. -/
  collected : (ofList s.toList).bits = s.bits
  size : s.size = s.toList.length
  card : s.size = m.card
  highest : s.highest? = s.toList.getLast?
  fits : ∀ count, s.fits count = true ↔ ∀ i ∈ m, i < count
  fits_highest : ∀ count, s.fits count = true ↔
    s.highest? = none ∨ ∃ top, s.highest? = some top ∧ top < count

/-- The members decide every answer. -/
theorem represents_of_contains (h : ∀ i, s.contains i = true ↔ i ∈ m) : s.Represents m where
  below i hi := lt_of_contains ((h i).mpr hi)
  contains := h
  listed i := mem_toList.symm
  ascending := s.pairwise_toList
  collected := by
    congr 1
    apply ext_contains
    intro i
    rw [contains_ofList, Bool.eq_iff_iff, decide_eq_true_eq, mem_toList]
    exact ⟨And.left, fun hi => ⟨hi, lt_of_contains hi⟩⟩
  size := s.length_toList.symm
  card := by
    have hmembers : m = s.toList.toFinset := by
      ext i
      rw [List.mem_toFinset, mem_toList, h]
    rw [hmembers, List.toFinset_card_of_nodup s.nodup_toList, length_toList]
  highest := s.highest?_eq_getLast?
  fits count := by simp only [fits_iff, h]
  fits_highest count := fits_iff_highest?

/-! ## Making and changing sets -/

/-- The numbers of the bits that are set in a word. -/
def digits (word : UInt64) : Finset Nat := {i ∈ Finset.range capacity | word.toNat.testBit i}

theorem mem_digits (s : ChannelSet) (i : Nat) : i ∈ digits s.bits ↔ s.contains i = true := by
  rw [digits, Finset.mem_filter, Finset.mem_range, ← contains_eq_testBit]
  exact ⟨And.right, fun hi => ⟨lt_of_contains hi, hi⟩⟩

/-- How a set is made. -/
inductive Origin where
  | empty
  /-- The channels below a number. -/
  | first (count : Nat)
  | ofBits (word : UInt64)
  | ofList (channels : List Nat)

/-- The set that is made. -/
def Origin.set : Origin → ChannelSet
  | empty => .empty
  | first count => .first count
  | ofBits word => ⟨word⟩
  | ofList channels => .ofList channels

/-- The numbers that it stands for.  From the capacity on there are no channels. -/
def Origin.numbers : Origin → Finset Nat
  | empty => ∅
  | first count => Finset.range (min count capacity)
  | ofBits word => digits word
  | ofList channels => {i ∈ channels.toFinset | i < capacity}

/-- What may be done to a set. -/
inductive Change where
  | insert (channel : Nat)
  | erase (channel : Nat)
  /-- Keep what another set has too. -/
  | inter (other : ChannelSet)

/-- The set after a change. -/
def Change.apply (s : ChannelSet) : Change → ChannelSet
  | insert channel => s.insert channel
  | erase channel => s.erase channel
  | inter other => s.inter other

/-- The same change to a finite set of numbers.  It ignores numbers from the capacity on. -/
def Change.applyTo (m : Finset Nat) : Change → Finset Nat
  | insert channel => if channel < capacity then Insert.insert channel m else m
  | erase channel => m.erase channel
  | inter other => m ∩ digits other.bits

/-- **The members of a set as it is made.** -/
theorem Origin.contains_set (origin : Origin) (i : Nat) :
    origin.set.contains i = true ↔ i ∈ origin.numbers := by
  cases origin with
  | empty => simp [Origin.set, Origin.numbers]
  | first count => simp [Origin.set, Origin.numbers]
  | ofBits word => exact (mem_digits ⟨word⟩ i).symm
  | ofList channels => simp [Origin.set, Origin.numbers, contains_ofList]

/-- **The members after one change.** -/
theorem Change.contains_apply (h : ∀ i, s.contains i = true ↔ i ∈ m) (change : Change) (i : Nat) :
    (change.apply s).contains i = true ↔ i ∈ change.applyTo m := by
  cases change with
  | insert channel =>
    rw [Change.apply, Change.applyTo, contains_insert, Bool.or_eq_true, decide_eq_true_eq, h]
    by_cases hchannel : channel < capacity
    · simp [hchannel, eq_comm]
    · simp [hchannel]
  | erase channel =>
    rw [Change.apply, Change.applyTo, contains_erase, Bool.and_eq_true, decide_eq_true_eq, h,
      Finset.mem_erase, ne_comm]
  | inter other =>
    rw [Change.apply, Change.applyTo, contains_inter, Bool.and_eq_true, h, Finset.mem_inter,
      mem_digits]

/-- **The members after many changes.** -/
theorem contains_after (h : ∀ i, s.contains i = true ↔ i ∈ m) (changes : List Change) (i : Nat) :
    (changes.foldl Change.apply s).contains i = true ↔ i ∈ changes.foldl Change.applyTo m := by
  induction changes generalizing s m with
  | nil => exact h i
  | cons change rest ih => exact ih (change.contains_apply h)

/-- **A set of channels is a faithful finite set** of numbers below the capacity.  However it is
made and whatever is done to it after that, it represents the numbers to which the same was done,
and of two sets one is within the other if and only if that is so for their numbers. -/
theorem represents_after (origin : Origin) (changes : List Change) :
    (changes.foldl Change.apply origin.set).Represents
        (changes.foldl Change.applyTo origin.numbers) ∧
      ∀ (origin' : Origin) (changes' : List Change),
        (changes.foldl Change.apply origin.set).subset (changes'.foldl Change.apply origin'.set) =
            true ↔
          changes.foldl Change.applyTo origin.numbers ⊆
            changes'.foldl Change.applyTo origin'.numbers := by
  refine ⟨represents_of_contains (contains_after origin.contains_set changes), ?_⟩
  intro origin' changes'
  simp only [subset_iff, contains_after origin.contains_set changes,
    contains_after origin'.contains_set changes', Finset.subset_iff]

/-- The first four channels and some more, of which one is no channel and one is the highest. -/
example :
    let changes : List Change := [.insert 64, .insert 63, .erase 2, .inter ⟨0x8000000000000006⟩]
    (changes.foldl Change.apply (Origin.first 4).set).toList = [1, 63] := by
  decide

end LogicAnalyzer.ChannelSet
