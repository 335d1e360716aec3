/-!
# Read buffers

Reads deliver into buffers that are allocated once and reused.  A read takes as many bytes
as its buffer has room for, so the capacity of a buffer is part of what it does.

## Main definitions

* `Buffer`: bytes with room for more
* `Buffer.allocate`, `ofBytes`: an empty buffer, a filled one
* `Buffer.clear`, `append`: removing the content, adding to it

## Main results

* `Buffer.capacity_append`: the capacity is kept while the content fits
-/

namespace LogicAnalyzer

/-- Bytes together with the room that is set aside for them. -/
structure Buffer where
  bytes : List UInt8
  /-- How many bytes there is room for. -/
  capacity : Nat
  fits : bytes.length ≤ capacity
deriving DecidableEq

namespace Buffer

/-- An empty buffer with room for `size` bytes. -/
def allocate (size : Nat) : Buffer := ⟨[], size, Nat.zero_le size⟩

instance : Inhabited Buffer := ⟨allocate 0⟩

/-- A buffer with this content, and room for `capacity` bytes at least. -/
def ofBytes (bytes : List UInt8) (capacity : Nat) : Buffer :=
  ⟨bytes, max capacity bytes.length, Nat.le_max_right ..⟩

/-- Removes the content and keeps the room. -/
def clear (b : Buffer) : Buffer := ⟨[], b.capacity, Nat.zero_le _⟩

/-- The least room that a buffer grows to. -/
def leastGrowth : Nat := 8

/-- The room of a buffer that has to hold `needed` bytes: what it was, or if that is too
little, twice as much or whatever more is needed. -/
def grown (capacity needed : Nat) : Nat :=
  if needed ≤ capacity then capacity else max (2 * capacity) (max needed leastGrowth)

theorem le_grown (capacity needed : Nat) : needed ≤ grown capacity needed := by
  unfold grown; split <;> omega

/-- Adds to the content. -/
def append (b : Buffer) (more : List UInt8) : Buffer where
  bytes := b.bytes ++ more
  capacity := grown b.capacity (b.bytes ++ more).length
  fits := le_grown ..

@[simp] theorem bytes_append (b : Buffer) (more : List UInt8) :
    (b.append more).bytes = b.bytes ++ more := rfl

theorem capacity_append {b : Buffer} {more : List UInt8}
    (h : b.bytes.length + more.length ≤ b.capacity) : (b.append more).capacity = b.capacity := by
  simp [append, grown, h]

end Buffer

end LogicAnalyzer
