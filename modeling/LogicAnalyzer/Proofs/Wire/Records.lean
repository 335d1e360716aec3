import LogicAnalyzer.Proofs.Wire.Words
import LogicAnalyzer.Wire.Record

/-!
# Reading records

A record that is written at some width and read back is the sample cut to that width, and a
payload of records falls into the records it is made of.

## Main results

* `pieces_flatten_of_length`: pieces that are full are found again
* `Record.unpack_pack`: reading a record cuts the sample to the width of the record
* `Record.pieces_flatMap_pack`: the records of a payload
-/

namespace LogicAnalyzer

/-- Pieces that are full are found again in the list that they make up. -/
theorem pieces_flatten_of_length {α : Type} {size : Nat} (hsize : 0 < size) {parts : List (List α)}
    (h : ∀ part ∈ parts, part.length = size) : pieces size parts.flatten = parts := by
  induction parts with
  | nil => exact pieces_nil size
  | cons part parts ih =>
    have hpart : part.length = size := h part (List.mem_cons_self ..)
    have hparts := ih fun part hmem => h part (List.mem_cons_of_mem _ hmem)
    cases part with
    | nil =>
      rw [List.length_nil] at hpart
      omega
    | cons first rest =>
      rw [List.length_cons] at hpart
      have hrest : size - 1 = rest.length := by omega
      rw [List.flatten_cons, List.cons_append, pieces_cons, hrest, List.take_left, List.drop_left,
        hparts]

namespace Record

variable {width : Nat}

@[simp]
theorem length_pack (sample : UInt64) : (pack width sample).length = width :=
  length_littleEndian ..

theorem length_flatMap_pack (samples : List UInt64) :
    (samples.flatMap (pack width)).length = samples.length * width := by
  induction samples with
  | nil => simp
  | cons sample samples ih =>
    rw [List.flatMap_cons, List.length_append, ih, length_pack, List.length_cons, Nat.succ_mul,
      Nat.add_comm]

/-- **Reading a record cuts the sample** to the bits that the record has. -/
theorem unpack_pack (hwidth : width ≤ maxWidth) (sample : UInt64) :
    unpack (pack width sample) = UInt64.ofNat (sample.toNat % 2 ^ (8 * width)) := by
  have hshort : (pack width sample).take maxWidth = pack width sample :=
    List.take_of_length_le (by rwa [length_pack])
  rw [unpack, hshort, pack, ofLittleEndian_littleEndian, Nat.pow_mul]

/-- The records of a payload are those it is made of. -/
theorem pieces_flatMap_pack (hwidth : 0 < width) (samples : List UInt64) :
    pieces width (samples.flatMap (pack width)) = samples.map (pack width) := by
  rw [List.flatMap_def]
  apply pieces_flatten_of_length hwidth
  intro record hmem
  obtain ⟨sample, -, rfl⟩ := List.mem_map.mp hmem
  exact length_pack sample

end Record

end LogicAnalyzer
