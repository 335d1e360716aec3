import LogicAnalyzer.Bytes
import Mathlib.Algebra.Group.Nat.Defs

/-!
# Reading words

A word of `width` bytes keeps a number modulo `256 ^ width`, and every string of bytes is the word
of the number that it spells.

## Main results

* `ofLittleEndian_littleEndian`: reading undoes writing, modulo `256 ^ width`
* `littleEndian_ofLittleEndian`: a string of bytes is the only one of its length with its value
-/

namespace LogicAnalyzer

theorem ofLittleEndian_lt (bytes : List UInt8) : ofLittleEndian bytes < 256 ^ bytes.length := by
  induction bytes with
  | nil => simp [ofLittleEndian]
  | cons byte rest ih =>
    have hbyte := byte.toNat_lt
    simp only [ofLittleEndian, List.length_cons, Nat.pow_succ]
    omega

/-- **Reading undoes writing**: what a word of `width` bytes keeps of a number is its
remainder by `256 ^ width`. -/
theorem ofLittleEndian_littleEndian (width value : Nat) :
    ofLittleEndian (littleEndian width value) = value % 256 ^ width := by
  induction width generalizing value with
  | zero => simp [littleEndian, ofLittleEndian, Nat.mod_one]
  | succ width ih =>
    simp only [littleEndian, ofLittleEndian, ih, UInt8.toNat_ofNat', Nat.reducePow]
    rw [Nat.pow_succ, Nat.mul_comm (256 ^ width) 256, Nat.mod_mul]

theorem littleEndian_ofLittleEndian (bytes : List UInt8) :
    littleEndian bytes.length (ofLittleEndian bytes) = bytes := by
  induction bytes with
  | nil => rfl
  | cons byte rest ih =>
    have hbyte := byte.toNat_lt
    have hdiv : (byte.toNat + 256 * ofLittleEndian rest) / 256 = ofLittleEndian rest := by omega
    have hmod : UInt8.ofNat (byte.toNat + 256 * ofLittleEndian rest) = byte := by
      apply UInt8.toNat_inj.mp
      simp only [UInt8.toNat_ofNat', Nat.reducePow]
      omega
    simp only [ofLittleEndian, List.length_cons, littleEndian, hdiv, hmod, ih]

end LogicAnalyzer
