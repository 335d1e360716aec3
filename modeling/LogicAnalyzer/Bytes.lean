/-!
# Little-endian words

Every number on the wire is a fixed count of bytes, least significant first.  A word is
written at a given width, and read back from any string of bytes.

## Main definitions

* `littleEndian width value`: the lowest `width` bytes of `value`
* `ofLittleEndian bytes`: the number those bytes spell
-/

namespace LogicAnalyzer

/-- The lowest `width` bytes of `value`, least significant first. -/
def littleEndian : Nat → Nat → List UInt8
  | 0, _ => []
  | width + 1, value => UInt8.ofNat value :: littleEndian width (value / 256)

/-- The number whose bytes, least significant first, are given. -/
def ofLittleEndian : List UInt8 → Nat
  | [] => 0
  | byte :: rest => byte.toNat + 256 * ofLittleEndian rest

@[simp]
theorem length_littleEndian (width value : Nat) : (littleEndian width value).length = width := by
  induction width generalizing value with
  | zero => rfl
  | succ width ih => simp [littleEndian, ih]

end LogicAnalyzer
