/-!
# Byte strings

Byte strings are lists of bytes. Keys, signatures and digests are read as
numbers whose first byte weighs most, and written back at a fixed width.
-/

namespace SpendScript

/-- A byte string. -/
abbrev Bytes := List UInt8

namespace Bytes

/-- The number a byte string denotes, its first byte weighing most. -/
def toNat (b : Bytes) : Nat :=
  b.foldl (fun acc x => acc * 256 + x.toNat) 0

/-- The last byte weighs one. -/
theorem toNat_append_singleton (b : Bytes) (x : UInt8) :
    toNat (b ++ [x]) = toNat b * 256 + x.toNat := by
  rw [toNat, List.foldl_append]
  rfl

/-- The last `width` bytes of a number, the one that weighs most first. -/
def ofNat : (width : Nat) → Nat → Bytes
  | 0, _ => []
  | width + 1, n => ofNat width (n / 256) ++ [UInt8.ofNat n]

@[simp] theorem length_ofNat (width n : Nat) : (ofNat width n).length = width := by
  induction width generalizing n with
  | zero => rfl
  | succ width ih => simp [ofNat, ih]

end Bytes

end SpendScript
