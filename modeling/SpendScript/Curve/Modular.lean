/-!
# The curve — arithmetic modulo a number

Coordinates are numbers modulo the prime of the field, and the scalars
that multiply points are numbers modulo the order of the group. Both are
kept as natural numbers below the modulus. Powers are taken bit by bit, so
that a number of two hundred and fifty-six bits is no obstacle, and
inverses and square roots are powers.
-/

namespace SpendScript

namespace Curve

/-- The lowest `width` bits of a number, the highest of them first. -/
def bits : (width : Nat) → Nat → List Bool
  | 0, _ => []
  | width + 1, n => n.testBit width :: bits width n

@[simp] theorem length_bits (width n : Nat) : (bits width n).length = width := by
  induction width with
  | zero => rfl
  | succ width ih => simp [bits, ih]

/-- The difference of two numbers below the modulus. -/
def subMod (m a b : Nat) : Nat :=
  (a + (m - b)) % m

/-- A power with an exponent of at most two hundred and fifty-six bits. -/
def powMod (m a e : Nat) : Nat :=
  (bits 256 e).foldl
    (fun acc bit => if bit then acc * acc % m * a % m else acc * acc % m) (1 % m)

/-- The inverse modulo a prime; zero for zero. -/
def invMod (m a : Nat) : Nat :=
  powMod m a (m - 2)

end Curve

end SpendScript
