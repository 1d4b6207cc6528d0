import Mathlib.Algebra.Order.Ring.Nat
import Mathlib.Data.List.Induction
import Mathlib.Tactic.Ring
import SpendScript.Bytes
/-!
# Byte strings and numbers

A number is read back from its bytes, as far as they have room for it, and
bytes are written back from their number, as far as it says how many they
are.
-/

namespace SpendScript

namespace Bytes

/-- **Writing a number keeps what fits.** -/
theorem toNat_ofNat (width n : ℕ) : toNat (ofNat width n) = n % 256 ^ width := by
  induction width generalizing n with
  | zero => simp [ofNat, toNat, Nat.mod_one]
  | succ width ih =>
    have hsplit : n % 256 ^ (width + 1) = n % 256 + 256 * (n / 256 % 256 ^ width) := by
      rw [pow_succ', Nat.mod_mul]
    rw [ofNat, toNat_append_singleton, ih, hsplit, UInt8.toNat_ofNat']
    ring

/-- So a number that fits is read back. -/
theorem toNat_ofNat_of_lt {width n : ℕ} (h : n < 256 ^ width) : toNat (ofNat width n) = n := by
  rw [toNat_ofNat, Nat.mod_eq_of_lt h]

/-- The first byte weighs as much as all that follow it can. -/
theorem toNat_cons (x : UInt8) (b : Bytes) :
    toNat (x :: b) = x.toNat * 256 ^ b.length + toNat b := by
  induction b using List.reverseRecOn with
  | nil => simp [toNat]
  | append_singleton b y ih =>
    rw [← List.cons_append, toNat_append_singleton, toNat_append_singleton, ih,
      List.length_append, List.length_singleton]
    ring

theorem ofNat_zero (width : ℕ) : ofNat width 0 = List.replicate width 0 := by
  induction width with
  | zero => rfl
  | succ width ih =>
    rw [ofNat, Nat.zero_div, ih, List.replicate_succ']
    rfl

/-- **Bytes are written back from their number**, behind as many zeros as
there is room for. -/
theorem ofNat_toNat {width : ℕ} {b : Bytes} (h : b.length ≤ width) :
    ofNat width (toNat b) = List.replicate (width - b.length) 0 ++ b := by
  induction b using List.reverseRecOn generalizing width with
  | nil => simpa [toNat] using ofNat_zero width
  | append_singleton b x ih =>
    rw [List.length_append, List.length_singleton] at h
    obtain ⟨width, rfl⟩ : ∃ w, width = w + 1 := ⟨width - 1, by omega⟩
    have hx : x.toNat < 256 := x.toNat_lt
    have hdiv : (toNat b * 256 + x.toNat) / 256 = toNat b := by omega
    have hbyte : UInt8.ofNat (toNat b * 256 + x.toNat) = x := by
      refine UInt8.toNat_inj.mp ?_
      rw [UInt8.toNat_ofNat']
      omega
    rw [toNat_append_singleton, ofNat, hdiv, hbyte, ih (by omega), List.length_append,
      List.length_singleton, Nat.add_sub_add_right, List.append_assoc]

/-- Bytes in front weigh as much more as those behind them have room for. -/
theorem toNat_append (a b : Bytes) : toNat (a ++ b) = toNat a * 256 ^ b.length + toNat b := by
  induction b using List.reverseRecOn with
  | nil => simp [toNat]
  | append_singleton b x ih =>
    rw [← List.append_assoc, toNat_append_singleton, toNat_append_singleton, ih,
      List.length_append, List.length_singleton]
    ring

/-- And those behind never come up to that. -/
theorem toNat_lt (b : Bytes) : toNat b < 256 ^ b.length := by
  induction b using List.reverseRecOn with
  | nil => simp [toNat]
  | append_singleton b x ih =>
    have hx : x.toNat < 256 := x.toNat_lt
    rw [toNat_append_singleton, List.length_append, List.length_singleton, pow_succ]
    omega

/-- So the first bytes denote what is left of the number when the others
are shifted out. -/
theorem toNat_take (b : Bytes) (n : ℕ) : toNat (b.take n) = toNat b / 256 ^ (b.length - n) := by
  have hsplit : toNat b = toNat (b.take n) * 256 ^ (b.length - n) + toNat (b.drop n) := by
    rw [← List.length_drop, ← toNat_append, List.take_append_drop]
  have hlt : toNat (b.drop n) < 256 ^ (b.length - n) := by
    rw [← List.length_drop]
    exact toNat_lt (b.drop n)
  rw [hsplit, Nat.mul_comm, Nat.mul_add_div (Nat.pow_pos (by decide)), Nat.div_eq_of_lt hlt,
    Nat.add_zero]

end Bytes

end SpendScript
