import Mathlib.NumberTheory.LucasPrimality
import Mathlib.Tactic.NormNum.Prime
import SpendScript.Curve.Point
/-!
# The curve — the field

Powers taken bit by bit are powers. With that, the prime of the field is
proved to be one by Lucas's test: a number whose powers reach one after
`m - 1` steps and after no proper divisor of them is prime, and the primes
that divide `m - 1` are certified before it in the same way. The kernel
does the powers.
-/

namespace SpendScript

namespace Curve

/-! ## Powers -/

/-- Squaring a reduced power, and multiplying by the base where the bit is
set, makes the exponent twice as large and adds the bit. -/
theorem step_powMod (m a e : ℕ) (bit : Bool) :
    (if bit then a ^ e % m * (a ^ e % m) % m * a % m else a ^ e % m * (a ^ e % m) % m) =
      a ^ (2 * e + bit.toNat) % m := by
  have hsquare : a ^ e % m * (a ^ e % m) % m = a ^ (2 * e) % m := by
    rw [← Nat.mul_mod, ← pow_add, two_mul]
  cases bit with
  | false => simpa using hsquare
  | true =>
    simp only [if_true, hsquare, Bool.toNat_true]
    rw [Nat.mod_mul_mod, ← pow_succ]

/-- The loop adds the bits it has yet to see to the exponent it has
reached. -/
theorem foldl_bits_powMod (m a width n e : ℕ) :
    (bits width n).foldl
        (fun acc bit => if bit then acc * acc % m * a % m else acc * acc % m) (a ^ e % m) =
      a ^ (2 ^ width * e + n % 2 ^ width) % m := by
  induction width generalizing e with
  | zero => simp [bits, Nat.mod_one]
  | succ width ih =>
    have hbit : 2 ^ width * (2 * e + (n.testBit width).toNat) + n % 2 ^ width =
        2 ^ (width + 1) * e + n % 2 ^ (width + 1) := by
      rw [Nat.mod_pow_succ, Nat.toNat_testBit]
      ring
    rw [bits, List.foldl_cons, step_powMod, ih, hbit]

/-- **Powers taken bit by bit are powers.** -/
theorem powMod_eq {m a e : ℕ} (h : e < 2 ^ 256) : powMod m a e = a ^ e % m := by
  have hfold := foldl_bits_powMod m a 256 e 0
  rwa [pow_zero, mul_zero, zero_add, Nat.mod_eq_of_lt h] at hfold

/-- And so they are below the modulus. -/
theorem powMod_lt {m a e : ℕ} (hm : 0 < m) (h : e < 2 ^ 256) : powMod m a e < m := by
  rw [powMod_eq h]
  exact Nat.mod_lt _ hm

/-- So they tell where a power modulo the number is one. -/
theorem pow_eq_one_iff_powMod {m a e : ℕ} (hm : 2 ≤ m) (h : e < 2 ^ 256) :
    (a : ZMod m) ^ e = 1 ↔ powMod m a e = 1 := by
  rw [powMod_eq h, ← Nat.cast_pow, ← Nat.cast_one, ZMod.natCast_eq_natCast_iff',
    Nat.mod_eq_of_lt (show 1 < m by omega)]

/-! ## The prime -/

/-- What Lucas's test asks of a number, a base and the prime factors of the
number before it. -/
def passesLucas (m a : ℕ) (factors : List ℕ) : Bool :=
  2 ≤ m && m ≤ 2 ^ 256 && factors.prod == m - 1 && powMod m a (m - 1) == 1 &&
    factors.all fun q => powMod m a ((m - 1) / q) != 1

/-- **A number that passes is prime.** -/
theorem prime_of_passesLucas (m a : ℕ) (factors : List ℕ) (hpass : passesLucas m a factors = true)
    (hprime : ∀ q ∈ factors, q.Prime) : m.Prime := by
  simp only [passesLucas, Bool.and_eq_true, decide_eq_true_eq, beq_iff_eq, List.all_eq_true,
    bne_iff_ne] at hpass
  obtain ⟨⟨⟨⟨htwo, hsize⟩, hprod⟩, hfull⟩, hproper⟩ := hpass
  refine lucas_primality m a ((pow_eq_one_iff_powMod htwo (by omega)).mpr hfull) fun q hq hdvd => ?_
  -- Any prime divisor of `m - 1` is one of those listed, since they are prime and it is their
  -- product.
  have hmem : q ∈ factors := by
    obtain ⟨f, hf, hqf⟩ := (Prime.dvd_prod_iff hq.prime).mp (hprod ▸ hdvd)
    rwa [(Nat.prime_dvd_prime_iff_eq hq (hprime f hf)).mp hqf]
  have hle : (m - 1) / q ≤ m - 1 := Nat.div_le_self _ _
  exact fun h => hproper q hmem ((pow_eq_one_iff_powMod htwo (by omega)).mp h)

/-- **The prime of the field is prime.** Each line certifies the factors of
a later one. -/
theorem prime_prime : Nat.Prime prime := by
  have h₁ : Nat.Prime 173378833005251801 :=
    prime_of_passesLucas _ 6 [2, 2, 2, 5, 5, 2621, 24809, 13331831] (by decide +kernel)
      (by norm_num)
  have h₂ : Nat.Prime 22149492674086928081353 :=
    prime_of_passesLucas _ 5 [2, 2, 2, 3, 5323, 173378833005251801] (by decide +kernel)
      (by simp only [List.forall_mem_cons, h₁]; norm_num)
  have h₃ : Nat.Prime 132896956044521568488119 :=
    prime_of_passesLucas _ 6 [2, 3, 22149492674086928081353] (by decide +kernel)
      (by simp only [List.forall_mem_cons, h₂]; norm_num)
  have h₄ : Nat.Prime 255515944373312847190720520512484175977 :=
    prime_of_passesLucas _ 3
      [2, 2, 2, 7, 7, 11, 1627, 2657, 4423, 41201, 96557, 7240687, 107590001] (by decide +kernel)
      (by norm_num)
  have h₅ : Nat.Prime 205115282021455665897114700593932402728804164701536103180137503955397371 :=
    prime_of_passesLucas _ 10
      [2, 3, 5, 29, 29, 31, 7723, 132896956044521568488119,
        255515944373312847190720520512484175977] (by decide +kernel)
      (by simp only [List.forall_mem_cons, h₃, h₄]; norm_num)
  exact prime_of_passesLucas _ 3
    [2, 3, 7, 13441, 205115282021455665897114700593932402728804164701536103180137503955397371]
    (by decide +kernel) (by simp only [List.forall_mem_cons, h₅]; norm_num)

end Curve

end SpendScript
