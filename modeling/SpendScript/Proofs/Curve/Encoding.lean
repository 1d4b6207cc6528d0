import Mathlib.FieldTheory.Finite.Basic
import SpendScript.Credential
import SpendScript.Proofs.Bytes
import SpendScript.Proofs.Curve.Field
/-!
# The curve — keys and their encodings

The compressed encoding of a key drops `y` and keeps its parity. The prime
of the field leaves three when divided by four, so a square has a root
that is a power of it; the only other root is its opposite, which has the
other parity, the prime being odd. So `x` and the parity give `y` back, and
decoding a compressed key gives the key (`decode_compressed`): every point
of the curve can be written as a key and read back.
-/

namespace SpendScript

namespace Curve

instance : Fact (Nat.Prime prime) :=
  ⟨prime_prime⟩

/-- The power that is taken for a root squares to what it is taken of, if
that is a square. -/
theorem pow_root_mul_self (y : ZMod prime) :
    (y * y) ^ ((prime + 1) / 4) * (y * y) ^ ((prime + 1) / 4) = y * y := by
  -- In all, `y` is raised to the power of Fermat's theorem and two more.
  have hexp : 2 * ((prime + 1) / 4 + (prime + 1) / 4) = prime - 1 + 2 := by decide
  by_cases hy : y = 0
  · subst hy
    rw [mul_zero, zero_pow (by decide), mul_zero]
  · rw [← pow_add, ← pow_two, ← pow_mul, hexp, pow_add, ZMod.pow_card_sub_one_eq_one hy, one_mul]

/-- In the field, the opposite of a number is what it lacks to the prime. -/
theorem cast_opposite {y : ℕ} (hy : y < prime) :
    ((prime - y : ℕ) : ZMod prime) = -(y : ZMod prime) := by
  rw [Nat.cast_sub hy.le, ZMod.natCast_self, zero_sub]

/-- Numbers below the prime whose squares agree are equal or opposite. -/
theorem eq_or_eq_sub_of_mul_self_mod_eq {y z : ℕ} (hy : y < prime) (hz : z < prime)
    (h : z * z % prime = y * y % prime) : z = y ∨ z = (prime - y) % prime := by
  have hsquare : (z : ZMod prime) ^ 2 = (y : ZMod prime) ^ 2 := by
    have hcast := (ZMod.natCast_eq_natCast_iff' (z * z) (y * y) prime).mpr h
    rw [pow_two, pow_two]
    exact_mod_cast hcast
  rcases sq_eq_sq_iff_eq_or_eq_neg.mp hsquare with heq | hneg
  · left
    have hmod := (ZMod.natCast_eq_natCast_iff' z y prime).mp heq
    rwa [Nat.mod_eq_of_lt hz, Nat.mod_eq_of_lt hy] at hmod
  · right
    have hmod := (ZMod.natCast_eq_natCast_iff' z (prime - y) prime).mp
      (by rw [hneg, cast_opposite hy])
    rwa [Nat.mod_eq_of_lt hz] at hmod

/-- **A square has a root**, and it is one of the two. -/
theorem sqrt?_mul_self {y : ℕ} (hy : y < prime) :
    ∃ z, sqrt? (y * y % prime) = some z ∧ (z = y ∨ z = (prime - y) % prime) := by
  have hpow : powMod prime (y * y % prime) ((prime + 1) / 4) =
      (y * y) ^ ((prime + 1) / 4) % prime := by
    rw [powMod_eq (by decide), ← Nat.pow_mod]
  have hroot : powMod prime (y * y % prime) ((prime + 1) / 4) *
      powMod prime (y * y % prime) ((prime + 1) / 4) % prime = y * y % prime := by
    rw [hpow, ← Nat.mul_mod]
    refine (ZMod.natCast_eq_natCast_iff' _ _ prime).mp ?_
    have hzmod := pow_root_mul_self (y : ZMod prime)
    exact_mod_cast hzmod
  refine ⟨_, ?_, eq_or_eq_sub_of_mul_self_mod_eq hy (powMod_lt (by decide) (by decide)) hroot⟩
  rw [sqrt?, if_pos (by rw [hroot, Nat.mod_mod])]

/-- What is given as a root is below the prime. -/
theorem lt_of_sqrt?_eq_some {a z : ℕ} (h : sqrt? a = some z) : z < prime := by
  simp only [sqrt?] at h
  split at h
  · cases h
    exact powMod_lt (by decide) (by decide)
  · cases h

/-- Opposite numbers are of opposite parity, the prime being odd. -/
theorem odd_opposite {y : ℕ} (hy : y < prime) : ((prime - y) % 2 == 1) = !(y % 2 == 1) := by
  have hodd : prime % 2 = 1 := by decide
  rcases Nat.mod_two_eq_zero_or_one y with hy2 | hy2
  · have hother : (prime - y) % 2 = 1 := by omega
    rw [hother, hy2]
    rfl
  · have hother : (prime - y) % 2 = 0 := by omega
    rw [hother, hy2]
    rfl

end Curve

namespace PublicKey

/-- The coordinates of a key are those that it is given by. -/
theorem ofXY?_eq_some_iff {x y : ℕ} {k : PublicKey} :
    ofXY? x y = some k ↔ k.x = x ∧ k.y = y := by
  unfold ofXY?
  constructor
  · intro h
    split at h
    · cases h
      exact ⟨rfl, rfl⟩
    · cases h
  · rintro ⟨rfl, rfl⟩
    exact dif_pos k.onCurve

/-- `x` and the parity of `y` give the key back. -/
theorem ofX?_self (k : PublicKey) : ofX? (k.y % 2 == 1) k.x = some k := by
  obtain ⟨-, hy, hcurve⟩ := k.onCurve
  obtain ⟨z, hz, hroots⟩ := Curve.sqrt?_mul_self hy
  rw [ofX?, ← hcurve, hz]
  refine ofXY?_eq_some_iff.mpr ⟨rfl, ?_⟩
  rcases hroots with rfl | rfl
  · simp
  · -- The opposite root is of the other parity, unless both are zero.
    rcases Nat.eq_zero_or_pos k.y with hzero | hpos
    · simp [hzero]
    · have hsub : (Curve.prime - k.y) % Curve.prime = Curve.prime - k.y :=
        Nat.mod_eq_of_lt (by omega)
      have hparity : ((Curve.prime - k.y) % 2 == 1) ≠ (k.y % 2 == 1) := by
        rw [Curve.odd_opposite hy]
        exact Bool.not_ne_self _
      have hback : (Curve.prime - (Curve.prime - k.y)) % Curve.prime = k.y := by
        rw [Nat.sub_sub_self hy.le, Nat.mod_eq_of_lt hy]
      rw [hsub, if_neg (by simpa using hparity), hback]

/-- **A compressed key is parsed as the key.** -/
theorem parse?_compressed (k : PublicKey) : parse? k.compressed = some k := by
  have hx : Bytes.toNat (Bytes.ofNat 32 k.x) = k.x :=
    Bytes.toNat_ofNat_of_lt (lt_trans k.onCurve.1 (by decide))
  have hk := ofX?_self k
  rw [compressed, parse?, if_pos (Bytes.length_ofNat 32 k.x), hx]
  rcases Nat.mod_two_eq_zero_or_one k.y with heven | hodd
  · rw [heven] at hk
    simpa [heven] using hk
  · rw [hodd] at hk
    simpa [hodd] using hk

theorem isPlain_compressed (k : PublicKey) : isPlain k.compressed = true := by
  unfold compressed
  split
  · simp [isPlain]
  · simp [isPlain]

/-- **And decoded as the key**, under the strict rules as well. -/
theorem decode_compressed (k : PublicKey) (strict : Bool) :
    decode strict k.compressed = .ok k := by
  rw [decode, isPlain_compressed, parse?_compressed]
  simp

end PublicKey

end SpendScript
