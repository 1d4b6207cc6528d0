import SpendScript.Curve.PublicKey
/-!
# The curve — key pairs

A key pair is a secret with the public key that belongs to it, and with
the proof that it does: the key is at the multiple of the generator that
the secret says. So zero is nobody's secret.

Some pairs are fixed, one for each byte. Their secrets differ in the last
byte only, so multiplying by any of them goes through the same point
before its last eight bits, and from there the kernel follows all of them
to a key.
-/

namespace SpendScript

/-- A secret scalar and the public key that belongs to it. -/
structure KeyPair where
  secret : Curve.Scalar
  publicKey : PublicKey
  belongs : PublicKey.ofPoint? (Curve.Point.generator.mul secret) = some publicKey
  deriving DecidableEq, Repr

namespace Curve

/-- The bits of a number are those of its upper part and those below. -/
theorem bits_add (high low n : Nat) :
    bits (high + low) n = bits high (n >>> low) ++ bits low n := by
  induction high with
  | zero => simp [bits]
  | succ high ih =>
    rw [Nat.succ_add, bits, bits, ih, Nat.testBit_shiftRight, Nat.add_comm high, List.cons_append]

/-- A multiplication can be halted before its last eight bits. -/
theorem Point.mul_eq_foldl (k : Nat) (p : Point) :
    p.mul k = (bits 8 k).foldl p.step ((bits 248 (k >>> 8)).foldl p.step infinity) := by
  rw [← List.foldl_append, ← bits_add]
  rfl

end Curve

namespace KeyPair

open Curve

/-- What the secrets of the fixed pairs have before their last byte. -/
def commonSecret : Nat :=
  Bytes.toNat (List.replicate 31 0x11)

/-- The secret of the fixed pair for a byte: thirty-one bytes `11` and that
byte. -/
def seedSecret (seed : UInt8) : Nat :=
  Bytes.toNat (List.replicate 31 0x11 ++ [seed])

theorem seedSecret_eq (seed : UInt8) : seedSecret seed = commonSecret * 256 + seed.toNat :=
  Bytes.toNat_append_singleton _ seed

theorem seedSecret_lt (seed : UInt8) : seedSecret seed < order := by
  have hseed : seed.toNat < 256 := seed.toNat_lt
  have hcommon : commonSecret * 256 + 256 < order := by decide
  rw [seedSecret_eq]
  omega

/-- Where multiplying by any of these secrets has come to before the last
byte. -/
def commonPoint : Point :=
  ⟨0x6bf4d3a292cc5deba44d9a3d7b2d3fbfa5599aeedf027fd972e9a4e67829b6ce,
    0xad3846758ee0102ec0855a24e657f8c44efc4023b350e699611a64a26f371c22,
    0xbc4b5c72982bf6705230d0893b75869f1b63b66c8564461ae64480dd2382e6ff⟩

theorem foldl_bits_commonSecret :
    (bits 248 commonSecret).foldl Point.generator.step Point.infinity = commonPoint := by
  decide +kernel

theorem isSome_ofPoint?_commonPoint :
    ∀ last < 256, (PublicKey.ofPoint? ((bits 8 (commonSecret * 256 + last)).foldl
      Point.generator.step commonPoint)).isSome := by
  decide +kernel

/-- **There is a key for every fixed secret.** -/
theorem isSome_ofPoint?_seedSecret (seed : UInt8) :
    (PublicKey.ofPoint? (Point.generator.mul (seedSecret seed))).isSome := by
  have hseed : seed.toNat < 256 := seed.toNat_lt
  have hupper : (commonSecret * 256 + seed.toNat) >>> 8 = commonSecret := by omega
  rw [seedSecret_eq, Point.mul_eq_foldl, hupper, foldl_bits_commonSecret]
  exact isSome_ofPoint?_commonPoint seed.toNat hseed

/-- The fixed pair for a byte. -/
def ofSeed (seed : UInt8) : KeyPair where
  secret := ⟨seedSecret seed, seedSecret_lt seed⟩
  publicKey := (PublicKey.ofPoint? (Point.generator.mul (seedSecret seed))).get
    (isSome_ofPoint?_seedSecret seed)
  belongs := (Option.some_get _).symm

end KeyPair

end SpendScript
