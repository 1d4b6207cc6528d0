import SpendScript.Curve.PublicKey
import SpendScript.Curve.Signature
import SpendScript.Hash.Hmac
/-!
# The curve — signing and checking

A signature over a digest `z` with the secret `d` comes from a nonce `k`:
`r` is the `x` coordinate of `k · G` and `s = (z + r · d) / k`, both
modulo the order of the group. It is checked against the public key
`Q = d · G` by `(z / s) · G + (r / s) · Q`, whose `x` coordinate must be
`r`. The twin of a signature passes this test where the signature does, and
so only the low one of the two is taken.

The nonce is not random. A keyed hash, started from the secret and the
digest, gives one candidate after another, and the first that is a scalar
other than zero and yields no zero in the signature is taken. So signing
is a function: the same secret and digest always give the same signature.
The search is cut off after a number of candidates that no input is known
to need.
-/

namespace SpendScript

namespace Signature

/-- Whether a signature over a digest is right under a key. A high one
never is. -/
def verify (sig : Signature) (key : PublicKey) (digest : Bytes) : Bool :=
  if sig.r = 0 ∨ sig.s = 0 ∨ sig.isLow = false then false
  else
    let w := Curve.invMod Curve.order sig.s
    let u := Bytes.toNat digest * w % Curve.order
    let v := sig.r * w % Curve.order
    let p := (Curve.Point.generator.mul u).add (key.toPoint.mul v)
    match p.coordinates? with
    | none => false
    | some (x, _) => x % Curve.order == sig.r

/-- The state that candidates for a nonce are drawn from. -/
structure NonceSource where
  key : Bytes
  value : Bytes
  deriving DecidableEq, Repr

namespace NonceSource

/-- Mixes a mark and more data into the state. -/
def mix (source : NonceSource) (mark : UInt8) (data : Bytes) : NonceSource :=
  let key := Hash.hmac source.key (source.value ++ mark :: data)
  ⟨key, Hash.hmac key source.value⟩

/-- The source for a secret and a digest. -/
def start (secret : Curve.Scalar) (digest : Bytes) : NonceSource :=
  let data := Bytes.ofNat 32 secret ++ Bytes.ofNat 32 (Bytes.toNat digest % Curve.order)
  let blank : NonceSource := ⟨List.replicate 32 0x00, List.replicate 32 0x01⟩
  (blank.mix 0x00 data).mix 0x01 data

/-- The answer of `f` on the first candidate for which it has one, among
the first `count` of them. -/
def findSome? {α : Type} (f : Nat → Option α) : (count : Nat) → NonceSource → Option α
  | 0, _ => none
  | count + 1, source =>
    let value := Hash.hmac source.key source.value
    match f (Bytes.toNat value) with
    | some a => some a
    | none => findSome? f count ((NonceSource.mk source.key value).mix 0x00 [])

end NonceSource

/-- The low signature that a nonce gives, if the nonce is a scalar and
neither part of the signature is zero. -/
def ofNonce? (secret : Curve.Scalar) (z k : Nat) : Option Signature :=
  if k = 0 ∨ Curve.order ≤ k then none
  else
    match (Curve.Point.generator.mul k).coordinates? with
    | none => none
    | some (x, _) =>
      let r : Curve.Scalar := .ofNat _ x
      let s : Curve.Scalar :=
        .ofNat _ (Curve.invMod Curve.order k * ((z + r * secret) % Curve.order))
      if r = 0 ∨ s = 0 then none else some (normalize ⟨r, s⟩)

/-- How many candidates for a nonce are tried. -/
def attempts : Nat :=
  64

/-- The signature over a digest with a secret. -/
def sign (secret : Curve.Scalar) (digest : Bytes) : Signature :=
  let source := NonceSource.start secret digest
  (source.findSome? (ofNonce? secret (Bytes.toNat digest)) attempts).getD ⟨0, 0⟩

end Signature

end SpendScript
