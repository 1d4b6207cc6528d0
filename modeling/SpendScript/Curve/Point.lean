import SpendScript.Curve.Modular
/-!
# The curve — points

The curve is `y² = x³ + 7` over the field of a prime just below `2^256`.
Its points form a group of prime order. A point is kept in projective
form, as the triple `(X, Y, Z)` that stands for `(X / Z², Y / Z³)`, so
that adding needs no division; `Z = 0` is the neutral point, which has no
coordinates.
-/

namespace SpendScript

namespace Curve

/-- The prime of the field. -/
def prime : Nat :=
  0xfffffffffffffffffffffffffffffffffffffffffffffffffffffffefffffc2f

/-- The order of the group. -/
def order : Nat :=
  0xfffffffffffffffffffffffffffffffebaaedce6af48a03bbfd25e8cd0364141

instance : @NeZero Nat Zero.ofOfNat0 order :=
  ⟨by decide⟩

/-- A scalar: what points are multiplied by, modulo the order. -/
abbrev Scalar :=
  Fin order

/-- The right-hand side of the curve's equation. -/
def rhs (x : Nat) : Nat :=
  (x * x % prime * x + 7) % prime

/-- Two numbers are the coordinates of a point: they are numbers of the
field, and they satisfy the curve's equation. -/
def OnCurve (x y : Nat) : Prop :=
  x < prime ∧ y < prime ∧ y * y % prime = rhs x

instance (x y : Nat) : Decidable (OnCurve x y) :=
  inferInstanceAs (Decidable (_ ∧ _))

/-- The square root of a number, if it has one. The prime leaves three
when divided by four, so the root is a power. -/
def sqrt? (a : Nat) : Option Nat :=
  let y := powMod prime a ((prime + 1) / 4)
  if y * y % prime = a % prime then some y else none

/-- A point in projective form. -/
structure Point where
  x : Nat
  y : Nat
  z : Nat
  deriving DecidableEq, Repr

namespace Point

/-- The neutral point. -/
def infinity : Point :=
  ⟨1, 1, 0⟩

/-- The point with the given coordinates. -/
def ofCoordinates (x y : Nat) : Point :=
  ⟨x, y, 1⟩

/-- The point that generates the group. -/
def generator : Point :=
  ofCoordinates
    0x79be667ef9dcbbac55a06295ce870b07029bfcdb2dce28d959f2815b16f81798
    0x483ada7726a3c4655da4fbfc0e1108a8fd17b448a68554199c47d08ffb10d4b8

/-- A point added to itself. -/
def double (p : Point) : Point :=
  if p.z = 0 then infinity
  else
    let yy := p.y * p.y % prime
    let s := 4 * p.x * yy % prime
    let m := 3 * p.x * p.x % prime
    let x := subMod prime (m * m % prime) (2 * s % prime)
    let y := subMod prime (m * subMod prime s x % prime) (8 * yy * yy % prime)
    ⟨x, y, 2 * p.y * p.z % prime⟩

/-- The sum of two points. -/
def add (p q : Point) : Point :=
  if p.z = 0 then q
  else if q.z = 0 then p
  else
    let pzz := p.z * p.z % prime
    let qzz := q.z * q.z % prime
    let u := p.x * qzz % prime
    let v := q.x * pzz % prime
    let s := p.y * q.z * qzz % prime
    let t := q.y * p.z * pzz % prime
    -- With the same `x` the points are equal or opposite.
    if u = v then
      if s = t then double p else infinity
    else
      let h := subMod prime v u
      let r := subMod prime t s
      let hh := h * h % prime
      let hhh := hh * h % prime
      let uhh := u * hh % prime
      let x := subMod prime (subMod prime (r * r % prime) hhh) (2 * uhh % prime)
      let y := subMod prime (r * subMod prime uhh x % prime) (s * hhh % prime)
      ⟨x, y, h * p.z * q.z % prime⟩

/-- One step of a multiplication: what is reached is doubled, and the point
is added where the bit is set. -/
def step (p acc : Point) (bit : Bool) : Point :=
  if bit then acc.double.add p else acc.double

/-- A multiple of a point, by a step for each bit of the scalar. -/
def mul (k : Nat) (p : Point) : Point :=
  (bits 256 k).foldl p.step infinity

/-- The coordinates of a point; the neutral one has none. -/
def coordinates? (p : Point) : Option (Nat × Nat) :=
  if p.z = 0 then none
  else
    let w := invMod prime p.z
    let ww := w * w % prime
    some (p.x * ww % prime, p.y * (ww * w % prime) % prime)

end Point

end Curve

end SpendScript
