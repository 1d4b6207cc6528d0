import SpendScript.Bytes
import SpendScript.Curve.Point
/-!
# The curve — public keys

A public key is a point of the curve other than the neutral one: there is
none with coordinates that are not on the curve. It has three encodings:
compressed, where a byte tells the parity of `y` and `x` follows;
uncompressed, with both coordinates behind the byte `04`; and hybrid,
which is uncompressed but for a first byte that tells the parity of `y`
once more. Reading takes all three, and whichever it is, the coordinates
are checked last (`ofXY?`). Writing uses the first two, which are the
plain ones.
-/

namespace SpendScript

/-- A public key, by the coordinates of its point. -/
structure PublicKey where
  x : Nat
  y : Nat
  onCurve : Curve.OnCurve x y
  deriving DecidableEq, Repr

namespace PublicKey

/-- The point of a key. -/
def toPoint (k : PublicKey) : Curve.Point :=
  Curve.Point.ofCoordinates k.x k.y

/-- The compressed encoding: 33 bytes. -/
def compressed (k : PublicKey) : Bytes :=
  (if k.y % 2 = 0 then 0x02 else 0x03) :: Bytes.ofNat 32 k.x

/-- The uncompressed encoding: 65 bytes. -/
def uncompressed (k : PublicKey) : Bytes :=
  0x04 :: (Bytes.ofNat 32 k.x ++ Bytes.ofNat 32 k.y)

/-- Whether a byte string has the first byte and the length of a
compressed or an uncompressed encoding. -/
def isPlain : Bytes → Bool
  | [] => false
  | tag :: rest =>
    if tag = 0x04 then rest.length == 64
    else if tag = 0x02 ∨ tag = 0x03 then rest.length == 32
    else false

/-- The key with the given coordinates, if there is one. -/
def ofXY? (x y : Nat) : Option PublicKey :=
  if h : Curve.OnCurve x y then some ⟨x, y, h⟩ else none

/-- The key whose `x` is given, with a `y` that is odd or not. -/
def ofX? (odd : Bool) (x : Nat) : Option PublicKey :=
  match Curve.sqrt? (Curve.rhs x) with
  | none => none
  | some y => ofXY? x (if (y % 2 == 1) == odd then y else (Curve.prime - y) % Curve.prime)

/-- The key at a point. There is none at the neutral point. -/
def ofPoint? (p : Curve.Point) : Option PublicKey :=
  match p.coordinates? with
  | none => none
  | some (x, y) => ofXY? x y

/-- The key that a byte string encodes. -/
def parse? : Bytes → Option PublicKey
  | [] => none
  | tag :: rest =>
    if rest.length = 32 then
      if tag = 0x02 then ofX? false (Bytes.toNat rest)
      else if tag = 0x03 then ofX? true (Bytes.toNat rest)
      else none
    else if rest.length = 64 then
      let x := Bytes.toNat (rest.take 32)
      let y := Bytes.toNat (rest.drop 32)
      if tag = 0x04 ∨ (tag = 0x06 ∧ y % 2 = 0) ∨ (tag = 0x07 ∧ y % 2 = 1) then ofXY? x y
      else none
    else none

end PublicKey

end SpendScript
