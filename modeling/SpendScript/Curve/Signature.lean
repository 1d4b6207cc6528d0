import SpendScript.Bytes
import SpendScript.Curve.Point
/-!
# The curve — signatures and their encodings

A signature is a pair of scalars `r` and `s`. With `(r, s)` also
`(r, -s)` is one, its twin, and the one with the smaller `s` is called
low.

The DER encoding is a sequence of two integers. Lengths take their
shortest form and cover exactly what follows; integers have no byte more
than they need. So no other byte string reads as the same pair, with one
exception: an integer that is no scalar, because it is negative or too
large, reads as zero, and a signature with a zero in it is never right.
-/

namespace SpendScript

/-- A signature. -/
structure Signature where
  r : Curve.Scalar
  s : Curve.Scalar
  deriving DecidableEq, Repr

namespace Signature

/-- Whether `s` is in the lower half of the scalars. -/
def isLow (sig : Signature) : Bool :=
  sig.s ≤ (Curve.order - 1) / 2

/-- The signature with the opposite `s`. -/
def twin (sig : Signature) : Signature :=
  ⟨sig.r, -sig.s⟩

/-- The low one of a signature and its twin. -/
def normalize (sig : Signature) : Signature :=
  if sig.isLow then sig else sig.twin

/-- The pair that sixty-four bytes hold, thirty-two for each scalar. -/
def ofCompact? (b : Bytes) : Option Signature :=
  let r := Bytes.toNat (b.take 32)
  let s := Bytes.toNat (b.drop 32)
  if h : b.length = 64 ∧ r < Curve.order ∧ s < Curve.order then some ⟨⟨r, h.2.1⟩, ⟨s, h.2.2⟩⟩
  else none

/-! ## Writing -/

/-- Drops the leading zeros that an integer can do without: it needs one
only where the byte after it would look like a sign. -/
def trim : Bytes → Bytes
  | 0 :: b :: rest => if b < 0x80 then trim (b :: rest) else 0 :: b :: rest
  | bs => bs

/-- The contents of the integer for a scalar. -/
def integerContents (n : Nat) : Bytes :=
  trim (Bytes.ofNat 33 n)

/-- A short piece of the encoding: tag, length, contents. -/
def tagged (tag : UInt8) (contents : Bytes) : Bytes :=
  tag :: UInt8.ofNat contents.length :: contents

/-- The DER encoding of a signature. -/
def toDer (sig : Signature) : Bytes :=
  tagged 0x30 (tagged 0x02 (integerContents sig.r) ++ tagged 0x02 (integerContents sig.s))

/-! ## Reading -/

/-- Reads a length: one byte below `80`, or a byte that counts the bytes
of the length, which must then be at least 128, start with no zero, and
reach no further than the input does. -/
def readLength? : Bytes → Option (Nat × Bytes)
  | [] => none
  | b :: rest =>
    if b < 0x80 then some (b.toNat, rest)
    else
      let count := b.toNat - 0x80
      let length := Bytes.toNat (rest.take count)
      let after := rest.drop count
      if count = 0 ∨ b = 0xFF ∨ rest.length < count ∨ rest.head? = some 0 ∨
          after.length < length ∨ length < 128 then none
      else some (length, after)

/-- Whether the contents of an integer are its shortest form: some byte,
and no first byte that only repeats the sign of the second. -/
def isShortest : Bytes → Bool
  | [] => false
  | [_] => true
  | a :: b :: _ => !((a == 0x00 && b < 0x80) || (a == 0xFF && 0x80 ≤ b))

/-- The scalar that the contents of an integer denote, zero standing in
for what is no scalar. -/
def scalarOf (contents : Bytes) : Curve.Scalar :=
  let n := Bytes.toNat contents
  match contents with
  | [] => 0
  | sign :: _ => if h : sign < 0x80 ∧ n < Curve.order then ⟨n, h.2⟩ else 0

/-- Reads an integer and gives its scalar. -/
def readScalar? : Bytes → Option (Curve.Scalar × Bytes)
  | [] => none
  | tag :: rest =>
    if tag = 0x02 then
      match readLength? rest with
      | none => none
      | some (length, after) =>
        let contents := after.take length
        if length ≤ after.length ∧ isShortest contents then
          some (scalarOf contents, after.drop length)
        else none
    else none

/-- The signature that a DER encoding holds. -/
def ofDer? : Bytes → Option Signature
  | [] => none
  | tag :: rest =>
    if tag = 0x30 then
      match readLength? rest with
      | none => none
      | some (length, body) =>
        if length = body.length then
          match readScalar? body with
          | none => none
          | some (r, afterR) =>
            match readScalar? afterR with
            | some (s, []) => some ⟨r, s⟩
            | _ => none
        else none
    else none

end Signature

end SpendScript
