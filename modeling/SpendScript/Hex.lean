import SpendScript.Bytes
import SpendScript.Text.Quoted
/-!
# Hexadecimal text

Two digits write one byte. Writing uses lower-case digits; reading takes
both cases, so each byte string has one written form and many that read
as it. A text is refused for its length before any digit is looked at,
and then for the first character that is no digit. Lengths and positions
count the bytes of the text in UTF-8, and so does the character that is
blamed: it is the byte at that position.
-/

namespace SpendScript

/-- Why a text is no hexadecimal. -/
inductive HexError where
  /-- Its length is odd. -/
  | oddLength
  /-- A byte of it is no digit; here are that byte and its position. -/
  | invalidCharacter (byte : UInt8) (position : Nat)
  deriving DecidableEq, Repr

namespace HexError

/-- The text of the error. -/
def message : HexError → String
  | oddLength => "Odd number of digits"
  | invalidCharacter byte position =>
    "Invalid character " ++ Text.quoteChar (Char.ofNat byte.toNat) ++ " at position " ++
      position.repr

end HexError

namespace Hex

/-- The lower-case digit for a value below sixteen. -/
def digit (n : Nat) : Char :=
  if n < 10 then Char.ofNat (48 + n) else Char.ofNat (87 + n)

/-- The value of a byte read as a digit in either case. -/
def digitValue? (b : UInt8) : Option Nat :=
  let n := b.toNat
  if 48 ≤ n ∧ n ≤ 57 then some (n - 48)
  else if 65 ≤ n ∧ n ≤ 70 then some (n - 55)
  else if 97 ≤ n ∧ n ≤ 102 then some (n - 87)
  else none

/-- The digits of a byte string. -/
def digits (b : Bytes) : List Char :=
  b.flatMap fun x => [digit (x.toNat / 16), digit (x.toNat % 16)]

/-- The lower-case hexadecimal text of a byte string. -/
def encode (b : Bytes) : String :=
  String.ofList (digits b)

/-- The bytes of a text in UTF-8. -/
def utf8 (cs : List Char) : Bytes :=
  cs.flatMap String.utf8EncodeChar

/-- Reads digits two by two, the first of them at `position`. -/
def decodeFrom (position : Nat) : Bytes → Except HexError Bytes
  | hi :: lo :: rest =>
    match digitValue? hi with
    | none => .error (.invalidCharacter hi position)
    | some h =>
      match digitValue? lo with
      | none => .error (.invalidCharacter lo (position + 1))
      | some l =>
        match decodeFrom (position + 2) rest with
        | .error e => .error e
        | .ok bytes => .ok (UInt8.ofNat (16 * h + l) :: bytes)
  | [_] => .error .oddLength
  | [] => .ok []

/-- The byte string a hexadecimal text writes. -/
def decode (text : String) : Except HexError Bytes :=
  let raw := utf8 text.toList
  if raw.length % 2 = 1 then .error .oddLength else decodeFrom 0 raw

end Hex

end SpendScript
