import SpendScript.Text.Quoted
/-!
# Numerals

A number on the stack is text. A numeral is a sign, if any, and digits,
which are decimal unless a marker `0x`, `0o` or `0b` stands before them; a
leading zero alone changes nothing. Numbers are 64-bit and signed, and
they are always written in decimal, so reading is many-to-one and writing
picks the canonical form.

A text that is no numeral is told apart from a numeral whose number does
not fit, and the digits are checked first. They are then taken together in
a word without a sign, and what comes of it is narrowed to a signed one.
-/

namespace SpendScript

/-- The base the digits of a numeral stand for. -/
inductive Radix where
  | binary
  | octal
  | decimal
  | hexadecimal
  deriving DecidableEq, Repr

namespace Radix

/-- The number of digits of a base. -/
def base : Radix → Nat
  | binary => 2
  | octal => 8
  | decimal => 10
  | hexadecimal => 16

end Radix

/-- Why a text gives no number. -/
inductive NumeralError where
  /-- There is no text. -/
  | empty
  /-- A digit is missing, or a character is no digit of the base. -/
  | invalidDigit (text : String) (radix : Radix)
  /-- The number is outside the 64-bit signed range. -/
  | overflow (text : String)
  deriving DecidableEq, Repr

namespace NumeralError

/-- The text of the error. -/
def message : NumeralError → String
  | empty => "empty string is not a number"
  | invalidDigit text radix =>
    "invalid digit in " ++ Text.quote text ++ " for base " ++ radix.base.repr
  | overflow text => Text.quote text ++ " doesn’t fit in a 64-bit signed integer"

end NumeralError

namespace Numeral

/-- The value of an ASCII character as a digit, letters in either case
counting on from ten. -/
def charValue? (c : Char) : Option Nat :=
  if '0' ≤ c ∧ c ≤ '9' then some (c.toNat - 48)
  else if 'a' ≤ c ∧ c ≤ 'z' then some (c.toNat - 87)
  else if 'A' ≤ c ∧ c ≤ 'Z' then some (c.toNat - 55)
  else none

/-- The value of a character that is a digit of the base. -/
def digit? (radix : Radix) (c : Char) : Option Nat :=
  match charValue? c with
  | some d => if d < radix.base then some d else none
  | none => none

/-- Takes a sign off the front: whether the numeral is negative, and the
rest of it. -/
def splitSign : List Char → Bool × List Char
  | '-' :: rest => (true, rest)
  | '+' :: rest => (false, rest)
  | cs => (false, cs)

/-- Takes a marker of the base off the front. -/
def splitRadix : List Char → Radix × List Char
  | '0' :: 'x' :: rest => (.hexadecimal, rest)
  | '0' :: 'X' :: rest => (.hexadecimal, rest)
  | '0' :: 'o' :: rest => (.octal, rest)
  | '0' :: 'O' :: rest => (.octal, rest)
  | '0' :: 'b' :: rest => (.binary, rest)
  | '0' :: 'B' :: rest => (.binary, rest)
  | cs => (.decimal, cs)

/-- The digits' values, if every character is a digit of the base. -/
def digitValues? (radix : Radix) (cs : List Char) : Option (List Nat) :=
  cs.mapM (digit? radix)

/-- Puts one more digit behind the ones so far. The product with the base
and then the sum are taken in a 64-bit word without a sign, and either may
not fit. -/
def appendDigit? (radix : Radix) (acc : UInt64) (d : Nat) : Option UInt64 :=
  if acc.toNat * radix.base < UInt64.size then
    let shifted := acc * UInt64.ofNat radix.base
    if shifted.toNat + d < UInt64.size then some (shifted + UInt64.ofNat d) else none
  else none

/-- Takes digits together, the first weighing most, as long as they fit in
the word. -/
def accumulate? (radix : Radix) (ds : List Nat) : Option UInt64 :=
  ds.foldlM (appendDigit? radix) 0

/-- A number fits in 64 bits with a sign. -/
def InRange (v : Int) : Prop :=
  -9223372036854775808 ≤ v ∧ v ≤ 9223372036854775807

instance (v : Int) : Decidable (InRange v) :=
  inferInstanceAs (Decidable (_ ∧ _))

/-- The number, if it fits. -/
def fit? (v : Int) : Option Int64 :=
  if InRange v then some (Int64.ofInt v) else none

/-- The number a text denotes. -/
def parse (text : String) : Except NumeralError Int64 :=
  if text.toList = [] then .error .empty
  else
    let signed := splitSign text.toList
    let marked := splitRadix signed.2
    -- All digits are looked at before the size of the number is.
    match digitValues? marked.1 marked.2 with
    | none => .error (.invalidDigit text marked.1)
    | some [] => .error (.invalidDigit text marked.1)
    | some ds =>
      match accumulate? marked.1 ds with
      | none => .error (.overflow text)
      | some m =>
        -- The sign comes last, so that the lowest number is in reach.
        match fit? (if signed.1 then -(m.toNat : Int) else m.toNat) with
        | none => .error (.overflow text)
        | some n => .ok n

/-- The decimal digits of a number, behind a minus sign if it is
negative. -/
def decimal (v : Int) : List Char :=
  if v < 0 then '-' :: Nat.toDigits 10 v.natAbs else Nat.toDigits 10 v.natAbs

/-- The canonical text of a number. -/
def render (n : Int64) : String :=
  String.ofList (decimal n.toInt)

end Numeral

end SpendScript
