import SpendScript.Hex
import SpendScript.Numeral
/-!
# Stack elements

An element is text, and the operation that consumes it decides whether
the text is a number or bytes. A `Value` also keeps how its text came
about: it was pushed as it stands, or it is the canonical text of a number
or of a byte string. So a produced number is read back without going
through its text, and nothing can tell the difference: equality and every
reading agree with those of the text.
-/

namespace SpendScript

/-- Whether a text has the shape of an operation's name, be there such an
operation or not: the mark `OP_` and something after it. -/
def isOpcode (text : String) : Bool :=
  match text.toList with
  | 'O' :: 'P' :: '_' :: _ :: _ => true
  | _ => false

/-- One element of the stack. -/
inductive Value where
  /-- Text pushed by a script. -/
  | literal (text : String)
  /-- A number that an operation produced. -/
  | num (n : Int64)
  /-- A byte string that an operation produced. -/
  | bytes (b : Bytes)
  deriving DecidableEq, Repr

namespace Value

/-- The element for a truth value. -/
def ofBool (b : Bool) : Value :=
  if b then num 1 else num 0

/-- The text of an element: decimal for a number, lower-case hexadecimal
for bytes. -/
def text : Value → String
  | literal t => t
  | num n => Numeral.render n
  | bytes b => Hex.encode b

/-- The element as a number. -/
def toNum : Value → Except NumeralError Int64
  | num n => .ok n
  | v => Numeral.parse v.text

/-- The element as bytes. -/
def toBytes : Value → Except HexError Bytes
  | bytes b => .ok b
  | v => Hex.decode v.text

/-- Whether the element is true: only the text `1` is. -/
def isTrue (v : Value) : Bool :=
  v.text == "1"

/-- Whether the element is false: only the text `0` is, so an element may
be neither. -/
def isFalse (v : Value) : Bool :=
  v.text == "0"

/-- Whether the element has the shape of an operation's name. Neither
decimal nor hexadecimal text has it. -/
def isOpcode : Value → Bool
  | literal t => SpendScript.isOpcode t
  | num _ => false
  | bytes _ => false

/-- Whether two elements are equal to a script. -/
def equal : Value → Value → Bool
  | num m, num n => m == n
  | bytes a, bytes b => a == b
  | v, w => v.text == w.text

/-- Whether an element is equal to a text. -/
def equalText (v : Value) (t : String) : Bool :=
  v.text == t

end Value

end SpendScript
