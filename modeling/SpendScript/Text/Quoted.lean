import SpendScript.Text.Combining
import SpendScript.Text.Invisible
/-!
# Text — quoted forms

An error that speaks about a text or a character shows it between
quotation marks, so that blanks, marks and controls in it can be told
apart. Three rules: the mark itself and the backslash get a backslash, the
four controls with a short name are written by it, and any other character
that would not show by itself is written by its code point. All else
stands as it is.
-/

namespace SpendScript

namespace Text

/-- The escape of a character by its code point, in lower-case hexadecimal
without leading zeros. -/
def codePointEscape (c : Char) : List Char :=
  ['\\', 'u', '\x7b'] ++ Nat.toDigits 16 c.toNat ++ ['\x7d']

/-- A character as it stands between two marks. -/
def escape (mark c : Char) : List Char :=
  if c = mark ∨ c = '\\' then ['\\', c]
  else if c = '\x00' then ['\\', '0']
  else if c = '\t' then ['\\', 't']
  else if c = '\r' then ['\\', 'r']
  else if c = '\n' then ['\\', 'n']
  else if isCombining c || isInvisible c then codePointEscape c
  else [c]

/-- A text between two marks. -/
def quoteWith (mark : Char) (cs : List Char) : String :=
  String.ofList (mark :: cs.flatMap (escape mark) ++ [mark])

/-- A text in double quotation marks; single ones stand in it as they are. -/
def quote (text : String) : String :=
  quoteWith '\x22' text.toList

/-- A character in single quotation marks; a double one stands in it as it
is. -/
def quoteChar (c : Char) : String :=
  quoteWith '\x27' [c]

end Text

end SpendScript
