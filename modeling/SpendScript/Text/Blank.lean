/-!
# Text — blanks and words

A script is written as words with blanks between them. A blank is any
character with the property White_Space, so a no-break space and an
ideographic space part two words as well as a plain one does, while a
zero-width space does not. `words` cuts a text into its words: the longest
runs without a blank, in order, none of them empty.
-/

namespace SpendScript

namespace Text

/-- Whether a character parts two words. -/
def isBlank (c : Char) : Bool :=
  let n := c.toNat
  (0x09 ≤ n && n ≤ 0x0D) || n == 0x20 || n == 0x85 || n == 0xA0 || n == 0x1680 ||
    (0x2000 ≤ n && n ≤ 0x200A) || n == 0x2028 || n == 0x2029 || n == 0x202F || n == 0x205F ||
    n == 0x3000

/-- Puts a word in front of others, unless it is empty. -/
def consWord : List Char → List (List Char) → List (List Char)
  | [], ws => ws
  | c :: cs, ws => (c :: cs) :: ws

/-- The part of a text before its first blank, which may be empty, and the
words after it. -/
def firstAndRest : List Char → List Char × List (List Char)
  | [] => ([], [])
  | c :: cs =>
    let cut := firstAndRest cs
    if isBlank c then ([], consWord cut.1 cut.2) else (c :: cut.1, cut.2)

/-- The words of a text, in order. -/
def words (cs : List Char) : List (List Char) :=
  let cut := firstAndRest cs
  consWord cut.1 cut.2

/-- Texts put in a row with one space between neighbours. -/
def unwords (ts : List String) : String :=
  String.ofList (List.intercalate [' '] (ts.map String.toList))

end Text

end SpendScript
