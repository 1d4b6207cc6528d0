import SpendScript.Hash.Block
/-!
# Hashes — SHA-1

Eighty rounds on five words, in four passes of twenty that differ in how
they mix three of the words and in the constant they add. The digest has
twenty bytes.
-/

namespace SpendScript

namespace Hash

namespace Sha1

/-- The five words that the blocks are folded into. -/
structure State where
  a : UInt32
  b : UInt32
  c : UInt32
  d : UInt32
  e : UInt32
  deriving DecidableEq, Repr

/-- The state before the first block. -/
def initial : State :=
  ⟨0x67452301, 0xefcdab89, 0x98badcfe, 0x10325476, 0xc3d2e1f0⟩

/-- The next word of the schedule. -/
def nextWord (ws : List UInt32) : UInt32 :=
  rotateLeft (back ws 2 ^^^ back ws 7 ^^^ back ws 13 ^^^ back ws 15) 1

/-- One round with the mixing function, the constant and the word it
adds. -/
def round (mix : UInt32 → UInt32 → UInt32 → UInt32) (constant : UInt32) (s : State)
    (w : UInt32) : State :=
  let t := rotateLeft s.a 5 + mix s.b s.c s.d + s.e + constant + w
  ⟨t, s.a, rotateLeft s.b 30, s.c, s.d⟩

/-- The mixing function and the constant of each pass. -/
def passes : List ((UInt32 → UInt32 → UInt32 → UInt32) × UInt32) :=
  [(choose, 0x5a827999), (parity, 0x6ed9eba1), (majority, 0x8f1bbcdc), (parity, 0xca62c1d6)]

/-- The rounds of the passes, each on the next twenty words. -/
def runPasses :
    List ((UInt32 → UInt32 → UInt32 → UInt32) × UInt32) → List UInt32 → State → State
  | [], _, s => s
  | (mix, constant) :: rest, ws, s =>
    runPasses rest (ws.drop 20) ((ws.take 20).foldl (round mix constant) s)

/-- Folds one block into the state. -/
def compress (s : State) (block : List UInt32) : State :=
  let t := runPasses passes (schedule nextWord 80 block) s
  ⟨s.a + t.a, s.b + t.b, s.c + t.c, s.d + t.d, s.e + t.e⟩

/-- The words of a state. -/
def State.toList (s : State) : List UInt32 :=
  [s.a, s.b, s.c, s.d, s.e]

end Sha1

/-- The SHA-1 digest of a message. -/
def sha1 (message : Bytes) : Bytes :=
  let order := ByteOrder.mostSignificantFirst
  ((order.blocks message).foldl Sha1.compress Sha1.initial).toList.flatMap order.wordBytes

@[simp] theorem length_sha1 (message : Bytes) : (sha1 message).length = 20 := by
  simp [sha1, Sha1.State.toList]

end Hash

end SpendScript
