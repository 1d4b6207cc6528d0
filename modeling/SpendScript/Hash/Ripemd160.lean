import SpendScript.Hash.Block
/-!
# Hashes — RIPEMD-160

Two lines of eighty rounds run on the same block and the same five words,
each in five passes of sixteen. A pass has a mixing function and a
constant, and reads the words of the block in an order of its own, each
with its own rotation. At the end the two lines are added crosswise. Words
have their least significant byte first. The digest has twenty bytes.
-/

namespace SpendScript

namespace Hash

namespace Ripemd160

/-- The five words that the blocks are folded into. -/
structure State where
  a : UInt32
  b : UInt32
  c : UInt32
  d : UInt32
  e : UInt32
  deriving DecidableEq, Repr

/-- The state before the first block. -/
def initial : State :=
  ⟨0x67452301, 0xefcdab89, 0x98badcfe, 0x10325476, 0xc3d2e1f0⟩

/-- Sixteen rounds: how three words are mixed, the constant, which word of
the block each round adds and by how much it rotates. -/
structure Pass where
  mix : UInt32 → UInt32 → UInt32 → UInt32
  constant : UInt32
  order : List Nat
  rotations : List UInt32

/-- Mixes for the middle pass of a line. -/
def mixOrNot (x y z : UInt32) : UInt32 :=
  (x ||| ~~~y) ^^^ z

/-- Mixes where `z` chooses between `x` and `y`. -/
def mixChooseLast (x y z : UInt32) : UInt32 :=
  choose z x y

/-- Mixes for an end of a line. -/
def mixXorOrNot (x y z : UInt32) : UInt32 :=
  x ^^^ (y ||| ~~~z)

/-- The left line. -/
def left : List Pass :=
  [⟨parity, 0x00000000,
      [0, 1, 2, 3, 4, 5, 6, 7, 8, 9, 10, 11, 12, 13, 14, 15],
      [11, 14, 15, 12, 5, 8, 7, 9, 11, 13, 14, 15, 6, 7, 9, 8]⟩,
    ⟨choose, 0x5a827999,
      [7, 4, 13, 1, 10, 6, 15, 3, 12, 0, 9, 5, 2, 14, 11, 8],
      [7, 6, 8, 13, 11, 9, 7, 15, 7, 12, 15, 9, 11, 7, 13, 12]⟩,
    ⟨mixOrNot, 0x6ed9eba1,
      [3, 10, 14, 4, 9, 15, 8, 1, 2, 7, 0, 6, 13, 11, 5, 12],
      [11, 13, 6, 7, 14, 9, 13, 15, 14, 8, 13, 6, 5, 12, 7, 5]⟩,
    ⟨mixChooseLast, 0x8f1bbcdc,
      [1, 9, 11, 10, 0, 8, 12, 4, 13, 3, 7, 15, 14, 5, 6, 2],
      [11, 12, 14, 15, 14, 15, 9, 8, 9, 14, 5, 6, 8, 6, 5, 12]⟩,
    ⟨mixXorOrNot, 0xa953fd4e,
      [4, 0, 5, 9, 7, 12, 2, 10, 14, 1, 3, 8, 11, 6, 15, 13],
      [9, 15, 5, 11, 6, 8, 13, 12, 5, 12, 13, 14, 11, 8, 5, 6]⟩]

/-- The right line. -/
def right : List Pass :=
  [⟨mixXorOrNot, 0x50a28be6,
      [5, 14, 7, 0, 9, 2, 11, 4, 13, 6, 15, 8, 1, 10, 3, 12],
      [8, 9, 9, 11, 13, 15, 15, 5, 7, 7, 8, 11, 14, 14, 12, 6]⟩,
    ⟨mixChooseLast, 0x5c4dd124,
      [6, 11, 3, 7, 0, 13, 5, 10, 14, 15, 8, 12, 4, 9, 1, 2],
      [9, 13, 15, 7, 12, 8, 9, 11, 7, 7, 12, 7, 6, 15, 13, 11]⟩,
    ⟨mixOrNot, 0x6d703ef3,
      [15, 5, 1, 3, 7, 14, 6, 9, 11, 8, 12, 2, 10, 0, 4, 13],
      [9, 7, 15, 11, 8, 6, 6, 14, 12, 13, 5, 14, 13, 13, 7, 5]⟩,
    ⟨choose, 0x7a6d76e9,
      [8, 6, 4, 1, 3, 11, 15, 0, 5, 12, 2, 13, 9, 7, 10, 14],
      [15, 5, 8, 11, 14, 14, 6, 14, 6, 9, 12, 9, 12, 5, 15, 8]⟩,
    ⟨parity, 0x00000000,
      [12, 15, 10, 4, 1, 5, 8, 7, 6, 2, 13, 14, 0, 3, 9, 11],
      [8, 5, 12, 9, 12, 5, 14, 6, 8, 13, 6, 5, 15, 13, 11, 11]⟩]

/-- One round, with the place of its word in the block and its rotation. -/
def round (pass : Pass) (block : List UInt32) (s : State) (step : Nat × UInt32) : State :=
  let sum := s.a + pass.mix s.b s.c s.d + block.getD step.1 0 + pass.constant
  ⟨s.e, rotateLeft sum step.2 + s.e, s.b, rotateLeft s.c 10, s.d⟩

/-- All rounds of a line. -/
def runLine (line : List Pass) (block : List UInt32) (s : State) : State :=
  line.foldl (fun s pass => (pass.order.zip pass.rotations).foldl (round pass block) s) s

/-- Folds one block into the state. -/
def compress (s : State) (block : List UInt32) : State :=
  let l := runLine left block s
  let r := runLine right block s
  ⟨s.b + l.c + r.d, s.c + l.d + r.e, s.d + l.e + r.a, s.e + l.a + r.b, s.a + l.b + r.c⟩

/-- The words of a state. -/
def State.toList (s : State) : List UInt32 :=
  [s.a, s.b, s.c, s.d, s.e]

end Ripemd160

/-- The RIPEMD-160 digest of a message. -/
def ripemd160 (message : Bytes) : Bytes :=
  let order := ByteOrder.leastSignificantFirst
  ((order.blocks message).foldl Ripemd160.compress Ripemd160.initial).toList.flatMap
    order.wordBytes

@[simp] theorem length_ripemd160 (message : Bytes) : (ripemd160 message).length = 20 := by
  simp [ripemd160, Ripemd160.State.toList]

end Hash

end SpendScript
