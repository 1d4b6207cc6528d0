import SpendScript.Bytes
/-!
# Hashes — blocks of words

The three hash functions share a frame. A message is padded to whole
blocks of sixty-four bytes: one bit, then zeros, then the message's length
in bits as eight bytes. Each block is read as sixteen words, and a
compression function folds the blocks into a state, whose words are the
digest. They differ in the compression and in the order of the bytes of a
word.
-/

namespace SpendScript

namespace Hash

/-- Which byte of a word comes first. -/
inductive ByteOrder where
  | mostSignificantFirst
  | leastSignificantFirst
  deriving DecidableEq, Repr

namespace ByteOrder

/-- Turns a byte string written with the most significant byte first into
this order, and back. -/
def arrange : ByteOrder → Bytes → Bytes
  | mostSignificantFirst, b => b
  | leastSignificantFirst, b => b.reverse

@[simp] theorem length_arrange (order : ByteOrder) (b : Bytes) :
    (order.arrange b).length = b.length := by
  cases order <;> simp [arrange]

/-- The four bytes of a word. -/
def wordBytes (order : ByteOrder) (w : UInt32) : Bytes :=
  order.arrange (Bytes.ofNat 4 w.toNat)

@[simp] theorem length_wordBytes (order : ByteOrder) (w : UInt32) :
    (order.wordBytes w).length = 4 := by
  simp [wordBytes]

/-- The words of a byte string, four bytes each. -/
def words (order : ByteOrder) : Bytes → List UInt32
  | a :: b :: c :: d :: rest =>
    UInt32.ofNat (Bytes.toNat (order.arrange [a, b, c, d])) :: order.words rest
  | _ => []

/-- A message and its padding: as many bytes as make whole blocks. -/
def pad (order : ByteOrder) (message : Bytes) : Bytes :=
  -- The zeros fill a block up to its last eight bytes, or the next block if those are taken.
  message ++ [0x80] ++ List.replicate ((119 - message.length % 64) % 64) 0 ++
    order.arrange (Bytes.ofNat 8 (8 * message.length))

/-- The first blocks of a byte string, as words. -/
def firstBlocks (order : ByteOrder) : (count : Nat) → Bytes → List (List UInt32)
  | 0, _ => []
  | count + 1, b => order.words (b.take 64) :: order.firstBlocks count (b.drop 64)

/-- The blocks of a padded message. -/
def blocks (order : ByteOrder) (message : Bytes) : List (List UInt32) :=
  let padded := order.pad message
  order.firstBlocks (padded.length / 64) padded

end ByteOrder

/-- A word with its bits moved up by `k` places, those that leave coming
back in below. -/
def rotateLeft (w : UInt32) (k : UInt32) : UInt32 :=
  (w <<< k) ||| (w >>> (32 - k))

/-- Moves bits down instead. -/
def rotateRight (w : UInt32) (k : UInt32) : UInt32 :=
  (w >>> k) ||| (w <<< (32 - k))

/-- Each bit of `x` chooses between the bits of `y` and `z`. -/
def choose (x y z : UInt32) : UInt32 :=
  (x &&& y) ||| (~~~x &&& z)

/-- Each bit is the one that most of the three have. -/
def majority (x y z : UInt32) : UInt32 :=
  (x &&& y) ||| (x &&& z) ||| (y &&& z)

/-- Each bit says whether an odd number of the three is set. -/
def parity (x y z : UInt32) : UInt32 :=
  x ^^^ y ^^^ z

/-- Grows a schedule by `count` words. The words so far are given with the
newest first, and `next` reads the new one off them. -/
def extend (next : List UInt32 → UInt32) : (count : Nat) → List UInt32 → List UInt32
  | 0, ws => ws
  | count + 1, ws => extend next count (next ws :: ws)

/-- The word `k` places before the newest. -/
def back (ws : List UInt32) (k : Nat) : UInt32 :=
  ws.getD k 0

/-- The words of a block and those that follow from them, oldest first. -/
def schedule (next : List UInt32 → UInt32) (total : Nat) (block : List UInt32) : List UInt32 :=
  (extend next (total - 16) block.reverse).reverse

end Hash

end SpendScript
