import SpendScript.Hash.Sha256
/-!
# Hashes — keyed with SHA-256

A message is hashed behind the key masked one way, and the digest behind
the key masked another way. A key of less than a block is filled up with
zeros, and a longer one is hashed first.
-/

namespace SpendScript

namespace Hash

/-- A key as one block. -/
def keyBlock (key : Bytes) : Bytes :=
  let short := if 64 < key.length then sha256 key else key
  short ++ List.replicate (64 - short.length) 0

/-- The digest of a message under a key. -/
def hmac (key message : Bytes) : Bytes :=
  let block := keyBlock key
  let inner := sha256 (block.map (· ^^^ 0x36) ++ message)
  sha256 (block.map (· ^^^ 0x5c) ++ inner)

@[simp] theorem length_hmac (key message : Bytes) : (hmac key message).length = 32 := by
  simp [hmac]

end Hash

end SpendScript
