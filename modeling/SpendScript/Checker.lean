import SpendScript.Curve.Ecdsa
/-!
# Signature checkers

What a signature has to be over is not for the script to say. A checker
knows, and answers yes or no for a decoded signature and key. One checker
turns down everything; the other holds signatures to a message.

A message becomes a digest of thirty-two bytes: the first thirty-two of
it, or all of it behind as many zeros as are missing.
-/

namespace SpendScript

/-- The digest that signatures over a message are made and checked with. -/
def messageDigest (message : Bytes) : Bytes :=
  if 32 ≤ message.length then message.take 32
  else List.replicate (32 - message.length) 0 ++ message

@[simp] theorem length_messageDigest (message : Bytes) : (messageDigest message).length = 32 := by
  unfold messageDigest
  split
  · simp; omega
  · simp; omega

/-- Says whether a signature is right under a key. -/
abbrev SignatureChecker := Signature → PublicKey → Bool

namespace SignatureChecker

/-- The checker that turns down every signature. -/
def rejectAll : SignatureChecker :=
  fun _ _ => false

/-- The checker of signatures over a message. -/
def ofMessage (message : Bytes) : SignatureChecker :=
  fun sig key => sig.verify key (messageDigest message)

end SignatureChecker

end SpendScript
