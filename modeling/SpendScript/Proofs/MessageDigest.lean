import SpendScript.Proofs.Bytes
import SpendScript.Spend
import SpendScript.Wallet
/-!
# What a message is to a signature

A signature is made and checked over a digest of thirty-two bytes, and
nothing else of the message is looked at. The digest of a message is the
number that its first bytes denote, written at that width
(`messageDigest_eq_ofNat`): what a long message has after them is cut off,
and a short one is moved to the right end, where it denotes what it
denoted before. So two messages are one to every script, and to every
signer, as soon as their first bytes denote the same number.
-/

namespace SpendScript

open Bytes

/-- **The digest of a message is the number of its first thirty-two
bytes**, or of all that it has if they are fewer. -/
theorem messageDigest_eq_ofNat (message : Bytes) :
    messageDigest message = ofNat 32 (toNat (message.take 32)) := by
  have hlen : (message.take 32).length ≤ 32 := by
    rw [List.length_take]
    omega
  rw [ofNat_toNat hlen, List.length_take]
  unfold messageDigest
  by_cases hlong : 32 ≤ message.length
  · have hnone : 32 - min 32 message.length = 0 := by omega
    rw [if_pos hlong, hnone, List.replicate_zero, List.nil_append]
  · have hall : message.take 32 = message := List.take_of_length_le (by omega)
    have hfew : min 32 message.length = message.length := by omega
    rw [if_neg hlong, hall, hfew]

/-- And it is read back as that number. -/
theorem toNat_messageDigest (message : Bytes) :
    toNat (messageDigest message) = toNat (message.take 32) := by
  have hfits : toNat (message.take 32) < 256 ^ 32 :=
    calc toNat (message.take 32) < 256 ^ (message.take 32).length := toNat_lt _
      _ ≤ 256 ^ 32 := Nat.pow_le_pow_right (by decide) (by rw [List.length_take]; omega)
  rw [messageDigest_eq_ofNat, toNat_ofNat_of_lt hfits]

/-- **Two messages have one digest** when their first bytes denote one
number. -/
theorem messageDigest_eq_iff {message message' : Bytes} :
    messageDigest message = messageDigest message' ↔
      toNat (message.take 32) = toNat (message'.take 32) := by
  constructor
  · intro h
    rw [← toNat_messageDigest, ← toNat_messageDigest, h]
  · intro h
    rw [messageDigest_eq_ofNat, messageDigest_eq_ofNat, h]

/-- Both sides know a message by its digest: the checker that signatures are
held to it by, and the signer. -/
theorem ofMessage_congr {message message' : Bytes}
    (h : messageDigest message = messageDigest message') :
    SignatureChecker.ofMessage message = SignatureChecker.ofMessage message' := by
  funext sig key
  rw [SignatureChecker.ofMessage, SignatureChecker.ofMessage, h]

theorem KeyPair.sign_congr {message message' : Bytes}
    (h : messageDigest message = messageDigest message') (pair : KeyPair) :
    pair.sign message = pair.sign message' := by
  rw [KeyPair.sign, KeyPair.sign, h]

/-- **A message acts by its leading number alone.** The digest of a message
has thirty-two bytes and denotes the number that the first thirty-two
bytes of the message denote, or all of them if they are fewer; it is the
number of the message with the bytes after these shifted out. Two
messages have the same digest exactly when these numbers are the same, and
then no script and no flags tell them apart: every spend has the same
verdict or error with both, and goes through with both or with neither,
and every key signs both alike. -/
theorem message_acts_by_leading_number (message message' : Bytes) :
    (messageDigest message).length = 32 ∧
      toNat (messageDigest message) = toNat (message.take 32) ∧
      toNat (message.take 32) = toNat message / 256 ^ (message.length - 32) ∧
      (messageDigest message = messageDigest message' ↔
        toNat (message.take 32) = toNat (message'.take 32)) ∧
      (toNat (message.take 32) = toNat (message'.take 32) →
        (∀ (spend : Spend) (flags : Flags),
          spend.eval flags (.ofMessage message) = spend.eval flags (.ofMessage message')) ∧
        (∀ spend : Spend, spend.verify message = spend.verify message') ∧
        ∀ pair : KeyPair, pair.sign message = pair.sign message') := by
  refine ⟨length_messageDigest message, toNat_messageDigest message, toNat_take message 32,
    messageDigest_eq_iff, fun hnumber => ?_⟩
  have hdigest : messageDigest message = messageDigest message' := messageDigest_eq_iff.mpr hnumber
  refine ⟨fun spend flags => ?_, fun spend => ?_, KeyPair.sign_congr hdigest⟩
  · rw [ofMessage_congr hdigest]
  · rw [Spend.verify, Spend.verify, ofMessage_congr hdigest]

/-- A message of thirty-three bytes, zeros but for the last two, and one of
a single byte. The last byte of the long one is not looked at, and both
denote five. -/
theorem message_acts_by_leading_number_of_five :
    let long : Bytes := List.replicate 31 0 ++ [5, 9]
    toNat (long.take 32) = toNat (List.take 32 [5]) ∧
      (∀ (spend : Spend) (flags : Flags),
        spend.eval flags (.ofMessage long) = spend.eval flags (.ofMessage [5])) ∧
      (∀ spend : Spend, spend.verify long = spend.verify [5]) ∧
      ∀ pair : KeyPair, pair.sign long = pair.sign [5] := by
  intro long
  have hnumber : toNat (long.take 32) = toNat (List.take 32 [5]) := by decide
  obtain ⟨-, -, -, -, hsame⟩ := message_acts_by_leading_number long [5]
  exact ⟨hnumber, hsame hnumber⟩

end SpendScript
