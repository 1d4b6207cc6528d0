import SpendScript.Proofs.Curve.Der
import SpendScript.Proofs.Curve.Encoding
import SpendScript.Proofs.Success
import SpendScript.Proofs.Words
import SpendScript.Scenario
/-!
# What wallets write

A wallet puts keys and signatures into scripts as hexadecimal words. Such a
word is read as a push of itself, and what it writes is decoded from it
under any rules: the key is in a plain encoding, and the signature is low,
since the search for a nonce ends in a normalized one. So of what a wallet
does only one thing is not settled by its form, which is that a signature
is right under the key of the pair that made it (`KeyPair.SignsRight`).
-/

namespace SpendScript

/-! ## What is signed is low -/

namespace Signature

/-- An answer that the search for a nonce comes back with was given for
some candidate. -/
theorem NonceSource.exists_of_findSome? {α : Type} {f : ℕ → Option α} {count : ℕ}
    {source : NonceSource} {a : α} (h : source.findSome? f count = some a) :
    ∃ k, f k = some a := by
  induction count generalizing source with
  | zero => cases h
  | succ count ih =>
    rw [findSome?] at h
    split at h
    · rename_i found hfound
      cases h
      exact ⟨_, hfound⟩
    · exact ih h

/-- What a nonce gives is normalized. -/
theorem isLow_of_ofNonce? {secret : Curve.Scalar} {z k : ℕ} {sig : Signature}
    (h : ofNonce? secret z k = some sig) : sig.isLow = true := by
  unfold ofNonce? at h
  split at h
  · cases h
  · split at h
    · cases h
    · dsimp only at h
      split at h
      · cases h
      · cases h
        exact isLow_normalize _

/-- **What is signed is low.** The pair of zeros, which stands for a search
without an end, is low as well. -/
theorem isLow_sign (secret : Curve.Scalar) (digest : Bytes) :
    (sign secret digest).isLow = true := by
  have hsign : sign secret digest = ((NonceSource.start secret digest).findSome?
      (ofNonce? secret (Bytes.toNat digest)) attempts).getD ⟨0, 0⟩ := rfl
  rw [hsign]
  generalize hfound : (NonceSource.start secret digest).findSome?
    (ofNonce? secret (Bytes.toNat digest)) attempts = found
  cases found with
  | none => decide
  | some sig =>
    obtain ⟨k, hk⟩ := NonceSource.exists_of_findSome? hfound
    exact isLow_of_ofNonce? hk

end Signature

variable {flags : Flags} {checker : SignatureChecker}

/-! ## The words of keys and signatures -/

namespace PublicKey

/-- The word of a key is a word, and no name of an operation. -/
theorem isWord_word (key : PublicKey) : Text.IsWord key.word :=
  Hex.isWord_encode (List.cons_ne_nil _ _)

theorem isOpcode_word (key : PublicKey) : isOpcode key.word = false :=
  Hex.isOpcode_encode key.compressed

/-- What it writes are the bytes that were encoded, -/
theorem toBytes_word (key : PublicKey) : (Value.literal key.word).toBytes = .ok key.compressed :=
  Hex.decode_encode key.compressed

/-- **so the key is decoded from its word**, under any rules. -/
theorem toKey_word (key : PublicKey) : (Value.literal key.word).toKey flags = .ok key :=
  Value.toCredential_eq_ok_iff.mpr ⟨_, key.toBytes_word, key.decode_compressed _⟩

end PublicKey

namespace KeyPair

/-- The word of a signature is a word, and no name of an operation. -/
theorem isWord_signatureWord (pair : KeyPair) (message : Bytes) :
    Text.IsWord (pair.signatureWord message) :=
  Hex.isWord_encode (List.cons_ne_nil _ _)

theorem isOpcode_signatureWord (pair : KeyPair) (message : Bytes) :
    isOpcode (pair.signatureWord message) = false :=
  Hex.isOpcode_encode (pair.sign message)

/-- A signature is read as the push of its word, -/
theorem tokens_parse_signatureWord (signer : KeyPair) (message : Bytes) :
    (Code.parse (signer.signatureWord message)).tokens =
      [signer.signatureWord message].map Token.push := by
  rw [Code.tokens_parse_of_isWord (signer.isWord_signatureWord message),
    Token.parse_of_isOpcode_eq_false (signer.isOpcode_signatureWord message)]
  rfl

/-- and so are a signature and a key in a row. -/
theorem tokens_parse_signature_and_key (signer : KeyPair) (key : PublicKey) (message : Bytes) :
    (Code.parse (signer.signatureWord message ++ " " ++ key.word)).tokens =
      [signer.signatureWord message, key.word].map Token.push := by
  rw [Code.tokens_parse_append, tokens_parse_signatureWord,
    Code.tokens_parse_of_isWord key.isWord_word,
    Token.parse_of_isOpcode_eq_false key.isOpcode_word]
  rfl

/-- What its word writes are the bytes of a signature. -/
theorem toBytes_signatureWord (pair : KeyPair) (message : Bytes) :
    (Value.literal (pair.signatureWord message)).toBytes = .ok (pair.sign message) :=
  Hex.decode_encode (pair.sign message)

/-- They are decoded as that signature, whether or not a low one is asked
for, -/
theorem decode_sign (pair : KeyPair) (message : Bytes) (low : Bool) :
    Signature.decode low (pair.sign message) =
      .ok (Signature.sign pair.secret (messageDigest message)) :=
  Signature.decode_toDer (Signature.isLow_sign _ _) low

/-- **so the signature is decoded from its word**, under any rules. -/
theorem toSignature_signatureWord (pair : KeyPair) (message : Bytes) :
    (Value.literal (pair.signatureWord message)).toSignature flags =
      .ok (Signature.sign pair.secret (messageDigest message)) :=
  Value.toCredential_eq_ok_iff.mpr
    ⟨_, pair.toBytes_signatureWord message, pair.decode_sign message _⟩

/-- **One signature against one key**: the checker is asked. -/
theorem checkOne_words (signer : KeyPair) (key : PublicKey) (message : Bytes) :
    Operation.checkOne flags checker (.literal (signer.signatureWord message))
        (.literal key.word) =
      .ok (checker (Signature.sign signer.secret (messageDigest message)) key) := by
  rw [Operation.checkOne, key.toKey_word, toSignature_signatureWord]

/-! ## Signatures that are right -/

/-- The signature that the pair makes over a message is right under its
key. -/
def SignsRight (pair : KeyPair) (message : Bytes) : Prop :=
  (Signature.sign pair.secret (messageDigest message)).verify pair.publicKey
    (messageDigest message) = true

instance (pair : KeyPair) (message : Bytes) : Decidable (pair.SignsRight message) :=
  inferInstanceAs (Decidable (_ = true))

/-- Three of the fixed pairs sign the message of the scenarios, all of them
rightly, and the signature of the first is not right under the key of the
second. The kernel makes the signatures, once for all that is said about
them. -/
theorem signsRight_message :
    (ofSeed 1).SignsRight Scenario.message ∧ (ofSeed 2).SignsRight Scenario.message ∧
      (ofSeed 3).SignsRight Scenario.message ∧
      (Signature.sign (ofSeed 1).secret (messageDigest Scenario.message)).verify
        (ofSeed 2).publicKey (messageDigest Scenario.message) = false := by
  decide +kernel

end KeyPair

end SpendScript
