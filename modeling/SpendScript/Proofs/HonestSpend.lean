import SpendScript.Proofs.KeyHashLock
import SpendScript.Proofs.MultisigLock
/-!
# Honest spends

Whoever holds the keys of a lock can open it. The scripts that a wallet
writes are read back as pushes of what it wrote; each key and signature is
decoded from its word under the strictest rules; and both sides prepare the
message in the same way. All that is left to ask is that a signature be
right under the key of the pair that made it (`KeyPair.SignsRight`), and
then the spend goes through under every set of flags.
-/

namespace SpendScript

namespace Multisig

/-- The unlock text of two signers. -/
theorem unlockText_pair (a b : KeyPair) (message : Bytes) :
    unlockText [a, b] message = a.signatureWord message ++ " " ++ b.signatureWord message := by
  refine String.toList_inj.mp ?_
  simp [unlockText, Text.unwords, String.toList_append]

/-- The unlock text is read as the pushes of the signatures. -/
theorem tokens_parse_unlockText (signers : List KeyPair) (message : Bytes) :
    (Code.parse (unlockText signers message)).tokens =
      (signers.map fun pair => pair.signatureWord message).map Token.push := by
  refine Code.tokens_parse_pushes ?_ ?_
  · simpa using fun pair _ => pair.isWord_signatureWord message
  · simpa using fun pair _ => pair.isOpcode_signatureWord message

/-- The signatures are decoded from what the unlock script leaves, the last
signer's first. -/
theorem map_toSignature_unlock (flags : Flags) (signers : List KeyPair) (message : Bytes) :
    (((signers.map fun pair => pair.signatureWord message).map Value.literal).reverse).map
        (Value.toSignature flags) =
      ((signers.map fun pair =>
        Signature.sign pair.secret (messageDigest message)).reverse).map Except.ok := by
  rw [List.map_reverse, List.map_reverse, List.map_map, List.map_map, List.map_map,
    List.reverse_inj]
  refine List.map_congr_left fun pair _ => ?_
  rw [Function.comp_apply, Function.comp_apply, Function.comp_apply,
    pair.toSignature_signatureWord message]

/-- **Members open a lock on many keys**, if as many sign as it asks for. -/
theorem eval_unlockText {signers keys : List KeyPair} {message : Bytes} (flags : Flags)
    (hsome : signers ≠ []) (hmem : ∀ pair ∈ signers, pair ∈ keys)
    (hcount : signers.length < 2 ^ 63) (hkeyCount : keys.length < 2 ^ 63)
    (hright : ∀ pair ∈ signers, pair.SignsRight message) :
    (Spend.parse (unlockText signers message) (lockText signers.length keys)).eval flags
      (.ofMessage message) = .ok true := by
  rw [Spend.parse, Spend.eval_of_pushes flags _ (tokens_parse_unlockText signers message)
    (by simpa using hsome) (by simpa using fun pair _ => pair.isOpcode_signatureWord message)]
  refine congrArg (Except.mapError _) (Code.evalLock_of_answer (b := true) ?_)
  rw [Code.run, lockText, tokens_parse_lockOf,
    runTokens_lock_eq_ok_iff hcount (by simpa using hkeyCount)]
  refine ⟨_, [], _, (List.append_nil _).symm, by simp,
    map_toSignature_unlock flags signers message, ?_⟩
  have hall : ((signers.map fun pair =>
      Signature.sign pair.secret (messageDigest message)).reverse.all fun d =>
        (keys.map KeyPair.publicKey).any fun key => SignatureChecker.ofMessage message d key) =
          true := by
    rw [List.all_reverse, List.all_map, List.all_eq_true]
    intro pair hpair
    exact List.any_eq_true.mpr ⟨_, List.mem_map_of_mem (hmem pair hpair), hright pair hpair⟩
  rw [hall]

end Multisig

namespace KeyHash

/-- **The owner of a key opens the lock on its hash.** -/
theorem eval_signature_and_key {pair : KeyPair} {message : Bytes} (flags : Flags)
    (hright : pair.SignsRight message) :
    (Spend.parse (pair.signatureWord message ++ " " ++ pair.keyWord)
      (lockText (Hex.encode (Hash.ripemd160 (Hash.sha256 pair.publicKey.compressed))))).eval flags
        (.ofMessage message) = .ok true := by
  rw [Spend.parse, KeyPair.keyWord, Spend.eval_of_pushes flags _
    (pair.tokens_parse_signature_and_key pair.publicKey message) (List.cons_ne_nil _ _)
    (by simp [pair.isOpcode_signatureWord message, pair.publicKey.isOpcode_word])]
  refine congrArg (Except.mapError _) (Code.evalLock_of_answer (b := true) ?_)
  rw [Code.run, tokens_parse_lockText (isWord_hash _) (Hex.isOpcode_encode _),
    runTokens_lockTokens_eq_ok_iff]
  refine ⟨.literal pair.publicKey.word, .literal (pair.signatureWord message), [],
    pair.publicKey.compressed, pair.publicKey, pair.sign message,
    Signature.sign pair.secret (messageDigest message), rfl,
    pair.publicKey.toBytes_word, rfl, pair.publicKey.decode_compressed _,
    pair.toBytes_signatureWord message, pair.decode_sign message _, ?_⟩
  have hyes : SignatureChecker.ofMessage message
      (Signature.sign pair.secret (messageDigest message)) pair.publicKey = true := hright
  rw [hyes]

end KeyHash

/-- **Honest spends go through under every set of flags.** Let each signer
be one of the fixed pairs of a lock, the same one perhaps more than once,
and let there be as many signers as the lock asks for. Then their
signatures, in any order, open it; the numbers of pairs and of signers are
such that a script can name them. And a signature and a key open the lock
on the hash of that key. In both cases it is taken for granted that a
signature is right under the key of the pair that made it. -/
theorem Spend.eval_honest (flags : Flags) (message : Bytes) :
    (∀ (seeds : List UInt8) (signers : List KeyPair), seeds.length < 2 ^ 63 →
      signers.length < 2 ^ 63 → signers ≠ [] →
      (∀ pair ∈ signers, pair ∈ seeds.map KeyPair.ofSeed) →
      (∀ pair ∈ signers, pair.SignsRight message) →
      (Spend.parse (Multisig.unlockText signers message)
        (Multisig.lockText signers.length (seeds.map KeyPair.ofSeed))).eval flags
          (.ofMessage message) = .ok true) ∧
      ∀ seed : UInt8, (KeyPair.ofSeed seed).SignsRight message →
        (Spend.parse
          ((KeyPair.ofSeed seed).signatureWord message ++ " " ++ (KeyPair.ofSeed seed).keyWord)
          (KeyHash.lockText (Hex.encode (Hash.ripemd160 (Hash.sha256
            (KeyPair.ofSeed seed).publicKey.compressed))))).eval flags (.ofMessage message) =
              .ok true := by
  refine ⟨fun seeds signers hkeyCount hcount hsome hmem hright => ?_, fun seed hright => ?_⟩
  · exact Multisig.eval_unlockText flags hsome hmem hcount (by simpa using hkeyCount) hright
  · exact KeyHash.eval_signature_and_key flags hright

/-- The second of two fixed pairs, signing a message twice, opens the lock
that asks for two of their signatures, and the one on the hash of its key,
with all rules in force. -/
theorem Spend.eval_honest_of_one_signer :
    (KeyPair.ofSeed 2).SignsRight Scenario.message ∧
      (Spend.parse (Multisig.unlockText [KeyPair.ofSeed 2, KeyPair.ofSeed 2] Scenario.message)
        (Multisig.lockText [KeyPair.ofSeed 2, KeyPair.ofSeed 2].length
          ([1, 2].map KeyPair.ofSeed))).eval ⟨true, true, true, true⟩
            (.ofMessage Scenario.message) = .ok true ∧
      (Spend.parse
        ((KeyPair.ofSeed 2).signatureWord Scenario.message ++ " " ++ (KeyPair.ofSeed 2).keyWord)
        (KeyHash.lockText (Hex.encode (Hash.ripemd160 (Hash.sha256
          (KeyPair.ofSeed 2).publicKey.compressed))))).eval ⟨true, true, true, true⟩
            (.ofMessage Scenario.message) = .ok true := by
  obtain ⟨-, hright, -, -⟩ := KeyPair.signsRight_message
  have hsigners : ∀ pair ∈ [KeyPair.ofSeed 2, KeyPair.ofSeed 2], pair = KeyPair.ofSeed 2 := by
    simp only [List.mem_cons, List.not_mem_nil, or_false, or_self, imp_self, implies_true]
  obtain ⟨hmany, hone⟩ := Spend.eval_honest ⟨true, true, true, true⟩ Scenario.message
  refine ⟨hright, hmany [1, 2] _ (by decide) (by decide) (List.cons_ne_nil _ _) ?_ ?_,
    hone 2 hright⟩
  · intro pair hpair
    rw [hsigners pair hpair]
    exact List.mem_map_of_mem (List.mem_cons_of_mem _ List.mem_cons_self)
  · intro pair hpair
    rw [hsigners pair hpair]
    exact hright

end SpendScript
