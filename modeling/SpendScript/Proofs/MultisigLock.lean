import SpendScript.Proofs.ManySignatures
import SpendScript.Proofs.Verdict
import SpendScript.Proofs.Wallet
/-!
# Locks on many keys

A lock on many keys is a text: a count, the words of the keys, their
number, and the operation. Read back it pushes what was written, and the
operation takes just that off again, so it is the unlock script alone that
decides what the signatures are. Whatever that script is, the spend goes
through for one reason only: it leaves as many elements as the lock asks
for, and each of them is a signature that is right under one of the keys.
-/

namespace SpendScript

/-! ## Words of a lock -/

/-- A count pushes itself. -/
theorem Numeral.parseToken_repr (n : ℕ) : Token.parse n.repr = .push n.repr := by
  refine Token.parse_of_isOpcode_eq_false (isOpcode_eq_false_of_not_mem fun hmem => ?_)
  exact absurd (isDigit_of_mem_repr hmem) (by decide)

namespace Multisig

/-- The texts that a lock pushes. -/
def lockTexts (required : ℕ) (keys : List PublicKey) : List String :=
  required.repr :: keys.map PublicKey.word ++ [keys.length.repr]

/-- **The lock's text is read as the pushes of its words and the
operation.** -/
theorem tokens_parse_lockOf (required : ℕ) (keys : List PublicKey) :
    (Code.parse (lockOf required keys)).tokens =
      (lockTexts required keys).map Token.push ++ [.operation .checkMultisig] := by
  have hend : " OP_CHECKMULTISIG" = " " ++ "OP_CHECKMULTISIG" := by decide
  have hparts : lockOf required keys =
      required.repr ++ " " ++ Text.unwords (keys.map PublicKey.word) ++ " " ++ keys.length.repr ++
        " " ++ "OP_CHECKMULTISIG" :=
    (congrArg (_ ++ ·) hend).trans String.append_assoc.symm
  have hop : (Code.parse "OP_CHECKMULTISIG").tokens = [.operation .checkMultisig] := by decide
  have hkeys : (Code.parse (Text.unwords (keys.map PublicKey.word))).tokens =
      (keys.map PublicKey.word).map Token.push := by
    refine Code.tokens_parse_pushes ?_ ?_
    · simpa using fun key _ => key.isWord_word
    · simpa using fun key _ => key.isOpcode_word
  rw [hparts, Code.tokens_parse_append, Code.tokens_parse_append, Code.tokens_parse_append, hop,
    hkeys, Code.tokens_parse_of_isWord (Numeral.isWord_repr required),
    Code.tokens_parse_of_isWord (Numeral.isWord_repr keys.length), Numeral.parseToken_repr,
    Numeral.parseToken_repr]
  simp [lockTexts]

/-! ## The operation on what the lock pushed -/

variable {flags : Flags} {checker : SignatureChecker}

/-- A pushed count is read as the number it writes. -/
theorem toInt_toNum_repr {n : ℕ} (h : n < 2 ^ 63) :
    ∃ k, (Value.literal n.repr).toNum = .ok k ∧ k.toInt = (n : ℤ) :=
  ⟨Int64.ofNat n, Numeral.parse_repr (by simpa using h), Int64.toInt_ofNat_of_lt h⟩

/-- The keys of a lock are decoded from its words. -/
theorem map_toKey_word (keys : List PublicKey) :
    (keys.map fun key => Value.literal key.word).map (Value.toKey flags) = keys.map Except.ok := by
  rw [List.map_map]
  refine List.map_congr_left fun key _ => ?_
  rw [Function.comp_apply, key.toKey_word]

/-- **The operation takes off the keys that the lock pushed**, and all of
them. -/
theorem popCounted_lockTexts {required : ℕ} {keys : List PublicKey} (hcount : keys.length < 2 ^ 63)
    (s : Stack) :
    Operation.popCounted .negativeKeyCount (Value.toKey flags)
        (((lockTexts required keys).map Value.literal).reverse ++ s) =
      ⟨.ok keys.reverse, .literal required.repr :: s⟩ := by
  obtain ⟨k, hk, hlen⟩ := toInt_toNum_repr hcount
  refine Operation.popCounted_eq_ok_iff.mpr ⟨.literal keys.length.repr, k,
    (keys.map fun key => Value.literal key.word).reverse, ?_, hk, ?_, ?_⟩
  · simp [lockTexts]
  · simpa using hlen
  · rw [List.map_reverse, List.map_reverse, map_toKey_word]

/-- **The signatures are the top of what lies below**, as many as the lock
asks for. -/
theorem popCounted_required_eq_ok_iff {required : ℕ} (h : required < 2 ^ 63) {s r : Stack}
    {sigs : List Signature} :
    Operation.popCounted .negativeSignatureCount (Value.toSignature flags)
        (.literal required.repr :: s) = ⟨.ok sigs, r⟩ ↔
      ∃ vs, s = vs ++ r ∧ vs.length = required ∧
        vs.map (Value.toSignature flags) = sigs.map Except.ok := by
  obtain ⟨k, hk, hreq⟩ := toInt_toNum_repr h
  rw [Operation.popCounted_eq_ok_iff]
  constructor
  · rintro ⟨c, n, vs, heq, hn, hlen, hmap⟩
    obtain ⟨rfl, rfl⟩ := List.cons.inj heq
    rw [hk] at hn
    cases hn
    exact ⟨vs, rfl, by omega, hmap⟩
  · rintro ⟨vs, rfl, hlen, hmap⟩
    exact ⟨_, k, vs, rfl, hk, by omega, hmap⟩

/-- **The lock succeeds** when below it lie the signatures that it asks
for. It puts the answer in their place. -/
theorem runTokens_lock_eq_ok_iff {required : ℕ} {keys : List PublicKey}
    (hrequired : required < 2 ^ 63) (hcount : keys.length < 2 ^ 63) {s r : Stack} :
    Code.runTokens flags checker
        ((lockTexts required keys).map Token.push ++ [.operation .checkMultisig]) s = ⟨.ok (), r⟩ ↔
      ∃ (vs rest : Stack) (sigs : List Signature), s = vs ++ rest ∧ vs.length = required ∧
        vs.map (Value.toSignature flags) = sigs.map Except.ok ∧
        r = Value.ofBool (sigs.all fun d => keys.any fun key => checker d key) :: rest := by
  rw [Code.runTokens_append, Code.runTokens_pushes, Outcome.andThen_ok,
    Code.runTokens_cons_eq_ok_iff]
  -- The keys come off in the other order, which a test of any of them does not see.
  simp only [Token.eval, Operation.eval, Outcome.pushBool_eq_ok_iff, Operation.checkMany,
    popCounted_lockTexts hcount, Outcome.andThen_ok, Outcome.andThen_eq_ok_iff,
    popCounted_required_eq_ok_iff hrequired, List.any_reverse]
  constructor
  · rintro ⟨s', ⟨b, left, ⟨sigs, rest, ⟨vs, rfl, hlen, hmap⟩, hb⟩, rfl⟩, hend⟩
    cases hb
    cases hend
    exact ⟨vs, left, sigs, rfl, hlen, hmap, rfl⟩
  · rintro ⟨vs, rest, sigs, rfl, hlen, hmap, rfl⟩
    exact ⟨_, ⟨_, rest, ⟨sigs, rest, ⟨vs, rfl, hlen, hmap⟩, rfl⟩, rfl⟩, rfl⟩

/-- **It fails for want of signatures** when fewer elements lie below it
than it asks for, after it has taken off the keys and the two counts. -/
theorem runTokens_lock_of_short {required : ℕ} {keys : List PublicKey}
    (hrequired : required < 2 ^ 63) (hcount : keys.length < 2 ^ 63) {s : Stack}
    (hshort : s.length < required) :
    Code.runTokens flags checker
        ((lockTexts required keys).map Token.push ++ [.operation .checkMultisig]) s =
      ⟨.error (.interpreter (some (.operation .checkMultisig))
        (.stackUnderflow required s.length)), s⟩ := by
  obtain ⟨k, hk, hreq⟩ := toInt_toNum_repr hrequired
  rw [Code.runTokens_append, Code.runTokens_pushes, Outcome.andThen_ok]
  refine Code.runTokens_cons_of_error ?_ _
  rw [Token.eval, Operation.eval, Operation.checkMany, popCounted_lockTexts hcount,
    Outcome.andThen_ok, Operation.popCounted_of_count hk hreq, if_neg (Nat.not_le.mpr hshort)]
  rfl

/-- **It leaves a yes and nothing else** exactly when below it lie as many
elements as it asks for and no more, each a signature that is right under
one of the keys. -/
theorem exists_runTokens_lock_iff {required : ℕ} {keys : List PublicKey}
    (hrequired : required < 2 ^ 63) (hcount : keys.length < 2 ^ 63) {s : Stack} :
    (∃ v, Code.runTokens flags checker
        ((lockTexts required keys).map Token.push ++ [.operation .checkMultisig]) s =
          ⟨.ok (), [v]⟩ ∧ v.text ≠ "0") ↔
      s.length = required ∧ ∀ v ∈ s, ∃ d, v.toSignature flags = .ok d ∧
        ∃ key ∈ keys, checker d key = true := by
  simp only [runTokens_lock_eq_ok_iff hrequired hcount]
  have heach : (∀ v ∈ s, ∃ d, v.toSignature flags = .ok d ∧
      ∃ key ∈ keys, checker d key = true) ↔
        ∃ sigs : List Signature, s.map (Value.toSignature flags) = sigs.map Except.ok ∧
          (sigs.all fun d => keys.any fun key => checker d key) = true := by
    rw [Operation.exists_map_eq_ok_and_all_iff]
    simp only [List.any_eq_true]
  rw [heach]
  constructor
  · rintro ⟨v, ⟨vs, rest, sigs, rfl, hlen, hmap, hr⟩, hv⟩
    obtain ⟨hall, rfl⟩ := Value.exists_singleton_ofBool_iff.mp ⟨v, hr.symm, hv⟩
    rw [List.append_nil]
    exact ⟨hlen, sigs, hmap, hall⟩
  · rintro ⟨hlen, sigs, hmap, hall⟩
    obtain ⟨v, hr, hv⟩ := Value.exists_singleton_ofBool_iff.mpr ⟨hall, rfl⟩
    exact ⟨v, ⟨s, [], sigs, (List.append_nil s).symm, hlen, hmap, hr.symm⟩, hv⟩

/-- **A lock on many keys opens to signatures by them and to nothing
else.** Against every unlock script, with operations in it or without, the
spend goes through exactly when the script leaves as many elements as the
lock asks for, at least one, and each of them decodes to a signature that
is right for the message under some key of the lock. A lock can have no
keys, and then nothing opens it. The lock on key pairs (`lockText`) is the
one on their public keys: which secrets go with them has no part in this. -/
theorem verify_keys_lock_eq_true_iff (message : Bytes) (required : ℕ) (keys : List PublicKey)
    (hrequired : required < 2 ^ 63) (hcount : keys.length < 2 ^ 63) (u : Code) :
    (Spend.mk u (Code.parse (lockOf required keys))).verify message = true ↔
      1 ≤ required ∧ ∃ s, u.evalUnlock .standard (.ofMessage message) = .ok s ∧
        s.length = required ∧
        ∀ v ∈ s, ∃ sb d, v.toBytes = .ok sb ∧ Signature.decode false sb = .ok d ∧
          ∃ key ∈ keys, d.verify key (messageDigest message) = true := by
  have hsig : ∀ {v : Value} {d : Signature}, v.toSignature .standard = .ok d ↔
      ∃ sb, v.toBytes = .ok sb ∧ Signature.decode false sb = .ok d := Value.toCredential_eq_ok_iff
  rw [Spend.verify_eq_true_iff]
  simp only [Code.evalUnlock_eq_ok_iff, Code.run, tokens_parse_lockOf,
    exists_runTokens_lock_iff hrequired hcount, hsig]
  constructor
  · rintro ⟨s, hopen, hlen, hall⟩
    have hpos : 0 < s.length := List.length_pos_iff.mpr hopen.2.1
    refine ⟨by omega, s, hopen, hlen, fun v hv => ?_⟩
    obtain ⟨d, ⟨sb, hsb, hd⟩, hright⟩ := hall v hv
    exact ⟨sb, d, hsb, hd, hright⟩
  · rintro ⟨-, s, hopen, hlen, hall⟩
    refine ⟨s, hopen, hlen, fun v hv => ?_⟩
    obtain ⟨sb, d, hsb, hd, hright⟩ := hall v hv
    exact ⟨d, ⟨sb, hsb, hd⟩, hright⟩

/-- One signature can do for two: the second of two keys, having signed a
message once, opens the lock that asks for both. -/
theorem verify_keys_lock_of_one_signature_twice :
    (Spend.mk ⟨List.replicate 2 (.push ((KeyPair.ofSeed 2).signatureWord Scenario.message))⟩
      (Code.parse (lockText 2 [KeyPair.ofSeed 1, KeyPair.ofSeed 2]))).verify Scenario.message =
        true := by
  let signer := KeyPair.ofSeed 2
  obtain ⟨-, hright, -, -⟩ := KeyPair.signsRight_message
  refine (verify_keys_lock_eq_true_iff Scenario.message 2 _ (by decide) (by decide) _).mpr
    ⟨by decide, List.replicate 2 (.literal (signer.signatureWord Scenario.message)),
      Code.evalUnlock_eq_ok_iff.mpr ⟨rfl, List.cons_ne_nil _ _, fun v hv => ?_⟩, rfl,
      fun v hv => ?_⟩
  · rw [List.eq_of_mem_replicate hv]
    exact signer.isOpcode_signatureWord Scenario.message
  · rw [List.eq_of_mem_replicate hv]
    exact ⟨_, _, signer.toBytes_signatureWord Scenario.message,
      signer.decode_sign Scenario.message false, signer.publicKey, by simp [signer], hright⟩

end Multisig

end SpendScript
