import SpendScript.Proofs.Verdict
import SpendScript.Proofs.Wallet
/-!
# Locks on the hash of a key

The most common lock names the hash of a public key and asks for that key
and a signature by it. Whatever script is brought to unlock it, the spend
goes through for one reason only: the script leaves a signature and a key,
nothing else, the key has the hash, and the signature is right.
-/

namespace SpendScript

namespace KeyHash

/-- The lock on the hash of a key, the hash being given as a word. -/
def lockText (h : String) : String :=
  "OP_DUP OP_HASH160 " ++ h ++ " OP_EQUALVERIFY OP_CHECKSIG"

/-- The tokens of the lock. -/
def lockTokens (h : String) : List Token :=
  [.operation .dup, .operation .hash160, .push h, .operation .equalVerify, .operation .checkSig]

/-- The lock's text is read as its five tokens. -/
theorem tokens_parse_lockText {h : String} (hword : Text.IsWord h) (hname : isOpcode h = false) :
    (Code.parse (lockText h)).tokens = lockTokens h := by
  have hparts : lockText h =
      "OP_DUP OP_HASH160" ++ " " ++ h ++ " " ++ "OP_EQUALVERIFY OP_CHECKSIG" := by
    -- The spaces at the two ends of `h` are part of the texts around it.
    have hleft : "OP_DUP OP_HASH160 " = "OP_DUP OP_HASH160" ++ " " := by decide
    have hright : " OP_EQUALVERIFY OP_CHECKSIG" = " " ++ "OP_EQUALVERIFY OP_CHECKSIG" := by decide
    calc lockText h
        = "OP_DUP OP_HASH160 " ++ h ++ " OP_EQUALVERIFY OP_CHECKSIG" := rfl
      _ = "OP_DUP OP_HASH160" ++ " " ++ h ++ (" " ++ "OP_EQUALVERIFY OP_CHECKSIG") :=
          congr (congrArg (fun a b => a ++ h ++ b) hleft) hright
      _ = _ := String.append_assoc.symm
  have hfront : (Code.parse "OP_DUP OP_HASH160").tokens =
      [.operation .dup, .operation .hash160] := by
    decide
  have hback : (Code.parse "OP_EQUALVERIFY OP_CHECKSIG").tokens =
      [.operation .equalVerify, .operation .checkSig] := by
    decide
  rw [hparts, Code.tokens_parse_append, Code.tokens_parse_append, hfront, hback,
    Code.tokens_parse_of_isWord hword, Token.parse_of_isOpcode_eq_false hname]
  rfl

/-- The hash of anything is a word. -/
theorem isWord_hash (b : Bytes) :
    Text.IsWord (Hex.encode (Hash.ripemd160 (Hash.sha256 b))) := by
  refine Hex.isWord_encode (List.ne_nil_of_length_pos ?_)
  rw [Hash.length_ripemd160]
  omega

variable {flags : Flags} {checker : SignatureChecker}

/-- The key on top is what is doubled and hashed. -/
theorem eval_dup_hash160_eq_ok_iff {s r : Stack} :
    (∃ s', Operation.dup.eval flags checker s = ⟨.ok (), s'⟩ ∧
        Operation.hash160.eval flags checker s' = ⟨.ok (), r⟩) ↔
      ∃ key rest b, s = key :: rest ∧ key.toBytes = .ok b ∧
        r = .bytes (Hash.ripemd160 (Hash.sha256 b)) :: key :: rest := by
  simp only [Operation.eval, Outcome.push_eq_ok_iff, Stack.consumeOne_eq_ok_iff,
    Operation.digest_eq_ok_iff, Outcome.mk.injEq, true_and]
  constructor
  · rintro ⟨s', rfl, w, rest', ⟨v, heq, b, hb, rfl⟩, rfl⟩
    cases s with
    | nil => cases heq
    | cons key rest =>
      cases heq
      exact ⟨_, rest, b, rfl, hb, rfl⟩
  · rintro ⟨key, rest, b, rfl, hb, rfl⟩
    exact ⟨key :: key :: rest, rfl, _, key :: rest, ⟨key, rfl, b, hb, rfl⟩, rfl⟩

/-- **The lock succeeds** exactly on a key with the hash above a signature,
both of which can be decoded. It puts the answer in their place. -/
theorem runTokens_lockTokens_eq_ok_iff {h : String} {s r : Stack} :
    Code.runTokens flags checker (lockTokens h) s = ⟨.ok (), r⟩ ↔
      ∃ key sig rest kb k sb d, s = key :: sig :: rest ∧ key.toBytes = .ok kb ∧
        Hex.encode (Hash.ripemd160 (Hash.sha256 kb)) = h ∧
        PublicKey.decode flags.strictEnc kb = .ok k ∧
        sig.toBytes = .ok sb ∧ Signature.decode flags.lowS sb = .ok d ∧
        r = Value.ofBool (checker d k) :: rest := by
  have hequal : ∀ {v w : Value} {t u : Stack},
      Operation.equalVerify.eval flags checker (w :: v :: t) = ⟨.ok (), u⟩ ↔
        v.text = w.text ∧ u = t := by
    intro v w t u
    simp only [Operation.eval, Stack.consumeTwo_eq_ok_iff, Operation.ensure_eq_ok_iff,
      Value.equal_eq_beq_text, beq_iff_eq]
    constructor
    · rintro ⟨v', w', heq, hvw⟩
      cases heq
      exact ⟨hvw, rfl⟩
    · rintro ⟨hvw, rfl⟩
      exact ⟨v, w, rfl, hvw⟩
  simp only [lockTokens, Code.runTokens_cons_eq_ok_iff, Token.eval]
  constructor
  · rintro ⟨s₁, hdup, s₂, hhash, s₃, hpush, s₄, hverify, s₅, hcheck, hend⟩
    obtain ⟨key, rest, kb, rfl, hkb, rfl⟩ := eval_dup_hash160_eq_ok_iff.mp ⟨s₁, hdup, hhash⟩
    cases hpush
    obtain ⟨hh, rfl⟩ := hequal.mp hverify
    simp only [Operation.eval, Outcome.pushBool_eq_ok_iff, Stack.consumeTwo_eq_ok_iff,
      Operation.checkOne_eq_ok_iff, Value.toKey, Value.toSignature,
      Value.toCredential_eq_ok_iff] at hcheck
    obtain ⟨b, left, ⟨sig, key', heq, k, d, ⟨kb', hkb', hk⟩, ⟨sb, hsb, hd⟩, rfl⟩, rfl⟩ := hcheck
    cases heq
    cases hend
    rw [hkb] at hkb'
    cases hkb'
    exact ⟨key, sig, left, kb, k, sb, d, rfl, hkb, hh, hk, hsb, hd, rfl⟩
  · rintro ⟨key, sig, rest, kb, k, sb, d, rfl, hkb, hh, hk, hsb, hd, rfl⟩
    obtain ⟨s₁, hdup, hhash⟩ := eval_dup_hash160_eq_ok_iff.mpr
      ⟨key, sig :: rest, kb, rfl, hkb, rfl⟩
    refine ⟨s₁, hdup, _, hhash, _, rfl, _, hequal.mpr ⟨hh, rfl⟩, _, ?_, rfl⟩
    simp only [Operation.eval, Outcome.pushBool_eq_ok_iff, Stack.consumeTwo_eq_ok_iff,
      Operation.checkOne_eq_ok_iff, Value.toKey, Value.toSignature,
      Value.toCredential_eq_ok_iff]
    exact ⟨_, rest, ⟨sig, key, rfl, k, d, ⟨kb, hkb, hk⟩, ⟨sb, hsb, hd⟩, rfl⟩, rfl⟩

/-- **A key-hash lock opens to a signature and its key and to nothing
else.** Against every unlock script, with operations in it or without, the
spend goes through exactly when the script leaves two elements, a key on
top of a signature, of which the bytes of the key have the hash that the
lock names, both can be decoded, and the signature is right under the key
for the message. -/
theorem verify_lock_eq_true_iff (message : Bytes) (h : String) (hword : Text.IsWord h)
    (hname : isOpcode h = false) (u : Code) :
    (Spend.mk u (Code.parse (lockText h))).verify message = true ↔
      ∃ sig key : Value, u.evalUnlock .standard (.ofMessage message) = .ok [key, sig] ∧
        ∃ kb pk sb d, key.toBytes = .ok kb ∧
          Hex.encode (Hash.ripemd160 (Hash.sha256 kb)) = h ∧
          PublicKey.decode false kb = .ok pk ∧
          sig.toBytes = .ok sb ∧ Signature.decode false sb = .ok d ∧
          d.verify pk (messageDigest message) = true := by
  rw [Spend.verify_eq_true_iff]
  simp only [Code.evalUnlock_eq_ok_iff, Code.run, tokens_parse_lockText hword hname,
    runTokens_lockTokens_eq_ok_iff]
  constructor
  · rintro ⟨s, hopen, v, ⟨key, sig, rest, kb, pk, sb, d, rfl, hkb, hh, hpk, hsb, hd, hr⟩, hv⟩
    obtain ⟨hyes, rfl⟩ := Value.exists_singleton_ofBool_iff.mp ⟨v, hr.symm, hv⟩
    exact ⟨sig, key, hopen, kb, pk, sb, d, hkb, hh, hpk, hsb, hd, hyes⟩
  · rintro ⟨sig, key, hopen, kb, pk, sb, d, hkb, hh, hpk, hsb, hd, hyes⟩
    obtain ⟨v, hr, hv⟩ := Value.exists_singleton_ofBool_iff.mpr ⟨hyes, rfl⟩
    exact ⟨[key, sig], hopen, v,
      ⟨key, sig, [], kb, pk, sb, d, rfl, hkb, hh, hpk, hsb, hd, hr.symm⟩, hv⟩

/-- The lock on the hash of a key opens to the owner, who brings the key
and a signature, and not to someone who brings the key alone and signs with
another. -/
theorem verify_lock_of_owner :
    let owner := KeyPair.ofSeed 2
    let h := Hex.encode (Hash.ripemd160 (Hash.sha256 owner.publicKey.compressed))
    Text.IsWord h ∧ isOpcode h = false ∧
      (Spend.mk ⟨[.push (owner.signatureWord Scenario.message), .push owner.keyWord]⟩
        (Code.parse (lockText h))).verify Scenario.message = true ∧
      (Spend.mk ⟨[.push ((KeyPair.ofSeed 1).signatureWord Scenario.message), .push owner.keyWord]⟩
        (Code.parse (lockText h))).verify Scenario.message = false := by
  obtain ⟨-, hright, -, hwrong⟩ := KeyPair.signsRight_message
  -- What is said of the two pairs is true of any two with such signatures.
  generalize KeyPair.ofSeed 1 = other at hwrong ⊢
  generalize KeyPair.ofSeed 2 = owner at hright hwrong ⊢
  intro _ h
  have hword : Text.IsWord h := isWord_hash owner.publicKey.compressed
  have hname : isOpcode h = false := Hex.isOpcode_encode _
  have hleft : ∀ signer : KeyPair,
      Code.evalUnlock .standard (.ofMessage Scenario.message)
        ⟨[.push (signer.signatureWord Scenario.message), .push owner.keyWord]⟩ =
          .ok [.literal owner.keyWord, .literal (signer.signatureWord Scenario.message)] :=
    fun signer => Code.evalUnlock_eq_ok_iff.mpr ⟨rfl, List.cons_ne_nil _ _,
      List.forall_mem_cons.mpr ⟨owner.publicKey.isOpcode_word,
        List.forall_mem_singleton.mpr (signer.isOpcode_signatureWord Scenario.message)⟩⟩
  refine ⟨hword, hname, ?_, eq_false_of_ne_true fun hverify => ?_⟩
  · exact (verify_lock_eq_true_iff Scenario.message h hword hname _).mpr
      ⟨_, _, hleft owner, _, _, _, _, owner.publicKey.toBytes_word, rfl,
        owner.publicKey.decode_compressed false, owner.toBytes_signatureWord Scenario.message,
        owner.decode_sign Scenario.message false, hright⟩
  · obtain ⟨sig, key, hs, kb, pk, sb, d, hkb, -, hpk, hsb, hd, hyes⟩ :=
      (verify_lock_eq_true_iff Scenario.message h hword hname _).mp hverify
    obtain ⟨rfl, rfl⟩ : key = .literal owner.keyWord ∧
        sig = .literal (other.signatureWord Scenario.message) := by
      simpa using (Except.ok.inj ((hleft other).symm.trans hs)).symm
    obtain rfl := Except.ok.inj (hkb.symm.trans owner.publicKey.toBytes_word)
    obtain rfl := Except.ok.inj (hpk.symm.trans (owner.publicKey.decode_compressed false))
    obtain rfl := Except.ok.inj (hsb.symm.trans (other.toBytes_signatureWord Scenario.message))
    obtain rfl := Except.ok.inj (hd.symm.trans (other.decode_sign _ false))
    exact Bool.false_ne_true (hwrong.symm.trans hyes)

end KeyHash

end SpendScript
