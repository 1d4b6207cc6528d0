import SpendScript.Proofs.HonestSpend
/-!
# The scenarios come out as expected

The scenarios without signatures are small enough for the kernel to run
them. In those with signatures it would make every signature again, so
these are read off what is known of the words of keys and signatures, and
of the lock on many keys; what has to be known of the signatures themselves
is that three are right and one is not (`KeyPair.signsRight_message`).
-/

namespace SpendScript

/-! ## Operations on words -/

namespace KeyPair

variable {flags : Flags} {checker : SignatureChecker}

/-- The check of one signature pushes what the checker says. -/
theorem eval_checkSig_words (signer : KeyPair) (key : PublicKey) (message : Bytes) (s : Stack) :
    Operation.checkSig.eval flags checker
        (.literal key.word :: .literal (signer.signatureWord message) :: s) =
      ⟨.ok (), Value.ofBool
        (checker (Signature.sign signer.secret (messageDigest message)) key) :: s⟩ := by
  rw [Operation.eval, Stack.consumeTwo, checkOne_words]
  rfl

/-- And its verifying form insists on it. -/
theorem eval_checkSigVerify_words (signer : KeyPair) (key : PublicKey) (message : Bytes)
    (s : Stack) :
    Operation.checkSigVerify.eval flags checker
        (.literal key.word :: .literal (signer.signatureWord message) :: s) =
      ⟨Operation.ensure
        (checker (Signature.sign signer.secret (messageDigest message)) key), s⟩ := by
  rw [Operation.eval, Stack.consumeTwo, checkOne_words]
  rfl

end KeyPair

namespace Scenario

variable {name u l : String} {expected : Except (Component × ScriptError) Bool}

/-- Where the unlock script only pushes words, the lock script has the say
on them. -/
theorem run_of_pushes {ts : List String} {s : Stack} {c : Code}
    (hu : (Code.parse u).tokens = ts.map Token.push) (hsome : ts ≠ [])
    (hname : ∀ t ∈ ts, isOpcode t = false) (hs : (ts.map Value.literal).reverse = s)
    (hl : Code.parse l = c) :
    (standard name u l expected).run =
      (c.evalLock .standard (.ofMessage message) s).mapError fun e => (.lock, e) := by
  rw [← hs, ← hl]
  exact Spend.eval_of_pushes .standard (.ofMessage message) hu hsome hname

/-- In particular on a signature, -/
theorem run_signature (signer : KeyPair) {c : Code} (hl : Code.parse l = c) :
    (standard name (signer.signatureWord message) l expected).run =
      (c.evalLock .standard (.ofMessage message)
        [.literal (signer.signatureWord message)]).mapError fun e => (.lock, e) :=
  run_of_pushes (signer.tokens_parse_signatureWord message) (List.cons_ne_nil _ _)
    (List.forall_mem_singleton.mpr (signer.isOpcode_signatureWord message)) rfl hl

/-- and on a signature and a key. -/
theorem run_signature_and_key (signer : KeyPair) (key : PublicKey) {c : Code}
    (hl : Code.parse l = c) :
    (standard name (signer.signatureWord message ++ " " ++ key.word) l expected).run =
      (c.evalLock .standard (.ofMessage message)
        [.literal key.word, .literal (signer.signatureWord message)]).mapError
          fun e => (.lock, e) :=
  run_of_pushes (signer.tokens_parse_signature_and_key key message) (List.cons_ne_nil _ _)
    (by simp [signer.isOpcode_signatureWord message, key.isOpcode_word]) rfl hl

/-! ## One signature and one key -/

/-- The lock that only checks a signature says whether it is right. -/
theorem run_checkSig (signer : KeyPair) (key : PublicKey) :
    (standard name (signer.signatureWord message ++ " " ++ key.word) "OP_CHECKSIG"
      expected).run =
        .ok ((Signature.sign signer.secret (messageDigest message)).verify key
          (messageDigest message)) := by
  have hlock : Code.parse "OP_CHECKSIG" = ⟨[.operation .checkSig]⟩ := by decide
  have hanswers : (Token.operation .checkSig).eval .standard (.ofMessage message)
      [.literal key.word, .literal (signer.signatureWord message)] =
        ⟨.ok (), [Value.ofBool ((Signature.sign signer.secret (messageDigest message)).verify key
          (messageDigest message))]⟩ :=
    signer.eval_checkSig_words key message []
  rw [run_signature_and_key signer key hlock,
    Code.evalLock_of_answer (Code.runTokens_cons_of_ok hanswers [])]
  rfl

/-- The lock that insists on it fails where it is not. -/
theorem run_checkSigVerify_of_wrong {signer : KeyPair} {key : PublicKey}
    (hwrong : (Signature.sign signer.secret (messageDigest message)).verify key
      (messageDigest message) = false) :
    (standard name (signer.signatureWord message ++ " " ++ key.word)
      "OP_CHECKSIGVERIFY OP_TRUE" expected).run =
        lockFails .checkSigVerify .verificationFailed := by
  have hlock : Code.parse "OP_CHECKSIGVERIFY OP_TRUE" =
      ⟨[.operation .checkSigVerify, .operation .pushTrue]⟩ := by decide
  have hno : SignatureChecker.ofMessage message
      (Signature.sign signer.secret (messageDigest message)) key = false := hwrong
  have hfails : (Token.operation .checkSigVerify).eval .standard (.ofMessage message)
      [.literal key.word, .literal (signer.signatureWord message)] =
        ⟨.error .verificationFailed, []⟩ := by
    rw [Token.eval, signer.eval_checkSigVerify_words key message [], hno]
    rfl
  rw [run_signature_and_key signer key hlock,
    Code.evalLock_eq_error_iff.mpr (.inl ⟨_, Code.runTokens_cons_of_error hfails _⟩)]
  rfl

/-- A key cut short is no key, whatever signature it is brought for. -/
theorem run_checkSig_of_truncated (signer : KeyPair) :
    (standard name (signer.signatureWord message) "02 OP_CHECKSIG" expected).run =
      lockFails .checkSig (.malformedCredential .malformedKey) := by
  have hlock : Code.parse "02 OP_CHECKSIG" = ⟨[.push "02", .operation .checkSig]⟩ := by decide
  have hkey : (Value.literal "02").toKey .standard =
      .error (.malformedCredential .malformedKey) := by decide
  have hfails : (Token.operation .checkSig).eval .standard (.ofMessage message)
      [.literal "02", .literal (signer.signatureWord message)] =
        ⟨.error (.malformedCredential .malformedKey), []⟩ := by
    rw [Token.eval, Operation.eval, Stack.consumeTwo, Operation.checkOne, hkey]
    rfl
  have hrun : (Code.mk [.push "02", .operation .checkSig]).run .standard (.ofMessage message)
      [.literal (signer.signatureWord message)] =
        ⟨.error (.interpreter (some (.operation .checkSig)) (.malformedCredential .malformedKey)),
          []⟩ :=
    (Code.runTokens_cons_of_ok rfl _).trans (Code.runTokens_cons_of_error hfails [])
  rw [run_signature signer hlock, Code.evalLock_eq_error_iff.mpr (.inl ⟨_, hrun⟩)]
  rfl

/-! ## The lock on three keys -/

/-- Two signatures that are right open it, be they by one pair. -/
theorem run_twoOfThree {a b : KeyPair}
    (hmem : ∀ pair ∈ [a, b], pair ∈ [.ofSeed 1, .ofSeed 2, .ofSeed 3])
    (hright : ∀ pair ∈ [a, b], pair.SignsRight message) :
    (standard name (a.signatureWord message ++ " " ++ b.signatureWord message) twoOfThree
      expected).run = .ok true := by
  rw [← Multisig.unlockText_pair]
  exact Multisig.eval_unlockText .standard (List.cons_ne_nil _ _) hmem (by simp) (by simp) hright

/-- One is too few. -/
theorem run_twoOfThree_of_one (signer : KeyPair) :
    (standard name (signer.signatureWord message) twoOfThree expected).run =
      lockFails .checkMultisig (.stackUnderflow 2 1) := by
  have hrun : (Code.parse twoOfThree).run .standard (.ofMessage message)
      [.literal (signer.signatureWord message)] =
        ⟨.error (.interpreter (some (.operation .checkMultisig)) (.stackUnderflow 2 1)),
          [.literal (signer.signatureWord message)]⟩ := by
    rw [Code.run, twoOfThree, Multisig.lockText, Multisig.tokens_parse_lockOf]
    exact Multisig.runTokens_lock_of_short (by decide) (by simp) (by simp)
  rw [run_signature signer rfl, Code.evalLock_eq_error_iff.mpr (.inl ⟨_, hrun⟩)]
  rfl

/-! ## All scenarios -/

theorem run_of_mem_plain : ∀ scenario ∈ plain, scenario.run = scenario.expected := by
  decide +kernel

theorem run_of_mem_signed : ∀ scenario ∈ signed, scenario.run = scenario.expected := by
  obtain ⟨hone, htwo, hthree, hwrong⟩ := KeyPair.signsRight_message
  simp only [signed, List.forall_mem_cons]
  refine ⟨?_, ?_, ?_, ?_, ?_, ?_, ?_, ?_, List.forall_mem_nil _⟩
  · exact (run_checkSig (.ofSeed 1) (KeyPair.ofSeed 1).publicKey).trans (congrArg _ hone)
  · exact (run_checkSig (.ofSeed 1) (KeyPair.ofSeed 2).publicKey).trans (congrArg _ hwrong)
  · exact run_checkSigVerify_of_wrong hwrong
  · exact run_checkSig_of_truncated (.ofSeed 1)
  · exact run_twoOfThree (by simp) (by simp [hone, htwo])
  · exact run_twoOfThree (by simp) (by simp [hthree])
  · exact run_twoOfThree_of_one (.ofSeed 1)
  · decide +kernel

/-- **Every scenario comes out as expected.** -/
theorem run_eq_expected : ∀ scenario ∈ all, scenario.run = scenario.expected := by
  intro scenario h
  rcases List.mem_append.mp h with hplain | hsigned
  · exact run_of_mem_plain scenario hplain
  · exact run_of_mem_signed scenario hsigned

end Scenario

end SpendScript
