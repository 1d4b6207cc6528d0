import SpendScript.Proofs.Failure
/-!
# Two operations in one

Some operations do what two others do in a row: a verifying form asks its
question and holds the script to the answer, and a double hash hashes a
digest. Between the two the answer, or the digest, is an element on the
stack and is read back from there; in the one it never gets there.

That they come to the same is one equation on what they do
(`Operation.eval_fused`), failures and the stacks they leave included. In
a script the two can then stand for the one wherever it stands, and only
the token that is named for a failure tells which of them it was.
-/

namespace SpendScript

variable {flags : Flags} {checker : SignatureChecker}

namespace Operation

/-- The operations that do what two others do in a row. -/
inductive Fuses : Operation → Operation → Operation → Prop
  /-- Two elements are equal, and must be. -/
  | equalVerify : Fuses .equalVerify .equal .verify
  /-- A signature is right, and must be. -/
  | checkSigVerify : Fuses .checkSigVerify .checkSig .verify
  /-- Many signatures are right, and must be. -/
  | checkMultisigVerify : Fuses .checkMultisigVerify .checkMultisig .verify
  /-- The short digest of a digest. -/
  | hash160 : Fuses .hash160 .sha256 .ripemd160
  /-- The digest of a digest. -/
  | hash256 : Fuses .hash256 .sha256 .sha256

/-! ## What they do -/

theorem isTrue_ofBool (b : Bool) : (Value.ofBool b).isTrue = b := by
  cases b with
  | false => simp [Value.isTrue]
  | true => simp [Value.isTrue]

/-- **An answer that is pushed and then verified** is an answer that is
held to: the element it was in the meantime is off again. -/
theorem pushBool_andThen_verify (o : Outcome Fault Bool) :
    (o.pushBool.andThen fun _ s => verify.eval flags checker s) =
      o.andThen fun answer s => ⟨ensure answer, s⟩ := by
  rw [Outcome.pushBool, Outcome.andThen_assoc]
  congr 1
  funext answer s
  rw [Outcome.andThen_ok, eval, Stack.consumeOne, isTrue_ofBool]

/-- A question on two elements can be held to at once. -/
theorem consumeTwo_ensure (ask : Value → Value → Bool) (s : Stack) :
    (s.consumeTwo fun v w => ensure (ask v w)) =
      (s.consumeTwo fun v w => .ok (ask v w)).andThen fun answer s => ⟨ensure answer, s⟩ := by
  match s with
  | [] => rfl
  | [w] => rfl
  | w :: v :: s => rfl

/-- **A digest that is pushed and then hashed** is read back as the bytes
it is, so hashing it fails no more. -/
theorem digest_andThen_digest (inner outer : Bytes → Bytes) (s : Stack) :
    (s.consumeOne (digest fun b => outer (inner b))).push =
      (s.consumeOne (digest inner)).push.andThen fun _ s =>
        (s.consumeOne (digest outer)).push := by
  cases s with
  | nil => rfl
  | cons v s =>
    simp only [Stack.consumeOne, digest]
    cases v.toBytes with
    | error e => rfl
    | ok b => rfl

/-- **The one does what the two do**, on every stack: it succeeds and fails
where they do, with the same fault, and leaves the same stack. -/
theorem eval_fused {fused first second : Operation} (h : Fuses fused first second) (s : Stack) :
    fused.eval flags checker s =
      (first.eval flags checker s).andThen fun _ s => second.eval flags checker s := by
  cases h with
  | equalVerify =>
    exact (consumeTwo_ensure Value.equal s).trans (pushBool_andThen_verify _).symm
  | checkSigVerify => exact (pushBool_andThen_verify _).symm
  | checkMultisigVerify => exact (pushBool_andThen_verify _).symm
  | hash160 => exact digest_andThen_digest Hash.sha256 Hash.ripemd160 s
  | hash256 => exact digest_andThen_digest Hash.sha256 Hash.sha256 s

end Operation

/-! ## In a script -/

namespace Code

/-- Where the one succeeds the run goes on as after the two, and all else is
the same. -/
theorem runTokens_fused_of_ok {fused first second : Operation}
    (h : fused.Fuses first second) {after : List Token} {s left : Stack}
    (hok : fused.eval flags checker s = ⟨.ok (), left⟩) :
    runTokens flags checker (.operation fused :: after) s =
      runTokens flags checker (.operation first :: .operation second :: after) s := by
  obtain ⟨_, mid, hfirst, hsecond⟩ :=
    Outcome.andThen_eq_ok_iff.mp ((Operation.eval_fused h s).symm.trans hok)
  rw [runTokens_cons_of_ok (t := .operation fused) hok,
    runTokens_cons_of_ok (t := .operation first) hfirst,
    runTokens_cons_of_ok (t := .operation second) hsecond]

/-- Where it fails so does one of the two, and is named in its place. -/
theorem runTokens_fused_of_error {fused first second : Operation}
    (h : fused.Fuses first second) {after : List Token} {s r : Stack} {fault : Fault}
    (herror : fused.eval flags checker s = ⟨.error fault, r⟩) :
    runTokens flags checker (.operation fused :: after) s =
        ⟨.error (.interpreter (some (.operation fused)) fault), r⟩ ∧
      ∃ op, (op = first ∨ op = second) ∧
        runTokens flags checker (.operation first :: .operation second :: after) s =
          ⟨.error (.interpreter (some (.operation op)) fault), r⟩ := by
  refine ⟨runTokens_cons_of_error (t := .operation fused) herror after, ?_⟩
  rcases Outcome.andThen_eq_error_iff.mp ((Operation.eval_fused h s).symm.trans herror) with
    hfirst | ⟨_, mid, hfirst, hsecond⟩
  · exact ⟨first, .inl rfl, runTokens_cons_of_error (t := .operation first) hfirst _⟩
  · refine ⟨second, .inr rfl, ?_⟩
    rw [runTokens_cons_of_ok (t := .operation first) hfirst,
      runTokens_cons_of_error (t := .operation second) hsecond]

/-- **The two can stand for the one in every script.** Either the runs end
alike in all, or they stop where the one stands, with the same fault and
the same stack, and differ in the token that is named. -/
theorem runTokens_fused {fused first second : Operation} (h : fused.Fuses first second)
    (before after : List Token) (s : Stack) :
    runTokens flags checker (before ++ .operation fused :: after) s =
        runTokens flags checker (before ++ .operation first :: .operation second :: after) s ∨
      ∃ left fault r op, runTokens flags checker before s = ⟨.ok (), left⟩ ∧
        fused.eval flags checker left = ⟨.error fault, r⟩ ∧ (op = first ∨ op = second) ∧
        runTokens flags checker (before ++ .operation fused :: after) s =
          ⟨.error (.interpreter (some (.operation fused)) fault), r⟩ ∧
        runTokens flags checker (before ++ .operation first :: .operation second :: after) s =
          ⟨.error (.interpreter (some (.operation op)) fault), r⟩ := by
  simp only [runTokens_append]
  cases hbefore : runTokens flags checker before s with
  | mk result left =>
    cases result with
    | error e => exact .inl rfl -- Neither script gets as far as the place.
    | ok _ =>
      simp only [Outcome.andThen_ok]
      cases hfused : fused.eval flags checker left with
      | mk result r =>
        cases result with
        | ok _ => exact .inl (runTokens_fused_of_ok h hfused)
        | error fault =>
          obtain ⟨hone, op, hop, htwo⟩ := runTokens_fused_of_error h hfused
          exact .inr ⟨left, fault, r, op, rfl, hfused, hop, hone, htwo⟩

/-- So they succeed on the same stacks, and leave the same. -/
theorem run_fused_eq_ok_iff {fused first second : Operation} (h : fused.Fuses first second)
    (before after : List Token) (s r : Stack) :
    (Code.mk (before ++ .operation fused :: after)).run flags checker s = ⟨.ok (), r⟩ ↔
      (Code.mk (before ++ .operation first :: .operation second :: after)).run flags checker s =
        ⟨.ok (), r⟩ := by
  rw [run, run]
  rcases runTokens_fused h before after s with heq | ⟨_, _, _, _, -, -, -, hone, htwo⟩
  · rw [heq]
  · simp [hone, htwo]

end Code

/-- Whether a spend goes through depends on its scripts by what they leave
when they succeed. -/
theorem Spend.verify_congr {spend spend' : Spend} {message : Bytes}
    (hunlock : ∀ s r, spend.unlock.run .standard (.ofMessage message) s = ⟨.ok (), r⟩ ↔
      spend'.unlock.run .standard (.ofMessage message) s = ⟨.ok (), r⟩)
    (hlock : ∀ s r, spend.lock.run .standard (.ofMessage message) s = ⟨.ok (), r⟩ ↔
      spend'.lock.run .standard (.ofMessage message) s = ⟨.ok (), r⟩) :
    spend.verify message = spend'.verify message := by
  rw [Bool.eq_iff_iff, verify_eq_true_iff, verify_eq_true_iff]
  simp only [Code.Opens, hunlock, hlock]

namespace Code

/-- **One operation or two.** Let an operation do what two others do in a
row, and let a script have it anywhere. With the two in its place the run
from any stack succeeds where it did and leaves the same stack, or fails
where it did with the same fault and the same stack. Which token is named
can change only where it was that operation that failed. And so a spend
that has it, in the one script or the other, goes through exactly when it
does with the two. -/
theorem fused_stands_for_two (flags : Flags) (checker : SignatureChecker)
    (fused first second : Operation) (h : fused.Fuses first second) (before after : List Token)
    (s : Stack) :
    let one : Code := ⟨before ++ [.operation fused] ++ after⟩
    let two : Code := ⟨before ++ [.operation first, .operation second] ++ after⟩
    ((∃ r, one.run flags checker s = ⟨.ok (), r⟩ ∧ two.run flags checker s = ⟨.ok (), r⟩) ∨
      ∃ t u fault r, one.run flags checker s = ⟨.error (.interpreter (some t) fault), r⟩ ∧
        two.run flags checker s = ⟨.error (.interpreter (some u) fault), r⟩ ∧
        (t = u ∨ ∃ left, runTokens flags checker before s = ⟨.ok (), left⟩ ∧
          fused.eval flags checker left = ⟨.error fault, r⟩ ∧ t = .operation fused ∧
          (u = .operation first ∨ u = .operation second))) ∧
      ∀ (other : Code) (message : Bytes),
        (Spend.mk one other).verify message = (Spend.mk two other).verify message ∧
          (Spend.mk other one).verify message = (Spend.mk other two).verify message := by
  intro one two
  have hone : one = ⟨before ++ .operation fused :: after⟩ := by simp [one]
  have htwo : two = ⟨before ++ .operation first :: .operation second :: after⟩ := by simp [two]
  rw [hone, htwo]
  refine ⟨?_, fun other message => ⟨?_, ?_⟩⟩
  · rcases runTokens_fused h before after s with
      heq | ⟨left, fault, r, op, hbefore, hfault, hop, hrun, hrun'⟩
    · -- A run that fails names a token, and here it is one and the same.
      rw [run, run, heq]
      cases hrun : runTokens flags checker
          (before ++ .operation first :: .operation second :: after) s with
      | mk result r =>
        cases result with
        | ok _ => exact .inl ⟨r, rfl, rfl⟩
        | error e =>
          obtain ⟨t, fault, rfl⟩ := exists_eq_interpreter_of_run (c := ⟨_⟩) hrun
          exact .inr ⟨t, t, fault, r, rfl, rfl, .inl rfl⟩
    · refine .inr ⟨_, _, fault, r, hrun, hrun', .inr ⟨left, hbefore, hfault, rfl, ?_⟩⟩
      exact hop.imp (congrArg _) (congrArg _)
  · exact Spend.verify_congr (run_fused_eq_ok_iff h before after) fun _ _ => Iff.rfl
  · exact Spend.verify_congr (fun _ _ => Iff.rfl) (run_fused_eq_ok_iff h before after)

/-- Two elements that differ, in the middle of a script. It fails there and
leaves what lies below, and with the two operations for the one it fails
with the same fault and leaves the same. -/
theorem fused_stands_for_two_of_unequal :
    let one : Code := ⟨[.push "a", .push "1"] ++ [.operation .equalVerify] ++ [.operation .drop]⟩
    let two : Code := ⟨[.push "a", .push "1"] ++ [.operation .equal, .operation .verify] ++
      [.operation .drop]⟩
    Operation.Fuses .equalVerify .equal .verify ∧
      one.run .none .rejectAll [.literal "x"] =
        ⟨.error (.interpreter (some (.operation .equalVerify)) .verificationFailed),
          [.literal "x"]⟩ ∧
      (∃ u, two.run .none .rejectAll [.literal "x"] =
        ⟨.error (.interpreter (some u) .verificationFailed), [.literal "x"]⟩) ∧
      ∀ message, (Spend.mk ⟨[.push "2"]⟩ one).verify message =
        (Spend.mk ⟨[.push "2"]⟩ two).verify message := by
  intro one two
  have hone : one.run .none .rejectAll [.literal "x"] =
      ⟨.error (.interpreter (some (.operation .equalVerify)) .verificationFailed),
        [.literal "x"]⟩ := rfl
  obtain ⟨hrun, hverify⟩ := fused_stands_for_two .none .rejectAll .equalVerify .equal .verify
    .equalVerify [.push "a", .push "1"] [.operation .drop] [.literal "x"]
  refine ⟨.equalVerify, hone, ?_, fun message => (hverify ⟨[.push "2"]⟩ message).2⟩
  rcases hrun with ⟨r, hok, -⟩ | ⟨t, u, fault, r, herror, htwo, -⟩
  · cases hone.symm.trans hok
  · cases hone.symm.trans herror
    exact ⟨u, htwo⟩

end Code

end SpendScript
