import SpendScript.Proofs.Failure
/-!
# What a checker can change

A checker is asked last: keys and signatures are off the stack and decoded
by then, and nothing depends on its answer but what is made of it. So two
checkers give the same end of an operation on signatures, or ends that
differ in the one answer (`Outcome.UpToAnswer`), which is an element on the
stack, or a success against a verification that failed.

Two runs of a script with two checkers go step by step together, until an
answer parts them (`Code.runTokens_eq_or_parts`). A script that has no
operation on signatures asks no checker, and the flags on keys and on
signatures say nothing to it either.
-/

namespace SpendScript

variable {flags : Flags} {checker checker' : SignatureChecker}

namespace Operation

/-- It has a signature checked. -/
def IsSignature (op : Operation) : Prop :=
  op = .checkSig ∨ op = .checkSigVerify ∨ op = .checkMultisig ∨ op = .checkMultisigVerify

instance (op : Operation) : Decidable op.IsSignature :=
  inferInstanceAs (Decidable (_ ∨ _))

/-- The ends of an operation on signatures when the answer is yes and when
it is no. -/
inductive YesAndNo (op : Operation) : Outcome Fault Unit → Outcome Fault Unit → Prop
  /-- The answer is pushed, and all else is the same. -/
  | pushed (rest : Stack) : op = .checkSig ∨ op = .checkMultisig →
      YesAndNo op ⟨.ok (), .num 1 :: rest⟩ ⟨.ok (), .num 0 :: rest⟩
  /-- The answer is held to, and the stack is the same. -/
  | held (rest : Stack) : op = .checkSigVerify ∨ op = .checkMultisigVerify →
      YesAndNo op ⟨.ok (), rest⟩ ⟨.error .verificationFailed, rest⟩

/-- Two ends of an operation that differ in the answer. -/
def DiffersInAnswer (op : Operation) (o p : Outcome Fault Unit) : Prop :=
  op.YesAndNo o p ∨ op.YesAndNo p o

end Operation

/-! ## The same but for the answer -/

namespace Outcome

/-- Two ends of a question: the same failure, or answers on the same
stack. -/
inductive UpToAnswer : Outcome Fault Bool → Outcome Fault Bool → Prop
  | failed (fault : Fault) (s : Stack) : UpToAnswer ⟨.error fault, s⟩ ⟨.error fault, s⟩
  | answered (b c : Bool) (s : Stack) : UpToAnswer ⟨.ok b, s⟩ ⟨.ok c, s⟩

namespace UpToAnswer

/-- **What comes before the question is common to both.** -/
theorem andThen {α : Type} (o : Outcome Fault α) {next next' : α → Stack → Outcome Fault Bool}
    (hnext : ∀ a s, (next a s).UpToAnswer (next' a s)) :
    (o.andThen next).UpToAnswer (o.andThen next') := by
  obtain ⟨result, s⟩ := o
  cases result with
  | error fault => exact .failed fault s
  | ok a => exact hnext a s

/-- **What comes after it is the same, or as after a yes and a no.** -/
theorem finish {o p : Outcome Fault Bool} (h : o.UpToAnswer p) {op : Operation}
    {next : Bool → Stack → Outcome Fault Unit}
    (hnext : ∀ s, op.YesAndNo (next true s) (next false s)) :
    o.andThen next = p.andThen next ∨ op.DiffersInAnswer (o.andThen next) (p.andThen next) := by
  cases h with
  | failed fault s => exact .inl rfl
  | answered b c s =>
    cases b with
    | true =>
      cases c with
      | true => exact .inl rfl
      | false => exact .inr (.inl (hnext s))
    | false =>
      cases c with
      | true => exact .inr (.inr (hnext s))
      | false => exact .inl rfl

/-- A push of the answer comes after it. -/
theorem pushBool {o p : Outcome Fault Bool} (h : o.UpToAnswer p) {op : Operation}
    (hop : op = .checkSig ∨ op = .checkMultisig) :
    o.pushBool = p.pushBool ∨ op.DiffersInAnswer o.pushBool p.pushBool := by
  unfold Outcome.pushBool
  exact h.finish fun s => .pushed s hop

end UpToAnswer

end Outcome

namespace Operation

/-- One signature and one key: both are decoded before the checker is
asked. -/
theorem upToAnswer_checkOne (s : Stack) :
    (s.consumeTwo (checkOne flags checker)).UpToAnswer
      (s.consumeTwo (checkOne flags checker')) := by
  match s with
  | [] => exact .failed _ _
  | [w] => exact .failed _ _
  | w :: v :: s =>
    simp only [Stack.consumeTwo, checkOne]
    cases w.toKey flags with
    | error fault => exact .failed fault s
    | ok key =>
      cases v.toSignature flags with
      | error fault => exact .failed fault s
      | ok sig => exact .answered _ _ s

/-- Many signatures and many keys: so are all of them, and the loops over
them take off what they take off whatever the checker says. -/
theorem upToAnswer_checkMany (s : Stack) :
    (checkMany flags checker s).UpToAnswer (checkMany flags checker' s) :=
  .andThen _ fun _ _ => .andThen _ fun _ s => .answered _ _ s

/-- **An operation with two checkers** ends in the same way, or in ways
that differ in the answer. -/
theorem eval_eq_or_differs (op : Operation) (s : Stack) :
    op.eval flags checker s = op.eval flags checker' s ∨
      op.DiffersInAnswer (op.eval flags checker s) (op.eval flags checker' s) := by
  cases op with
  | checkSig => exact (upToAnswer_checkOne s).pushBool (.inl rfl)
  | checkSigVerify => exact (upToAnswer_checkOne s).finish fun s => .held s (.inl rfl)
  | checkMultisig => exact (upToAnswer_checkMany s).pushBool (.inr rfl)
  | checkMultisigVerify => exact (upToAnswer_checkMany s).finish fun s => .held s (.inr rfl)
  | _ => exact .inl rfl

/-- An operation that is none on signatures asks no checker, and looks at
no flag. -/
theorem eval_of_not_isSignature {op : Operation} (h : ¬ op.IsSignature) (flags flags' : Flags)
    (checker checker' : SignatureChecker) (s : Stack) :
    op.eval flags checker s = op.eval flags' checker' s := by
  cases op with
  | checkSig => exact absurd (.inl rfl) h
  | checkSigVerify => exact absurd (.inr (.inl rfl)) h
  | checkMultisig => exact absurd (.inr (.inr (.inl rfl))) h
  | checkMultisigVerify => exact absurd (.inr (.inr (.inr rfl))) h
  | _ => rfl

end Operation

/-! ## Tokens and runs -/

namespace Token

theorem eval_eq_or_differs (flags : Flags) (checker checker' : SignatureChecker) (t : Token)
    (s : Stack) :
    t.eval flags checker s = t.eval flags checker' s ∨
      ∃ op, t = .operation op ∧
        op.DiffersInAnswer (op.eval flags checker s) (op.eval flags checker' s) := by
  cases t with
  | push text => exact .inl rfl
  | operation op => exact op.eval_eq_or_differs s |>.imp_right fun h => ⟨op, rfl, h⟩
  | unknown name => exact .inl rfl

/-- **No other failure is the checker's doing**: of what can go wrong, only
a verification that failed depends on it. -/
theorem eval_eq_error_iff {fault : Fault} (hfault : fault ≠ .verificationFailed) (flags : Flags)
    (checker checker' : SignatureChecker) (t : Token) (s r : Stack) :
    t.eval flags checker s = ⟨.error fault, r⟩ ↔ t.eval flags checker' s = ⟨.error fault, r⟩ := by
  have hyes : ∀ {op o p}, Operation.YesAndNo op o p → o ≠ ⟨.error fault, r⟩ ∧
      p ≠ ⟨.error fault, r⟩ := by
    rintro op _ _ (_ | _)
    · exact ⟨nofun, nofun⟩
    · refine ⟨nofun, fun h => ?_⟩
      cases h
      exact hfault rfl
  rcases eval_eq_or_differs flags checker checker' t s with heq | ⟨op, rfl, hdiff | hdiff⟩
  · rw [heq]
  · exact iff_of_false (hyes hdiff).1 (hyes hdiff).2
  · exact iff_of_false (hyes hdiff).2 (hyes hdiff).1

end Token

namespace Code

/-- **Two runs with two checkers** end in the same way, or they part at some
operation: until then each step of the one is a step of the other, and
there they differ in the answer. -/
theorem runTokens_eq_or_parts (flags : Flags) (checker checker' : SignatureChecker)
    (ts : List Token) (s : Stack) :
    runTokens flags checker ts s = runTokens flags checker' ts s ∨
      ∃ before op after left, ts = before ++ .operation op :: after ∧
        traceTokens flags checker before s = traceTokens flags checker' before s ∧
        runTokens flags checker before s = ⟨.ok (), left⟩ ∧
        runTokens flags checker' before s = ⟨.ok (), left⟩ ∧
        op.DiffersInAnswer (op.eval flags checker left) (op.eval flags checker' left) := by
  induction ts generalizing s with
  | nil => exact .inl rfl
  | cons t ts ih =>
    rcases t.eval_eq_or_differs flags checker checker' s with heq | ⟨op, rfl, hdiff⟩
    · -- The first step is common, and what follows starts on one stack.
      cases hstep : t.eval flags checker' s with
      | mk result left =>
        rw [hstep] at heq
        cases result with
        | error fault =>
          exact .inl (by rw [runTokens_cons_of_error heq, runTokens_cons_of_error hstep])
        | ok _ =>
          rcases ih left with hrest | ⟨before, op, after, r, rfl, htrace, hrun, hrun', hdiff⟩
          · exact .inl (by rw [runTokens_cons_of_ok heq, runTokens_cons_of_ok hstep, hrest])
          · refine .inr ⟨t :: before, op, after, r, rfl, ?_, ?_, ?_, hdiff⟩
            · simp only [traceTokens, heq, hstep, htrace]
            · rw [runTokens_cons_of_ok heq, hrun]
            · rw [runTokens_cons_of_ok hstep, hrun']
    · -- They part at once, with no step before.
      exact .inr ⟨[], op, ts, s, rfl, rfl, rfl, rfl, hdiff⟩

/-! ## Scripts that have no signature checked -/

/-- No operation of the script is one on signatures. -/
def IsUnsigned (c : Code) : Prop :=
  ∀ op, .operation op ∈ c.tokens → ¬ op.IsSignature

/-- **Such a script runs the same** under all flags and with all checkers. -/
theorem IsUnsigned.run_eq {c : Code} (h : c.IsUnsigned) (flags flags' : Flags)
    (checker checker' : SignatureChecker) (s : Stack) :
    c.run flags checker s = c.run flags' checker' s := by
  obtain ⟨ts⟩ := c
  simp only [run]
  induction ts generalizing s with
  | nil => rfl
  | cons t ts ih =>
    have hstep : t.eval flags checker s = t.eval flags' checker' s := by
      cases t with
      | push text => rfl
      | operation op =>
        exact Operation.eval_of_not_isSignature (h op List.mem_cons_self) _ _ _ _ s
      | unknown name => rfl
    have hrest : (Code.mk ts).IsUnsigned := fun op hop => h op (List.mem_cons_of_mem t hop)
    rw [runTokens, runTokens, hstep]
    congr 1
    funext _ left
    exact ih left hrest

end Code

/-- And a spend of such scripts has the same verdict, or the same error,
under flags that agree on the rule on pushes and on a clean stack. -/
theorem Spend.eval_of_isUnsigned {spend : Spend} (hunlock : spend.unlock.IsUnsigned)
    (hlock : spend.lock.IsUnsigned) {flags flags' : Flags}
    (hpush : flags.sigPushOnly = flags'.sigPushOnly) (hclean : flags.cleanStack = flags'.cleanStack)
    (checker checker' : SignatureChecker) :
    spend.eval flags checker = spend.eval flags' checker' := by
  have hfirst :
      spend.unlock.evalUnlock flags checker = spend.unlock.evalUnlock flags' checker' := by
    unfold Code.evalUnlock
    rw [hunlock.run_eq flags flags' checker checker']
  have hsecond : spend.lock.evalLock flags checker = spend.lock.evalLock flags' checker' := by
    funext s
    unfold Code.evalLock
    rw [hlock.run_eq flags flags' checker checker', hclean]
  unfold eval
  rw [hpush, hfirst, hsecond]

namespace Code

/-- **A checker can only say yes or no.** Two runs of a script from one
stack, with two checkers, end in the same way and leave the same stack, or
they part: up to some token each step of the one is a step of the other,
and both come to it with the same stack. It is an operation on signatures,
and they differ there in the answer alone, pushed or held to. Any failure
of a token but a failed verification is one with every checker. And a
script that has no signature checked runs the same with every checker and
under all flags; the verdict on a spend of two such scripts depends on the
rules on pushes and on a clean stack and on nothing else. -/
theorem checker_only_answers (flags : Flags) (checker checker' : SignatureChecker) (c : Code)
    (s : Stack) :
    (c.run flags checker s = c.run flags checker' s ∨
      ∃ before op after left, c.tokens = before ++ .operation op :: after ∧
        traceTokens flags checker before s = traceTokens flags checker' before s ∧
        runTokens flags checker before s = ⟨.ok (), left⟩ ∧
        runTokens flags checker' before s = ⟨.ok (), left⟩ ∧
        op.DiffersInAnswer (op.eval flags checker left) (op.eval flags checker' left)) ∧
      (∀ (t : Token) (left r : Stack) (fault : Fault), fault ≠ .verificationFailed →
        (t.eval flags checker left = ⟨.error fault, r⟩ ↔
          t.eval flags checker' left = ⟨.error fault, r⟩)) ∧
      (c.IsUnsigned → ∀ flags', c.run flags checker s = c.run flags' checker' s) ∧
      ∀ (spend : Spend) (flags' : Flags), spend.unlock.IsUnsigned → spend.lock.IsUnsigned →
        flags.sigPushOnly = flags'.sigPushOnly → flags.cleanStack = flags'.cleanStack →
        spend.eval flags checker = spend.eval flags' checker' :=
  ⟨runTokens_eq_or_parts flags checker checker' c.tokens s,
    fun t left r _ hfault => t.eval_eq_error_iff hfault flags checker checker' left r,
    fun h flags' => h.run_eq flags flags' checker checker' s,
    fun _ _ hunlock hlock hpush hclean =>
      Spend.eval_of_isUnsigned hunlock hlock hpush hclean checker checker'⟩

/-- A key that is no hexadecimal is a fault with the checker that says no,
and so it is with the one that says yes. A script that only doubles and
adds runs the same with both, and under all flags, and a spend that has it
for its lock has the same verdict. -/
theorem checker_only_answers_of_sum :
    let c : Code := ⟨[.operation .dup, .operation .add]⟩
    let fault : Fault := .invalidEncoding (.invalidCharacter 103 1)
    let spend : Spend := ⟨⟨[.push "2"]⟩, c⟩
    fault ≠ .verificationFailed ∧
      Token.eval .none .rejectAll (.operation .checkSig) [.literal "0g", .literal "00"] =
        ⟨.error fault, []⟩ ∧
      Token.eval .none (fun _ _ => true) (.operation .checkSig) [.literal "0g", .literal "00"] =
        ⟨.error fault, []⟩ ∧
      c.IsUnsigned ∧ spend.unlock.IsUnsigned ∧
      (∀ flags', c.run .none .rejectAll [.literal "2"] =
        c.run flags' (fun _ _ => true) [.literal "2"]) ∧
      spend.eval .none .rejectAll = spend.eval ⟨true, true, false, false⟩ fun _ _ => true := by
  intro c fault spend
  have hno : Token.eval .none .rejectAll (.operation .checkSig) [.literal "0g", .literal "00"] =
      ⟨.error fault, []⟩ := rfl
  have hlock : c.IsUnsigned := by
    intro op hop
    rcases List.mem_cons.mp hop with hop | hop
    · cases hop
      decide
    · cases List.mem_singleton.mp hop
      decide
  have hunlock : spend.unlock.IsUnsigned := fun _ hop => nomatch List.mem_singleton.mp hop
  obtain ⟨-, hfaults, hrun, hspend⟩ :=
    checker_only_answers .none .rejectAll (fun _ _ => true) c [.literal "2"]
  exact ⟨nofun, hno, (hfaults _ _ _ fault nofun).mp hno, hlock, hunlock, hrun hlock,
    hspend spend ⟨true, true, false, false⟩ hunlock hlock rfl rfl⟩

end Code

end SpendScript
