import SpendScript.Proofs.TextMachine
import SpendScript.Proofs.Value
import SpendScript.Spend
/-!
# Textual parity

The machine on elements, seen through the texts of its stack, is the
machine on texts. One law for each way an operation takes elements off
(`forget_consumeOne`, `forget_consumeTwo`, `forget_popCounted`) carries
this to every operation (`forget_eval`), and an induction on the tokens to
every run (`forget_runTokens`). So two stacks that are shown alike have
the same run: the same result or the same error, and stacks that are shown
alike again, where the run ended or where it stopped.
-/

namespace SpendScript

variable {flags : Flags} {checker : SignatureChecker}

/-- What of an outcome can be read: its result and the texts it left. -/
def Outcome.forget {ε α : Type} (o : Outcome ε α) : TextOutcome ε α :=
  ⟨o.result, o.stack.map Value.text⟩

namespace TextMachine

/-! ## Readings -/

/-- A truth value is written as the reference writes it. -/
theorem text_ofBool_eq_truth (b : Bool) : (Value.ofBool b).text = truth b :=
  Value.text_ofBool b

/-- The key or the signature in an element is the one its text writes. -/
theorem toCredential_eq_readCredential {α : Type} (decode : Bytes → Except CredentialError α)
    (v : Value) : v.toCredential decode = readCredential decode v.text := by
  rw [Value.toCredential, Value.toBytes_eq_decode_text, readCredential, readBytes]
  cases Hex.decode v.text with
  | ok b => rfl
  | error e => rfl

/-- A number that fits has the decimal text of the integer. -/
theorem map_text_number (i : Int) :
    (Operation.number i).map (fun v => [v.text]) =
      if Numeral.InRange i then .ok [String.ofList (Numeral.decimal i)] else .error .overflow := by
  unfold Operation.number Numeral.fit?
  by_cases hi : Numeral.InRange i
  · simp only [if_pos hi, Except.map, Value.text, Numeral.render,
      Numeral.toInt_ofInt_of_inRange hi]
  · simp only [if_neg hi, Except.map]

/-- Arithmetic on elements is arithmetic on their texts. -/
theorem map_text_arithmetic (f : Int → Int → Int) (v w : Value) :
    (Operation.arithmetic f v w).map (fun x => [x.text]) = compute f v.text w.text := by
  rw [Operation.arithmetic, compute, readNumber, readNumber, Value.toNum_eq_parse_text,
    Value.toNum_eq_parse_text]
  cases Numeral.parse w.text with
  | error e => rfl
  | ok n =>
    cases Numeral.parse v.text with
    | error e => rfl
    | ok m => exact map_text_number (f m.toInt n.toInt)

/-- A digest of an element is the digest of its text. -/
theorem map_text_digest (hash : Bytes → Bytes) (v : Value) :
    (Operation.digest hash v).map (fun x => [x.text]) = hashed hash v.text := by
  rw [Operation.digest, Value.toBytes_eq_decode_text, hashed, readBytes]
  cases Hex.decode v.text with
  | error e => rfl
  | ok b => rfl

/-- Checking a signature reads both elements through their texts. -/
theorem checkOne_eq_checked (sig key : Value) :
    Operation.checkOne flags checker sig key = checked flags checker sig.text key.text := by
  rw [Operation.checkOne, checked, Value.toKey, Value.toSignature, toCredential_eq_readCredential,
    toCredential_eq_readCredential, readKey, readSignature]
  cases readCredential (PublicKey.decode flags.strictEnc) key.text with
  | error e => rfl
  | ok k =>
    cases readCredential (Signature.decode flags.lowS) sig.text with
    | error e => rfl
    | ok d => rfl

/-! ## Taking elements off -/

/-- A computed element is pushed as its text. -/
theorem forget_push (r : Except Fault Value) (s : Stack) :
    (Outcome.push ⟨r, s⟩).forget = leave (r.map fun v => [v.text]) (s.map Value.text) := by
  cases r with
  | ok v => rfl
  | error e => rfl

/-- A truth value is pushed as its text. -/
theorem forget_pushBool (r : Except Fault Bool) (s : Stack) :
    (Outcome.pushBool ⟨r, s⟩).forget = leave (r.map fun b => [truth b]) (s.map Value.text) := by
  cases r with
  | ok b =>
    simp only [Outcome.pushBool, Outcome.andThen_ok, Outcome.forget, List.map_cons,
      text_ofBool_eq_truth, Except.map, leave, List.cons_append, List.nil_append]
  | error e => rfl

/-- A verified answer pushes nothing. -/
theorem forget_ensure (b : Bool) (s : Stack) :
    Outcome.forget ⟨Operation.ensure b, s⟩ = leave (verified b) (s.map Value.text) := by
  cases b with
  | false => rfl
  | true => rfl

/-- Verifying a computed answer. -/
theorem forget_andThen_ensure (r : Except Fault Bool) (s : Stack) :
    (Outcome.andThen ⟨r, s⟩ fun b s => ⟨Operation.ensure b, s⟩).forget =
      leave (r >>= verified) (s.map Value.text) := by
  cases r with
  | ok b => exact forget_ensure b s
  | error e => rfl

/-- **Operations on one element.** `finish` is what is done with the value
computed from it; a failure it leaves alone. -/
theorem forget_consumeOne {α : Type} {f : Value → Except Fault α}
    {g : String → Except Fault (List String)} (finish : Outcome Fault α → Outcome Fault Unit)
    (hfail : ∀ e s, finish ⟨.error e, s⟩ = ⟨.error e, s⟩)
    (h : ∀ v s, (finish ⟨f v, s⟩).forget = leave (g v.text) (s.map Value.text)) (s : Stack) :
    (finish (s.consumeOne f)).forget = onOne g (s.map Value.text) := by
  cases s with
  | nil =>
    rw [Stack.consumeOne, hfail]
    rfl
  | cons v s => exact h v s

/-- **And on two.** -/
theorem forget_consumeTwo {α : Type} {f : Value → Value → Except Fault α}
    {g : String → String → Except Fault (List String)}
    (finish : Outcome Fault α → Outcome Fault Unit)
    (hfail : ∀ e s, finish ⟨.error e, s⟩ = ⟨.error e, s⟩)
    (h : ∀ v w s, (finish ⟨f v w, s⟩).forget = leave (g v.text w.text) (s.map Value.text))
    (s : Stack) : (finish (s.consumeTwo f)).forget = onTwo g (s.map Value.text) := by
  match s with
  | [] =>
    rw [Stack.consumeTwo, hfail]
    · rfl
    · simp
  | [v] =>
    rw [Stack.consumeTwo, hfail]
    · rfl
    · simp
  | w :: v :: s => exact h v w s

/-- A hash replaces a text by the digest's. -/
theorem forget_digest (hash : Bytes → Bytes) (s : Stack) :
    (s.consumeOne (Operation.digest hash)).push.forget = onOne (hashed hash) (s.map Value.text) :=
  forget_consumeOne Outcome.push (fun _ _ => rfl)
    (fun v s => by rw [forget_push, map_text_digest]) s

/-- Going on from an outcome reads it through its texts, if what follows
does. -/
theorem forget_andThen {ε α β : Type} {o : Outcome ε α} {p : TextOutcome ε α}
    {next : α → Stack → Outcome ε β} {next' : α → List String → TextOutcome ε β}
    (ho : o.forget = p) (h : ∀ a s, (next a s).forget = next' a (s.map Value.text)) :
    (o.andThen next).forget = p.andThen next' := by
  subst ho
  obtain ⟨result, s⟩ := o
  cases result with
  | ok a => exact h a s
  | error e => rfl

/-- Elements taken off one by one are read through their texts. -/
theorem forget_popDecoded {α : Type} {decode : Value → Except Fault α}
    {read : String → Except Fault α} (h : ∀ v, decode v = read v.text) (count : Nat)
    (s : Stack) :
    (Operation.popDecoded decode count s).forget = readEach read count (s.map Value.text) := by
  induction count generalizing s with
  | zero => rfl
  | succ count ih =>
    cases s with
    | nil => rfl
    | cons v s =>
      rw [Operation.popDecoded, Stack.pop, Outcome.andThen_ok, h v, List.map_cons, readEach]
      cases read v.text with
      | error e => rfl
      | ok a => exact forget_andThen (ih s) fun _ _ => rfl

/-- And so are as many as a count says. -/
theorem forget_popCounted {α : Type} {negative : Int64 → Fault}
    {decode : Value → Except Fault α} {read : String → Except Fault α}
    (h : ∀ v, decode v = read v.text) (s : Stack) :
    (Operation.popCounted negative decode s).forget =
      readCounted negative read (s.map Value.text) := by
  cases s with
  | nil => rfl
  | cons v s =>
    rw [Operation.popCounted, List.map_cons, readCounted, ← Value.toNum_eq_parse_text]
    cases hnum : v.toNum with
    | error e =>
      rw [Stack.popNum_of_toNum_eq_error hnum]
      rfl
    | ok n =>
      rw [Stack.popNum_of_toNum_eq_ok hnum]
      simp only [Outcome.andThen_ok, Int64.lt_iff_toInt_lt, Int64.toInt_zero, List.length_map]
      by_cases hneg : n.toInt < 0
      · rw [if_pos hneg, if_pos hneg]
        rfl
      · rw [if_neg hneg, if_neg hneg, Stack.require]
        by_cases hlen : n.toInt.toNat ≤ s.length
        · rw [if_pos hlen, if_neg (by omega)]
          exact forget_popDecoded h n.toInt.toNat s
        · rw [if_neg hlen, if_pos (by omega)]
          rfl

/-- Checking many signatures reads every element through its text. -/
theorem forget_checkMany (s : Stack) :
    (Operation.checkMany flags checker s).forget = checkedMany flags checker (s.map Value.text) :=
  forget_andThen (forget_popCounted (toCredential_eq_readCredential _) s) fun _ s =>
    forget_andThen (forget_popCounted (toCredential_eq_readCredential _) s) fun _ _ => rfl

/-! ## Operations, tokens and runs -/

/-- **An operation, seen through texts, is the operation on texts.** -/
theorem forget_eval (op : Operation) (s : Stack) :
    (op.eval flags checker s).forget = step flags checker op (s.map Value.text) := by
  cases op with
  | pushFalse => rfl
  | pushTrue => rfl
  | verify =>
    refine forget_consumeOne id (fun _ _ => rfl) (fun v s => ?_) s
    exact forget_ensure (v.text == "1") s
  | halt => rfl
  | drop => cases s <;> rfl
  | dup => cases s <;> rfl
  | equal =>
    refine forget_consumeTwo Outcome.pushBool (fun _ _ => rfl) (fun v w s => ?_) s
    rw [forget_pushBool, Value.equal_eq_beq_text]
    rfl
  | equalVerify =>
    refine forget_consumeTwo id (fun _ _ => rfl) (fun v w s => ?_) s
    rw [Value.equal_eq_beq_text]
    exact forget_ensure (v.text == w.text) s
  | not =>
    exact forget_consumeOne Outcome.pushBool (fun _ _ => rfl) (fun v s => forget_pushBool _ s) s
  | add =>
    refine forget_consumeTwo Outcome.push (fun _ _ => rfl) (fun v w s => ?_) s
    rw [forget_push, map_text_arithmetic]
  | sub =>
    refine forget_consumeTwo Outcome.push (fun _ _ => rfl) (fun v w s => ?_) s
    rw [forget_push, map_text_arithmetic]
  | boolAnd =>
    exact forget_consumeTwo Outcome.pushBool (fun _ _ => rfl) (fun v w s => forget_pushBool _ s) s
  | boolOr =>
    exact forget_consumeTwo Outcome.pushBool (fun _ _ => rfl) (fun v w s => forget_pushBool _ s) s
  | ripemd160 => exact forget_digest Hash.ripemd160 s
  | sha1 => exact forget_digest Hash.sha1 s
  | sha256 => exact forget_digest Hash.sha256 s
  | hash160 => exact forget_digest (Hash.ripemd160 ∘ Hash.sha256) s
  | hash256 => exact forget_digest (Hash.sha256 ∘ Hash.sha256) s
  | checkSig =>
    refine forget_consumeTwo Outcome.pushBool (fun _ _ => rfl) (fun v w s => ?_) s
    rw [forget_pushBool, checkOne_eq_checked]
  | checkSigVerify =>
    refine forget_consumeTwo (fun o => o.andThen fun b s => ⟨Operation.ensure b, s⟩)
      (fun _ _ => rfl) (fun v w s => ?_) s
    rw [forget_andThen_ensure, checkOne_eq_checked]
  | checkMultisig => exact forget_andThen (forget_checkMany s) fun b s => forget_pushBool (.ok b) s
  | checkMultisigVerify => exact forget_andThen (forget_checkMany s) forget_ensure

/-- And so is a token. -/
theorem forget_evalToken (t : Token) (s : Stack) :
    (t.eval flags checker s).forget = stepToken flags checker t (s.map Value.text) := by
  cases t with
  | push text => rfl
  | operation op => exact forget_eval op s
  | unknown name => rfl

/-- **A run, seen through texts, is the run on texts.** -/
theorem forget_runTokens (ts : List Token) (s : Stack) :
    (Code.runTokens flags checker ts s).forget = run flags checker ts (s.map Value.text) := by
  induction ts generalizing s with
  | nil => rfl
  | cons t ts ih =>
    -- After the first token both machines stop together, or go on with the same texts.
    rw [Code.runTokens, run, ← forget_evalToken]
    obtain ⟨result, rest⟩ := t.eval flags checker s
    cases result with
    | ok a => exact ih rest
    | error e => rfl

/-- A lock script's verdict is the verdict on the texts it left. -/
theorem evalLock_eq_verdict (c : Code) (s : Stack) :
    c.evalLock flags checker s =
      verdict flags (run flags checker c.tokens (s.map Value.text)) := by
  rw [← forget_runTokens]
  unfold Code.evalLock Code.run verdict Outcome.forget
  obtain ⟨result, rest⟩ := Code.runTokens flags checker c.tokens s
  cases result with
  | error e => rfl
  | ok a =>
    cases rest with
    | nil => rfl
    | cons v rest =>
      simp only [List.map_cons, Value.isFalse, beq_iff_eq, List.isEmpty_map, List.length_map]

end TextMachine

/-- **A run cannot tell elements with the same texts apart.** Seen through
texts it is the run on texts, and its verdict is the verdict there. So on
two stacks that are shown alike a script ends in the same way, with the
same error if it fails, leaves stacks that are shown alike, whether it
fails or not, and has the same verdict as a lock. -/
theorem Code.run_textual_parity (flags : Flags) (checker : SignatureChecker) (c : Code) :
    (∀ s : Stack,
      (c.run flags checker s).forget = TextMachine.run flags checker c.tokens (s.map Value.text) ∧
        c.evalLock flags checker s =
          TextMachine.verdict flags
            (TextMachine.run flags checker c.tokens (s.map Value.text))) ∧
      ∀ s t : Stack, s.snapshot = t.snapshot →
        (c.run flags checker s).result = (c.run flags checker t).result ∧
          (c.run flags checker s).stack.snapshot = (c.run flags checker t).stack.snapshot ∧
          c.evalLock flags checker s = c.evalLock flags checker t := by
  refine ⟨fun s => ⟨TextMachine.forget_runTokens c.tokens s, TextMachine.evalLock_eq_verdict c s⟩,
    fun s t h => ?_⟩
  have htexts : s.map Value.text = t.map Value.text := Stack.snapshot_eq_iff.mp h
  have hrun : (c.run flags checker s).forget = (c.run flags checker t).forget := by
    rw [Code.run, Code.run, TextMachine.forget_runTokens, TextMachine.forget_runTokens, htexts]
  refine ⟨congrArg TextOutcome.result hrun, ?_, ?_⟩
  · exact Stack.snapshot_eq_iff.mpr (congrArg TextOutcome.texts hrun)
  · rw [TextMachine.evalLock_eq_verdict, TextMachine.evalLock_eq_verdict, htexts]

/-- A number and bytes against the texts that they write, in a script that
fails half way and so decides nothing. -/
theorem Code.run_textual_parity_mixed :
    Stack.snapshot [.num 12, .bytes [0xab]] = Stack.snapshot [.literal "12", .literal "ab"] ∧
      ((Code.mk [.operation .dup, .operation .add, .operation .sub]).run .none .rejectAll
          [.num 12, .bytes [0xab]]).result =
        ((Code.mk [.operation .dup, .operation .add, .operation .sub]).run .none .rejectAll
          [.literal "12", .literal "ab"]).result ∧
      ((Code.mk [.operation .dup, .operation .add, .operation .sub]).run .none .rejectAll
          [.num 12, .bytes [0xab]]).stack.snapshot =
        ((Code.mk [.operation .dup, .operation .add, .operation .sub]).run .none .rejectAll
          [.literal "12", .literal "ab"]).stack.snapshot ∧
      (Code.mk [.operation .dup, .operation .add, .operation .sub]).evalLock .none .rejectAll
          [.num 12, .bytes [0xab]] =
        (Code.mk [.operation .dup, .operation .add, .operation .sub]).evalLock .none .rejectAll
          [.literal "12", .literal "ab"] :=
  ⟨by decide, (Code.run_textual_parity .none .rejectAll _).2 _ _ (by decide)⟩

end SpendScript
