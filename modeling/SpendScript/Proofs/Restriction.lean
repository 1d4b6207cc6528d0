import SpendScript.Proofs.Success
import SpendScript.Spend
/-!
# Stricter flags

A flag is a rule, and a rule can only forbid. Under more flags whatever
runs ends exactly as it did under fewer, stack and all, or is stopped by
one of the rules that were added: `Narrows` relates the two ends. Decoding
a key or a signature has it, going on from one step to the next keeps it
(`Outcome.Narrows.andThen`), and so it holds of every operation, of every
run and of the verdict on a spend.
-/

namespace SpendScript

/-! ## Rules and what they raise -/

/-- Every flag of the one set is in the other. -/
theorem Flags.isSubset_iff {f g : Flags} :
    f.isSubset g = true ↔
      (f.strictEnc = true → g.strictEnc = true) ∧ (f.lowS = true → g.lowS = true) ∧
        (f.sigPushOnly = true → g.sigPushOnly = true) ∧
        (f.cleanStack = true → g.cleanStack = true) := by
  obtain ⟨strictEnc, lowS, sigPushOnly, cleanStack⟩ := f
  simp only [isSubset, Bool.and_eq_true, and_assoc]
  cases strictEnc <;> cases lowS <;> cases sigPushOnly <;> cases cleanStack <;> simp

/-- A fault raised by a rule that `g` has and `f` lacks. -/
inductive Fault.RaisedBy (f g : Flags) : Fault → Prop
  /-- A key is in an encoding that strict decoding refuses. -/
  | keyForm : g.strictEnc = true → f.strictEnc = false →
      RaisedBy f g (.malformedCredential .keyForm)
  /-- A signature is high. -/
  | highS : g.lowS = true → f.lowS = false → RaisedBy f g (.malformedCredential .highS)

/-- An error raised by a rule that `g` has and `f` lacks. -/
inductive ScriptError.RaisedBy (f g : Flags) : ScriptError → Prop
  /-- A token meets with a rule on keys or signatures. -/
  | interpreter {fault : Fault} (t : Token) : fault.RaisedBy f g →
      RaisedBy f g (.interpreter (some t) fault)
  /-- The unlock script does more than push. -/
  | sigPushOnly : g.sigPushOnly = true → f.sigPushOnly = false → RaisedBy f g .sigPushOnly
  /-- More than the result is left. -/
  | cleanStack (size : Nat) : g.cleanStack = true → f.cleanStack = false →
      RaisedBy f g (.cleanStack size)

/-! ## The same end, or a refusal -/

section Narrows

variable {ε ε' α β : Type} {P : ε → Prop} {Q : ε' → Prop}

/-- `y` is the result `x`, or an error of the kind `P` in its place. -/
def Narrows (P : ε → Prop) (x y : Except ε α) : Prop :=
  y = x ∨ ∃ e, y = .error e ∧ P e

/-- `p` is the outcome `o`, or an error of the kind `P` in its place, where
the stack may be another. -/
def Outcome.Narrows (P : ε → Prop) (o p : Outcome ε α) : Prop :=
  p = o ∨ ∃ e, p.result = .error e ∧ P e

/-- Changing what is said of errors keeps it, as far as it keeps the kind. -/
theorem Narrows.mapError {x y : Except ε α} {tell : ε → ε'} (h : Narrows P x y)
    (hkind : ∀ e, P e → Q (tell e)) : Narrows Q (x.mapError tell) (y.mapError tell) := by
  rcases h with rfl | ⟨e, rfl, he⟩
  · exact .inl rfl
  · exact .inr ⟨tell e, rfl, hkind e he⟩

/-- A result that narrows another narrows it on every stack. -/
theorem Narrows.outcome {x y : Except ε α} (h : Narrows P x y) (s : Stack) :
    Outcome.Narrows P ⟨x, s⟩ ⟨y, s⟩ := by
  rcases h with rfl | ⟨e, rfl, he⟩
  · exact .inl rfl
  · exact .inr ⟨e, rfl, he⟩

namespace Outcome.Narrows

theorem refl (o : Outcome ε α) : o.Narrows P o :=
  .inl rfl

/-- **Going on keeps it.** A refusal is the end, and without one the next
step starts from the same value and the same stack. -/
theorem andThen {o p : Outcome ε α} {next next' : α → Stack → Outcome ε β} (h : o.Narrows P p)
    (hnext : ∀ a s, (next a s).Narrows P (next' a s)) :
    (o.andThen next).Narrows P (p.andThen next') := by
  rcases h with rfl | ⟨e, hp, he⟩
  · obtain ⟨result, s⟩ := p
    cases result with
    | ok a => exact hnext a s
    | error e => exact .inl rfl
  · obtain ⟨result, s⟩ := p
    cases hp
    exact .inr ⟨e, rfl, he⟩

theorem mapError {o p : Outcome ε α} {tell : ε → ε'} (h : o.Narrows P p)
    (hkind : ∀ e, P e → Q (tell e)) : (o.mapError tell).Narrows Q (p.mapError tell) := by
  rcases h with rfl | ⟨e, hp, he⟩
  · exact .inl rfl
  · refine .inr ⟨tell e, ?_, hkind e he⟩
    rw [Outcome.mapError, hp]
    rfl

theorem pushBool {o p : Outcome ε Bool} (h : o.Narrows P p) : o.pushBool.Narrows P p.pushBool :=
  h.andThen fun _ _ => refl _

/-- A success is never in place of another end. -/
theorem eq_of_ok {o p : Outcome ε α} (h : o.Narrows P p) {a : α} {s : Stack}
    (hp : p = ⟨.ok a, s⟩) : o = ⟨.ok a, s⟩ := by
  subst hp
  rcases h with heq | ⟨e, he, -⟩
  · exact heq.symm
  · cases he

end Outcome.Narrows

end Narrows

/-! ## Decoding -/

variable {f g : Flags} {checker : SignatureChecker}

/-- Strict decoding of a key adds a refusal and changes nothing else. -/
theorem PublicKey.decode_true_eq_or (b : Bytes) :
    decode true b = decode false b ∨ decode true b = .error .keyForm := by
  unfold decode
  cases isPlain b with
  | true => exact .inl rfl
  | false => exact .inr rfl

/-- And so does asking for a low signature. -/
theorem Signature.decode_true_eq_or (b : Bytes) :
    decode true b = decode false b ∨ decode true b = .error .highS := by
  unfold decode
  cases ofDer? b with
  | none => exact .inl rfl
  | some sig =>
    cases hlow : sig.isLow with
    | true => simp [hlow]
    | false => simp [hlow]

/-- A decoder that a flag makes refuse more, under a flag that may be set
in the second place only. -/
theorem narrows_decode {α : Type} {P : CredentialError → Prop} {refusal : CredentialError}
    {decode : Bool → Bytes → Except CredentialError α}
    (hdecode : ∀ b, decode true b = decode false b ∨ decode true b = .error refusal) {x y : Bool}
    (hsub : x = true → y = true) (hkind : y = true → x = false → P refusal) (b : Bytes) :
    Narrows P (decode x b) (decode y b) := by
  cases x with
  | true =>
    rw [hsub rfl]
    exact .inl rfl
  | false =>
    cases y with
    | false => exact .inl rfl
    | true =>
      rcases hdecode b with heq | hrefused
      · exact .inl heq
      · exact .inr ⟨refusal, hrefused, hkind rfl rfl⟩

namespace Value

/-- What refuses more bytes refuses more elements. -/
theorem narrows_toCredential {α : Type} {P : Fault → Prop}
    {decode decode' : Bytes → Except CredentialError α}
    (h : ∀ b, Narrows (fun e => P (.malformedCredential e)) (decode b) (decode' b)) (v : Value) :
    Narrows P (v.toCredential decode) (v.toCredential decode') := by
  unfold toCredential
  cases v.toBytes with
  | error e => exact .inl rfl
  | ok b => exact (h b).mapError fun e he => he

theorem narrows_toKey (h : f.isSubset g = true) :
    ∀ v : Value, Narrows (Fault.RaisedBy f g) (v.toKey f) (v.toKey g) :=
  narrows_toCredential
    (narrows_decode PublicKey.decode_true_eq_or (Flags.isSubset_iff.mp h).1 .keyForm)

theorem narrows_toSignature (h : f.isSubset g = true) :
    ∀ v : Value, Narrows (Fault.RaisedBy f g) (v.toSignature f) (v.toSignature g) :=
  narrows_toCredential
    (narrows_decode Signature.decode_true_eq_or (Flags.isSubset_iff.mp h).2.1 .highS)

end Value

/-! ## Operations and runs -/

namespace Operation

open Outcome (Narrows)

/-- One signature and one key: whichever is refused first ends it. -/
theorem narrows_checkOne (h : f.isSubset g = true) (sig key : Value) :
    SpendScript.Narrows (Fault.RaisedBy f g) (checkOne f checker sig key)
      (checkOne g checker sig key) := by
  unfold checkOne
  rcases Value.narrows_toKey h key with hkey | ⟨e, hkey, he⟩
  · rw [hkey]
    cases key.toKey f with
    | error e => exact .inl rfl
    | ok k =>
      rcases Value.narrows_toSignature h sig with hsig | ⟨e, hsig, he⟩
      · rw [hsig]
        exact .inl rfl
      · rw [hsig]
        exact .inr ⟨e, rfl, he⟩
  · rw [hkey]
    exact .inr ⟨e, rfl, he⟩

/-- A loop goes on as long as no element is refused. -/
theorem narrows_popDecoded {α : Type} {P : Fault → Prop} {decode decode' : Value → Except Fault α}
    (h : ∀ v, SpendScript.Narrows P (decode v) (decode' v)) (count : Nat) (s : Stack) :
    (popDecoded decode count s).Narrows P (popDecoded decode' count s) := by
  induction count generalizing s with
  | zero => exact .refl _
  | succ count ih =>
    refine (Narrows.refl s.pop).andThen fun v s => ?_
    rcases h v with hv | ⟨e, hv, he⟩
    · rw [hv]
      cases decode v with
      | error e => exact .refl _
      | ok a => exact (ih s).andThen fun _ _ => .refl _
    · rw [hv]
      exact .inr ⟨e, rfl, he⟩

theorem narrows_popCounted {α : Type} {P : Fault → Prop} (negative : Int64 → Fault)
    {decode decode' : Value → Except Fault α}
    (h : ∀ v, SpendScript.Narrows P (decode v) (decode' v)) (s : Stack) :
    (popCounted negative decode s).Narrows P (popCounted negative decode' s) := by
  refine (Narrows.refl s.popNum).andThen fun n s => ?_
  by_cases hneg : n < 0
  · simp only [if_pos hneg]
    exact .refl _
  · simp only [if_neg hneg]
    cases s.require n.toInt.toNat with
    | error e => exact .refl _
    | ok _ => exact narrows_popDecoded h _ s

theorem narrows_checkMany (h : f.isSubset g = true) (s : Stack) :
    (checkMany f checker s).Narrows (Fault.RaisedBy f g) (checkMany g checker s) :=
  (narrows_popCounted _ (Value.narrows_toKey h) s).andThen fun _ s =>
    (narrows_popCounted _ (Value.narrows_toSignature h) s).andThen fun _ _ => .refl _

/-- Two elements, and what is made of them. -/
theorem narrows_consumeTwo {α : Type} {P : Fault → Prop}
    {read read' : Value → Value → Except Fault α}
    (h : ∀ v w, SpendScript.Narrows P (read v w) (read' v w)) (s : Stack) :
    (s.consumeTwo read).Narrows P (s.consumeTwo read') := by
  match s with
  | [] => exact .refl _
  | [w] => exact .refl _
  | w :: v :: s => exact (h v w).outcome s

/-- **An operation under more flags** does the same or is refused. Only
those on signatures look at the flags at all. -/
theorem narrows_eval (h : f.isSubset g = true) (op : Operation) (s : Stack) :
    (op.eval f checker s).Narrows (Fault.RaisedBy f g) (op.eval g checker s) := by
  cases op with
  | checkSig => exact (narrows_consumeTwo (narrows_checkOne h) s).pushBool
  | checkSigVerify => exact (narrows_consumeTwo (narrows_checkOne h) s).andThen fun _ _ => .refl _
  | checkMultisig => exact (narrows_checkMany h s).pushBool
  | checkMultisigVerify => exact (narrows_checkMany h s).andThen fun _ _ => .refl _
  | _ => exact .refl _

end Operation

theorem Token.narrows_eval (h : f.isSubset g = true) (t : Token) (s : Stack) :
    (t.eval f checker s).Narrows (Fault.RaisedBy f g) (t.eval g checker s) := by
  cases t with
  | push text => exact .refl _
  | operation op => exact op.narrows_eval h s
  | unknown name => exact .refl _

namespace Code

/-- **A run under more flags** ends in the same way with the same stack, or
is refused at some token. -/
theorem narrows_runTokens (h : f.isSubset g = true) (checker : SignatureChecker)
    (ts : List Token) (s : Stack) :
    (runTokens f checker ts s).Narrows (ScriptError.RaisedBy f g) (runTokens g checker ts s) := by
  induction ts generalizing s with
  | nil => exact .refl _
  | cons t ts ih =>
    refine ((t.narrows_eval h s).mapError fun e he => ?_).andThen fun _ s => ih s
    exact .interpreter t he

/-! ## Spends -/

theorem narrows_evalUnlock (h : f.isSubset g = true) (checker : SignatureChecker) (u : Code) :
    Narrows (ScriptError.RaisedBy f g) (u.evalUnlock f checker) (u.evalUnlock g checker) := by
  unfold evalUnlock run
  rcases narrows_runTokens h checker u.tokens [] with heq | ⟨e, hrun, he⟩
  · rw [heq]
    exact .inl rfl
  · refine .inr ⟨e, ?_, he⟩
    simp only [hrun]

/-- The final stack is looked at in the same way, but for the rule that it
be clean. -/
theorem narrows_evalLock (h : f.isSubset g = true) (checker : SignatureChecker) (l : Code)
    (s : Stack) :
    Narrows (ScriptError.RaisedBy f g) (l.evalLock f checker s) (l.evalLock g checker s) := by
  unfold evalLock run
  rcases narrows_runTokens h checker l.tokens s with heq | ⟨e, hrun, he⟩
  · rw [heq]
    obtain ⟨result, left⟩ := runTokens f checker l.tokens s
    cases result with
    | error e => exact .inl rfl
    | ok a =>
      cases left with
      | nil => exact .inl rfl
      | cons v rest =>
        have hsub := (Flags.isSubset_iff.mp h).2.2.2
        cases hf : f.cleanStack with
        | true =>
          rw [hsub hf]
          exact .inl rfl
        | false =>
          cases hg : g.cleanStack with
          | false => exact .inl rfl
          | true =>
            -- The added rule speaks up only where the verdict would be yes and more is left.
            simp only [Bool.true_and, Bool.false_and, Bool.false_eq_true, if_false]
            split
            · exact .inl rfl
            · split
              · exact .inr ⟨_, rfl, .cleanStack _ hg hf⟩
              · exact .inl rfl
  · refine .inr ⟨e, ?_, he⟩
    simp only [hrun]

end Code

namespace Spend

/-- **A spend under more flags** has the same verdict or the same error, or
one of the added rules refuses it. -/
theorem narrows_eval (h : f.isSubset g = true) (checker : SignatureChecker) (spend : Spend) :
    Narrows (fun e : Component × ScriptError => e.2.RaisedBy f g) (spend.eval f checker)
      (spend.eval g checker) := by
  have hsub := (Flags.isSubset_iff.mp h).2.2.1
  unfold eval
  by_cases hg : (g.sigPushOnly && !spend.unlock.isPushOnly) = true
  · rw [if_pos hg]
    rw [Bool.and_eq_true] at hg
    cases hf : f.sigPushOnly with
    | true =>
      rw [hg.2]
      exact .inl rfl
    | false => exact .inr ⟨_, rfl, .sigPushOnly hg.1 hf⟩
  · have hf : ¬ (f.sigPushOnly && !spend.unlock.isPushOnly) = true := by
      rw [Bool.and_eq_true] at hg ⊢
      exact fun htest => hg ⟨hsub htest.1, htest.2⟩
    rw [if_neg hg, if_neg hf]
    rcases Code.narrows_evalUnlock h checker spend.unlock with heq | ⟨e, hunlock, he⟩
    · rw [heq]
      cases spend.unlock.evalUnlock f checker with
      | error e => exact .inl rfl
      | ok s => exact (Code.narrows_evalLock h checker spend.lock s).mapError fun e he => he
    · rw [hunlock]
      exact .inr ⟨_, rfl, he⟩

/-- **Flags only restrict.** Let every flag of `f` be in `g`. A verdict
under `g` is the verdict under `f`, and a run that succeeds under `g`
succeeds under `f` with the same stack. And where a verdict under `f` is
none under `g`, it is an error that a rule raises which `g` has and `f`
lacks: the rule on pushes, the one on a clean stack, the one on encodings
of keys, or the one on low signatures. -/
theorem flags_only_restrict (f g : Flags) (h : f.isSubset g = true) (checker : SignatureChecker) :
    (∀ (spend : Spend) (b : Bool), spend.eval g checker = .ok b → spend.eval f checker = .ok b) ∧
      (∀ (c : Code) (s t : Stack), c.run g checker s = ⟨.ok (), t⟩ →
        c.run f checker s = ⟨.ok (), t⟩) ∧
      ∀ (spend : Spend) (b : Bool), spend.eval f checker = .ok b → spend.eval g checker ≠ .ok b →
        ∃ component e, spend.eval g checker = .error (component, e) ∧ e.RaisedBy f g := by
  refine ⟨fun spend b hg => ?_, fun c s t hg => ?_, fun spend b hf hg => ?_⟩
  · rcases narrows_eval h checker spend with heq | ⟨e, he, -⟩
    · rw [← heq, hg]
    · rw [hg] at he
      cases he
  · exact (Code.narrows_runTokens h checker c.tokens s).eq_of_ok hg
  · rcases narrows_eval h checker spend with heq | ⟨⟨component, e⟩, he, hraised⟩
    · exact absurd (heq.trans hf) hg
    · exact ⟨component, e, he, hraised⟩

/-- An unlock script that doubles what it pushes opens its lock, as long
as nobody minds the doubling. -/
theorem flags_only_restrict_of_doubling :
    let spend : Spend := ⟨⟨[.push "1", .operation .dup]⟩, ⟨[.operation .equal]⟩⟩
    Flags.standard.isSubset ⟨true, true, true, true⟩ = true ∧
      spend.eval .standard .rejectAll = .ok true ∧
      spend.eval ⟨true, true, true, true⟩ .rejectAll ≠ .ok true ∧
      ∃ component e, spend.eval ⟨true, true, true, true⟩ .rejectAll = .error (component, e) ∧
        e.RaisedBy .standard ⟨true, true, true, true⟩ := by
  intro spend
  have hsub : Flags.standard.isSubset ⟨true, true, true, true⟩ = true := rfl
  have hyes : spend.eval .standard .rejectAll = .ok true := rfl
  have hrefused : spend.eval ⟨true, true, true, true⟩ .rejectAll ≠ .ok true := nofun
  exact ⟨hsub, hyes, hrefused,
    (flags_only_restrict .standard _ hsub .rejectAll).2.2 spend true hyes hrefused⟩

end Spend

end SpendScript
