import SpendScript.Proofs.Analysis
/-!
# What an error tells

An evaluation ends with an error for one of five reasons, and `EndsWith`
has one case for each, with all that it takes. It is exact
(`eval_eq_error_iff`), so whatever an error tells is read off a case: in
which of the two scripts it can arise, which flag has to be set for it,
and of a token that failed that it stands in that script, that all tokens
before it succeeded, and that the fault is one that such a token raises.

Three faults tell more. An unknown name, a halt and a failed verification
each come from tokens of one kind and from no others.
-/

namespace SpendScript

variable {flags : Flags} {checker : SignatureChecker}

/-! ## The faults of a token -/

namespace Operation

/-- It holds a script to an answer. -/
def IsVerifying (op : Operation) : Prop :=
  op = .verify ∨ op = .equalVerify ∨ op = .checkSigVerify ∨ op = .checkMultisigVerify

/-- Where nothing is wrong with the elements of the stack, an operation
fails because it halts or because it verifies. -/
theorem raises_iff_of_sound_elements (op : Operation) (fault : Fault)
    (hunderflow : ¬ fault.IsUnderflow) (harithmetic : ¬ fault.OfArithmetic)
    (hcredential : ¬ fault.OfCredential) (hcount : ¬ fault.OfCount) :
    op.Raises fault ↔
      op = .halt ∧ fault = .intentionalHalt ∨ op.IsVerifying ∧ fault = .verificationFailed := by
  have hencoding : ∀ cause, fault ≠ .invalidEncoding cause := by
    rintro cause rfl
    exact hcredential (.invalidEncoding cause)
  cases op <;> simp [Raises, IsVerifying, hunderflow, harithmetic, hcredential, hcount, hencoding]

/-- **One operation halts.** -/
theorem raises_intentionalHalt_iff {op : Operation} :
    op.Raises .intentionalHalt ↔ op = .halt :=
  (raises_iff_of_sound_elements op .intentionalHalt nofun nofun nofun nofun).trans (by simp)

/-- **Four operations find that what they were to verify is not so.** -/
theorem raises_verificationFailed_iff {op : Operation} :
    op.Raises .verificationFailed ↔ op.IsVerifying :=
  (raises_iff_of_sound_elements op .verificationFailed nofun nofun nofun nofun).trans (by simp)

end Operation

namespace Token

/-- The faults that a token may raise. -/
def Raises : Token → Fault → Prop
  | push _, _ => False
  | operation op, fault => op.Raises fault
  | unknown name, fault => fault = .unsupportedOpcode name

/-- **A token raises no other faults.** -/
theorem raises_of_eval {t : Token} {s r : Stack} {fault : Fault}
    (h : t.eval flags checker s = ⟨.error fault, r⟩) : t.Raises fault := by
  cases t with
  | push text => cases h
  | operation op => exact Operation.raises_of_eval h
  | unknown name =>
    cases h
    rfl

theorem raises_unsupportedOpcode_iff {t : Token} {name : String} :
    t.Raises (.unsupportedOpcode name) ↔ t = .unknown name := by
  cases t with
  | push text => simp [Raises]
  | operation op => simp [Raises, op.not_raises_unsupportedOpcode]
  | unknown other => simp [Raises, eq_comm]

theorem raises_intentionalHalt_iff {t : Token} :
    t.Raises .intentionalHalt ↔ t = .operation .halt := by
  cases t with
  | push text => simp [Raises]
  | operation op => simp [Raises, Operation.raises_intentionalHalt_iff]
  | unknown name => simp [Raises]

theorem raises_verificationFailed_iff {t : Token} :
    t.Raises .verificationFailed ↔ ∃ op : Operation, t = .operation op ∧ op.IsVerifying := by
  cases t with
  | push text => simp [Raises]
  | operation op => simp [Raises, Operation.raises_verificationFailed_iff]
  | unknown name => simp [Raises]

end Token

/-! ## The errors of a spend -/

namespace Spend

/-- One of the two scripts. -/
def script (spend : Spend) : Component → Code
  | .unlock => spend.unlock
  | .lock => spend.lock

/-- An evaluation comes to run a script, and on this stack: the unlock
script on the empty one, if it keeps to the rule on pushes, and the lock
script on what that one left. -/
inductive StartsOn (flags : Flags) (checker : SignatureChecker) (spend : Spend) :
    Component → Stack → Prop
  | unlock : spend.unlock.PushRule flags → StartsOn flags checker spend .unlock []
  | lock {s : Stack} : spend.unlock.PushRule flags → spend.unlock.Opens flags checker s →
      StartsOn flags checker spend .lock s

/-- What it takes for an evaluation to end with an error. -/
inductive EndsWith (flags : Flags) (checker : SignatureChecker) (spend : Spend) :
    Component → ScriptError → Prop
  /-- The unlock script does more than push, and must not. -/
  | sigPushOnly : ¬ spend.unlock.PushRule flags → EndsWith flags checker spend .unlock .sigPushOnly
  /-- A token fails, and all before it have succeeded. -/
  | interpreter {component : Component} {before after : List Token} {t : Token}
      {start left r : Stack} {fault : Fault} : StartsOn flags checker spend component start →
      (spend.script component).tokens = before ++ t :: after →
      Code.runTokens flags checker before start = ⟨.ok (), left⟩ →
      t.eval flags checker left = ⟨.error fault, r⟩ →
      EndsWith flags checker spend component (.interpreter (some t) fault)
  /-- All tokens of a script succeed and nothing is left. -/
  | emptyStack {component : Component} {start : Stack} :
      StartsOn flags checker spend component start →
      (spend.script component).run flags checker start = ⟨.ok (), []⟩ →
      EndsWith flags checker spend component .emptyStack
  /-- The unlock script leaves a name, and this one is the lowest. -/
  | unconsumedOpcode {start s : Stack} {v : Value} :
      StartsOn flags checker spend .unlock start →
      spend.unlock.run flags checker start = ⟨.ok (), s⟩ →
      s.bottomFirst.find? Value.isOpcode = some v →
      EndsWith flags checker spend .unlock (.unconsumedOpcode v.text)
  /-- The lock script leaves something below a result that is not `0`, and
  must not. -/
  | cleanStack {start rest : Stack} {v : Value} : StartsOn flags checker spend .lock start →
      spend.lock.run flags checker start = ⟨.ok (), v :: rest⟩ → v.text ≠ "0" →
      flags.cleanStack = true → rest ≠ [] →
      EndsWith flags checker spend .lock (.cleanStack (rest.length + 1))

/-- A run that fails is a token that does. -/
theorem endsWith_of_run {spend : Spend} {component : Component} {start r : Stack}
    {e : ScriptError} (hstart : spend.StartsOn flags checker component start)
    (h : (spend.script component).run flags checker start = ⟨.error e, r⟩) :
    spend.EndsWith flags checker component e := by
  obtain ⟨before, t, after, left, fault, hsplit, hbefore, hfault, rfl⟩ :=
    Code.runTokens_eq_error_iff.mp h
  exact .interpreter hstart hsplit hbefore hfault

theorem endsWith_of_eval {spend : Spend} {component : Component} {e : ScriptError}
    (h : spend.eval flags checker = .error (component, e)) :
    spend.EndsWith flags checker component e := by
  cases component with
  | unlock =>
    rcases eval_eq_error_unlock_iff.mp h with ⟨hrule, rfl⟩ | ⟨hrule, hunlock⟩
    · exact .sigPushOnly hrule
    · have hstart : spend.StartsOn flags checker .unlock [] := .unlock hrule
      rcases Code.evalUnlock_eq_error_iff.mp hunlock with
        ⟨r, hrun⟩ | ⟨hrun, rfl⟩ | ⟨s, v, hrun, hfind, rfl⟩
      · exact endsWith_of_run hstart hrun
      · exact .emptyStack hstart hrun
      · exact .unconsumedOpcode hstart hrun hfind
  | lock =>
    obtain ⟨hrule, s, hunlock, hlock⟩ := eval_eq_error_lock_iff.mp h
    have hstart : spend.StartsOn flags checker .lock s :=
      .lock hrule (Code.evalUnlock_eq_ok_iff.mp hunlock)
    rcases Code.evalLock_eq_error_iff.mp hlock with
      ⟨r, hrun⟩ | ⟨hrun, rfl⟩ | ⟨v, rest, hrun, hzero, hclean, hrest, rfl⟩
    · exact endsWith_of_run hstart hrun
    · exact .emptyStack hstart hrun
    · exact .cleanStack hstart hrun hzero hclean hrest

/-- An error of either phase is one of the evaluation that comes to it. -/
theorem StartsOn.eval_eq_error {spend : Spend} {component : Component} {start : Stack}
    {e : ScriptError} (hstart : spend.StartsOn flags checker component start)
    (hunlock : component = .unlock → start = [] → spend.unlock.evalUnlock flags checker = .error e)
    (hlock : component = .lock → spend.lock.evalLock flags checker start = .error e) :
    spend.eval flags checker = .error (component, e) := by
  cases hstart with
  | unlock hrule => exact eval_eq_error_unlock_iff.mpr (.inr ⟨hrule, hunlock rfl rfl⟩)
  | lock hrule hopens =>
    exact eval_eq_error_lock_iff.mpr
      ⟨hrule, start, Code.evalUnlock_eq_ok_iff.mpr hopens, hlock rfl⟩

/-- **The errors of an evaluation**, each with what it takes. -/
theorem eval_eq_error_iff {spend : Spend} {component : Component} {e : ScriptError} :
    spend.eval flags checker = .error (component, e) ↔
      spend.EndsWith flags checker component e := by
  refine ⟨endsWith_of_eval, fun h => ?_⟩
  cases h with
  | sigPushOnly hrule => exact eval_eq_error_unlock_iff.mpr (.inl ⟨hrule, rfl⟩)
  | @interpreter _ before after t start left r fault hstart hsplit hbefore hfault =>
    have hrun := Code.runTokens_eq_error_iff.mpr
      ⟨before, t, after, left, fault, hsplit, hbefore, hfault, rfl⟩
    refine hstart.eval_eq_error ?_ ?_
    · rintro rfl rfl
      exact Code.evalUnlock_eq_error_iff.mpr (.inl ⟨r, hrun⟩)
    · rintro rfl
      exact Code.evalLock_eq_error_iff.mpr (.inl ⟨r, hrun⟩)
  | emptyStack hstart hrun =>
    refine hstart.eval_eq_error ?_ ?_
    · rintro rfl rfl
      exact Code.evalUnlock_eq_error_iff.mpr (.inr (.inl ⟨hrun, rfl⟩))
    · rintro rfl
      exact Code.evalLock_eq_error_iff.mpr (.inr (.inl ⟨hrun, rfl⟩))
  | unconsumedOpcode hstart hrun hfind =>
    refine hstart.eval_eq_error ?_ nofun
    rintro - rfl
    exact Code.evalUnlock_eq_error_iff.mpr (.inr (.inr ⟨_, _, hrun, hfind, rfl⟩))
  | cleanStack hstart hrun hzero hclean hrest =>
    refine hstart.eval_eq_error nofun fun _ => ?_
    exact Code.evalLock_eq_error_iff.mpr
      (.inr (.inr ⟨_, _, hrun, hzero, hclean, hrest, rfl⟩))

namespace EndsWith

variable {spend : Spend} {component : Component}

theorem of_sigPushOnly (h : spend.EndsWith flags checker component .sigPushOnly) :
    component = .unlock ∧ flags.sigPushOnly = true := by
  cases h with
  | sigPushOnly hrule =>
    rw [Code.PushRule, Classical.not_imp] at hrule
    exact ⟨rfl, hrule.1⟩

theorem of_unconsumedOpcode {text : String}
    (h : spend.EndsWith flags checker component (.unconsumedOpcode text)) :
    component = .unlock := by
  cases h with
  | unconsumedOpcode _ _ _ => rfl

/-- What is left besides the result counts with it. -/
theorem of_cleanStack {size : Nat}
    (h : spend.EndsWith flags checker component (.cleanStack size)) :
    component = .lock ∧ flags.cleanStack = true ∧ 2 ≤ size := by
  cases h with
  | @cleanStack _ rest _ _ _ _ hclean hrest =>
    have hpos : 0 < rest.length := List.length_pos_iff.mpr hrest
    exact ⟨rfl, hclean, by omega⟩

/-- **A token that failed is named**, and its fault is one of its own. -/
theorem of_interpreter {token? : Option Token} {fault : Fault}
    (h : spend.EndsWith flags checker component (.interpreter token? fault)) :
    ∃ before t after start left r, token? = some t ∧
      (spend.script component).tokens = before ++ t :: after ∧
      spend.StartsOn flags checker component start ∧
      Code.runTokens flags checker before start = ⟨.ok (), left⟩ ∧
      t.eval flags checker left = ⟨.error fault, r⟩ ∧ t.Raises fault := by
  cases h with
  | @interpreter _ before after t start left r _ hstart hsplit hbefore hfault =>
    exact ⟨before, t, after, start, left, r, rfl, hsplit, hstart, hbefore, hfault,
      Token.raises_of_eval hfault⟩

end EndsWith

/-- **What the error of an evaluation tells.** An evaluation ends with an
error exactly when there is what the error takes. That there is more than
pushes is said of the unlock script and where that flag is set; that a
name is left, of the unlock script; and that more than the result is left,
of the lock script, where that flag is set, with a size of two or more.
And if a token failed it is named: it stands in that script, the tokens
before it succeed one after the other from the stack that the script
starts on, and the fault is one that it raises. Of all tokens, only an
unknown name raises that it is unknown, only a halt raises a halt, and only
the verifying operations raise that a verification failed. -/
theorem eval_error_tells_cause (flags : Flags) (checker : SignatureChecker) :
    (∀ (spend : Spend) (component : Component) (e : ScriptError),
      spend.eval flags checker = .error (component, e) ↔
        spend.EndsWith flags checker component e) ∧
      (∀ (spend : Spend) (component : Component) (e : ScriptError),
        spend.eval flags checker = .error (component, e) →
        (e = .sigPushOnly → component = .unlock ∧ flags.sigPushOnly = true) ∧
        (∀ text, e = .unconsumedOpcode text → component = .unlock) ∧
        (∀ size, e = .cleanStack size →
          component = .lock ∧ flags.cleanStack = true ∧ 2 ≤ size) ∧
        ∀ token? fault, e = .interpreter token? fault →
          ∃ before t after start left r, token? = some t ∧
            (spend.script component).tokens = before ++ t :: after ∧
            spend.StartsOn flags checker component start ∧
            Code.runTokens flags checker before start = ⟨.ok (), left⟩ ∧
            t.eval flags checker left = ⟨.error fault, r⟩ ∧ t.Raises fault) ∧
      (∀ (t : Token) (name : String), t.Raises (.unsupportedOpcode name) ↔ t = .unknown name) ∧
      (∀ t : Token, t.Raises .intentionalHalt ↔ t = .operation .halt) ∧
      ∀ t : Token, t.Raises .verificationFailed ↔
        ∃ op : Operation, t = .operation op ∧ op.IsVerifying := by
  refine ⟨fun _ _ _ => eval_eq_error_iff, fun spend component e h => ?_,
    fun _ _ => Token.raises_unsupportedOpcode_iff, fun _ => Token.raises_intentionalHalt_iff,
    fun _ => Token.raises_verificationFailed_iff⟩
  have hend := eval_eq_error_iff.mp h
  refine ⟨?_, fun text he => ?_, fun size he => ?_, fun token? fault he => ?_⟩
  · rintro rfl
    exact hend.of_sigPushOnly
  · subst he
    exact hend.of_unconsumedOpcode
  · subst he
    exact hend.of_cleanStack
  · subst he
    exact hend.of_interpreter

/-- A lock script that adds to what is no number. The addition is named,
and the two tokens before it succeeded on what the unlock script left. -/
theorem eval_error_tells_cause_of_failed_sum :
    let spend : Spend :=
      ⟨⟨[.push "x"]⟩, ⟨[.operation .dup, .push "1", .operation .add, .operation .halt]⟩⟩
    let fault : Fault := .notANumber (.invalidDigit "x" .decimal)
    spend.eval .none .rejectAll = .error (.lock, .interpreter (some (.operation .add)) fault) ∧
      ∃ before t after start left r, some (.operation .add) = some t ∧
        spend.lock.tokens = before ++ t :: after ∧
        spend.StartsOn .none .rejectAll .lock start ∧
        Code.runTokens .none .rejectAll before start = ⟨.ok (), left⟩ ∧
        t.eval .none .rejectAll left = ⟨.error fault, r⟩ ∧ t.Raises fault := by
  intro spend fault
  have herror : spend.eval .none .rejectAll =
      .error (.lock, .interpreter (some (.operation .add)) fault) := rfl
  obtain ⟨-, -, -, htoken⟩ :=
    (eval_error_tells_cause .none .rejectAll).2.1 spend .lock _ herror
  exact ⟨herror, htoken _ _ rfl⟩

end Spend

end SpendScript
