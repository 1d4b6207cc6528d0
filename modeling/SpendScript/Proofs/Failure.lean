import SpendScript.Proofs.Verdict
/-!
# What a failure says

The other half of the laws on successes. A failure of two steps in a row
is one of the first or of the second (`andThen_eq_error_iff`), so the
faults of an operation are those of its parts, and `Operation.Raises`
lists them. A run fails where one of its tokens does, all before it
having succeeded (`runTokens_eq_error_iff`), and the error of a spend is
the rule on pushes or an error of one of the two phases.
-/

namespace SpendScript

/-- A failure that is said in other words is the failure there was. -/
theorem mapError_eq_error_iff {ε ε' α : Type} {f : ε → ε'} {x : Except ε α} {e' : ε'} :
    x.mapError f = .error e' ↔ ∃ e, x = .error e ∧ e' = f e := by
  cases x with
  | ok a => exact ⟨nofun, nofun⟩
  | error e =>
    have hmap : (Except.error e : Except ε α).mapError f = .error (f e) := rfl
    simp [hmap, eq_comm]

namespace Outcome

variable {ε α β : Type}

theorem andThen_eq_error_iff {o : Outcome ε α} {next : α → Stack → Outcome ε β} {e : ε}
    {r : Stack} :
    o.andThen next = ⟨.error e, r⟩ ↔
      o = ⟨.error e, r⟩ ∨ ∃ a s, o = ⟨.ok a, s⟩ ∧ next a s = ⟨.error e, r⟩ := by
  obtain ⟨result, left⟩ := o
  cases result with
  | error e' => simp
  | ok a =>
    rw [andThen_ok]
    constructor
    · intro h
      exact .inr ⟨a, left, rfl, h⟩
    · rintro (heq | ⟨a', s, heq, h⟩)
      · cases heq
      · cases heq
        exact h

/-- A push does not fail, so the failure was there before it. -/
theorem push_eq_error_iff {o : Outcome ε Value} {e : ε} {r : Stack} :
    o.push = ⟨.error e, r⟩ ↔ o = ⟨.error e, r⟩ := by
  rw [push, andThen_eq_error_iff]
  simp

theorem pushBool_eq_error_iff {o : Outcome ε Bool} {e : ε} {r : Stack} :
    o.pushBool = ⟨.error e, r⟩ ↔ o = ⟨.error e, r⟩ := by
  rw [pushBool, andThen_eq_error_iff]
  simp

theorem mapError_eq_error_iff {ε' : Type} {f : ε → ε'} {o : Outcome ε α} {e' : ε'} {r : Stack} :
    o.mapError f = ⟨.error e', r⟩ ↔ ∃ e, o = ⟨.error e, r⟩ ∧ e' = f e := by
  obtain ⟨result, left⟩ := o
  simp only [mapError, mk.injEq, SpendScript.mapError_eq_error_iff]
  constructor
  · rintro ⟨⟨e, rfl, rfl⟩, rfl⟩
    exact ⟨e, ⟨rfl, rfl⟩, rfl⟩
  · rintro ⟨e, ⟨rfl, rfl⟩, rfl⟩
    exact ⟨⟨e, rfl, rfl⟩, rfl⟩

end Outcome

/-! ## Kinds of faults -/

namespace Fault

/-- There are too few elements. -/
def IsUnderflow (fault : Fault) : Prop :=
  ∃ needed available, fault = .stackUnderflow needed available

/-- What can be wrong with the operands of a sum or difference. -/
inductive OfArithmetic : Fault → Prop
  /-- One of them is no number. -/
  | notANumber (cause : NumeralError) : OfArithmetic (.notANumber cause)
  /-- The result does not fit. -/
  | overflow : OfArithmetic .overflow

/-- What can be wrong with a key or a signature. -/
inductive OfCredential : Fault → Prop
  /-- It is no hexadecimal. -/
  | invalidEncoding (cause : HexError) : OfCredential (.invalidEncoding cause)
  /-- Its bytes are no key, or no signature. -/
  | malformed (cause : CredentialError) : OfCredential (.malformedCredential cause)

/-- What can be wrong with a count. -/
inductive OfCount : Fault → Prop
  /-- It is no number. -/
  | notANumber (cause : NumeralError) : OfCount (.notANumber cause)
  /-- It asks for less than no keys. -/
  | keys {count : Int64} : count < 0 → OfCount (.negativeKeyCount count)
  /-- It asks for less than no signatures. -/
  | signatures {count : Int64} : count < 0 → OfCount (.negativeSignatureCount count)

end Fault

namespace Value

/-- Bytes are read off an element and then decoded, and either can fail. -/
theorem ofCredential_of_toCredential {α : Type} {decode : Bytes → Except CredentialError α}
    {v : Value} {fault : Fault} (h : v.toCredential decode = .error fault) :
    fault.OfCredential := by
  unfold toCredential at h
  split at h
  · rename_i e _
    cases h
    exact .invalidEncoding e
  · rename_i b _
    cases hdecode : decode b with
    | error e =>
      rw [hdecode] at h
      cases h
      exact .malformed e
    | ok a =>
      rw [hdecode] at h
      cases h

end Value

namespace Stack

variable {α : Type}

theorem fault_of_consumeOne {f : Value → Except Fault α} {s r : Stack} {fault : Fault}
    (h : s.consumeOne f = ⟨.error fault, r⟩) :
    fault.IsUnderflow ∨ ∃ v, f v = .error fault := by
  cases s with
  | nil =>
    cases h
    exact .inl ⟨1, 0, rfl⟩
  | cons v s => exact .inr ⟨v, congrArg Outcome.result h⟩

theorem fault_of_consumeTwo {f : Value → Value → Except Fault α} {s r : Stack} {fault : Fault}
    (h : s.consumeTwo f = ⟨.error fault, r⟩) :
    fault.IsUnderflow ∨ ∃ v w, f v w = .error fault := by
  match s with
  | [] =>
    cases h
    exact .inl ⟨2, 0, rfl⟩
  | [w] =>
    cases h
    exact .inl ⟨2, 1, rfl⟩
  | w :: v :: s => exact .inr ⟨v, w, congrArg Outcome.result h⟩

end Stack

namespace Operation

open Stack Outcome

variable {flags : Flags} {checker : SignatureChecker}

theorem eq_verificationFailed_of_ensure {b : Bool} {fault : Fault}
    (h : ensure b = .error fault) : fault = .verificationFailed := by
  cases b with
  | true => cases h
  | false =>
    cases h
    rfl

theorem ofArithmetic_of_arithmetic {f : Int → Int → Int} {v w : Value} {fault : Fault}
    (h : arithmetic f v w = .error fault) : fault.OfArithmetic := by
  unfold arithmetic number at h
  split at h
  · cases h
    exact .notANumber _
  · split at h
    · cases h
      exact .notANumber _
    · split at h
      · cases h
      · cases h
        exact .overflow

theorem invalidEncoding_of_digest {hash : Bytes → Bytes} {v : Value} {fault : Fault}
    (h : digest hash v = .error fault) : ∃ cause, fault = .invalidEncoding cause := by
  unfold digest at h
  split at h
  · cases h
    exact ⟨_, rfl⟩
  · cases h

/-- A hash fails where there is no element, or one that is no bytes. -/
theorem fault_of_hash {hash : Bytes → Bytes} {s r : Stack} {fault : Fault}
    (h : (s.consumeOne (digest hash)).push = ⟨.error fault, r⟩) :
    fault.IsUnderflow ∨ ∃ cause, fault = .invalidEncoding cause :=
  (fault_of_consumeOne (push_eq_error_iff.mp h)).imp_right fun ⟨_, hv⟩ =>
    invalidEncoding_of_digest hv

theorem ofCredential_of_checkOne {sig key : Value} {fault : Fault}
    (h : checkOne flags checker sig key = .error fault) : fault.OfCredential := by
  unfold checkOne at h
  split at h
  · rename_i hkey
    cases h
    exact Value.ofCredential_of_toCredential hkey
  · split at h
    · rename_i hsig
      cases h
      exact Value.ofCredential_of_toCredential hsig
    · cases h

/-- A loop fails for want of elements or over one that it took off. -/
theorem fault_of_popDecoded {α : Type} {decode : Value → Except Fault α} {count : Nat}
    {s r : Stack} {fault : Fault} (h : popDecoded decode count s = ⟨.error fault, r⟩) :
    fault.IsUnderflow ∨ ∃ v, decode v = .error fault := by
  induction count generalizing s with
  | zero => cases h
  | succ count ih =>
    cases s with
    | nil =>
      cases h
      exact .inl ⟨1, 0, rfl⟩
    | cons v s =>
      rw [popDecoded, pop, andThen_ok] at h
      cases hv : decode v with
      | error e =>
        rw [hv] at h
        cases h
        exact .inr ⟨v, hv⟩
      | ok a =>
        simp only [hv, andThen_eq_error_iff] at h
        rcases h with hrest | ⟨as, s', -, hlast⟩
        · exact ih hrest
        · cases hlast

/-- And with a count on top, over that one too. -/
theorem fault_of_popCounted {α : Type} {negative : Int64 → Fault}
    {decode : Value → Except Fault α} (hnegative : ∀ n : Int64, n < 0 → (negative n).OfCount)
    (hdecode : ∀ v fault, decode v = .error fault → fault.OfCredential) {s r : Stack}
    {fault : Fault} (h : popCounted negative decode s = ⟨.error fault, r⟩) :
    fault.IsUnderflow ∨ fault.OfCount ∨ fault.OfCredential := by
  cases s with
  | nil =>
    cases h
    exact .inl ⟨1, 0, rfl⟩
  | cons c s =>
    rw [popCounted] at h
    cases hnum : c.toNum with
    | error e =>
      rw [popNum_of_toNum_eq_error hnum, andThen_error] at h
      cases h
      exact .inr (.inl (.notANumber e))
    | ok n =>
      rw [popNum_of_toNum_eq_ok hnum, andThen_ok] at h
      by_cases hneg : n < 0
      · rw [if_pos hneg] at h
        cases h
        exact .inr (.inl (hnegative n hneg))
      · rw [if_neg hneg] at h
        by_cases hcount : n.toInt.toNat ≤ s.length
        · simp only [require, if_pos hcount] at h
          rcases fault_of_popDecoded h with hshort | ⟨v, hv⟩
          · exact .inl hshort
          · exact .inr (.inr (hdecode v fault hv))
        · simp only [require, if_neg hcount] at h
          cases h
          exact .inl ⟨_, _, rfl⟩

theorem fault_of_checkMany {s r : Stack} {fault : Fault}
    (h : checkMany flags checker s = ⟨.error fault, r⟩) :
    fault.IsUnderflow ∨ fault.OfCount ∨ fault.OfCredential := by
  rw [checkMany, andThen_eq_error_iff] at h
  rcases h with hkeys | ⟨keys, s', -, h⟩
  · exact fault_of_popCounted (fun _ hneg => .keys hneg)
      (fun _ _ hv => Value.ofCredential_of_toCredential hv) hkeys
  · rw [andThen_eq_error_iff] at h
    rcases h with hsigs | ⟨sigs, s'', -, hlast⟩
    · exact fault_of_popCounted (fun _ hneg => .signatures hneg)
        (fun _ _ hv => Value.ofCredential_of_toCredential hv) hsigs
    · cases hlast

/-! ## The faults of an operation -/

/-- The faults that an operation may raise. -/
def Raises : Operation → Fault → Prop
  | pushFalse, _ | pushTrue, _ | drop, _ | dup, _ => False
  | halt, fault => fault = .intentionalHalt
  | verify, fault | equalVerify, fault => fault.IsUnderflow ∨ fault = .verificationFailed
  | equal, fault | not, fault | boolAnd, fault | boolOr, fault => fault.IsUnderflow
  | add, fault | sub, fault => fault.IsUnderflow ∨ fault.OfArithmetic
  | ripemd160, fault | sha1, fault | sha256, fault | hash160, fault | hash256, fault =>
    fault.IsUnderflow ∨ ∃ cause, fault = .invalidEncoding cause
  | checkSig, fault => fault.IsUnderflow ∨ fault.OfCredential
  | checkSigVerify, fault =>
    fault.IsUnderflow ∨ fault.OfCredential ∨ fault = .verificationFailed
  | checkMultisig, fault => fault.IsUnderflow ∨ fault.OfCount ∨ fault.OfCredential
  | checkMultisigVerify, fault =>
    fault.IsUnderflow ∨ fault.OfCount ∨ fault.OfCredential ∨ fault = .verificationFailed

/-- **An operation raises no other faults.** -/
theorem raises_of_eval {op : Operation} {s r : Stack} {fault : Fault}
    (h : op.eval flags checker s = ⟨.error fault, r⟩) : op.Raises fault := by
  cases op with
  | pushFalse => cases h
  | pushTrue => cases h
  | drop => cases h
  | dup => cases h
  | halt =>
    cases h
    rfl
  | verify =>
    exact (fault_of_consumeOne h).imp_right fun ⟨_, hv⟩ => eq_verificationFailed_of_ensure hv
  | equalVerify =>
    exact (fault_of_consumeTwo h).imp_right fun ⟨_, _, hv⟩ => eq_verificationFailed_of_ensure hv
  | equal => exact (fault_of_consumeTwo (pushBool_eq_error_iff.mp h)).resolve_right nofun
  | not => exact (fault_of_consumeOne (pushBool_eq_error_iff.mp h)).resolve_right nofun
  | boolAnd => exact (fault_of_consumeTwo (pushBool_eq_error_iff.mp h)).resolve_right nofun
  | boolOr => exact (fault_of_consumeTwo (pushBool_eq_error_iff.mp h)).resolve_right nofun
  | add =>
    exact (fault_of_consumeTwo (push_eq_error_iff.mp h)).imp_right fun ⟨_, _, hv⟩ =>
      ofArithmetic_of_arithmetic hv
  | sub =>
    exact (fault_of_consumeTwo (push_eq_error_iff.mp h)).imp_right fun ⟨_, _, hv⟩ =>
      ofArithmetic_of_arithmetic hv
  | ripemd160 => exact fault_of_hash h
  | sha1 => exact fault_of_hash h
  | sha256 => exact fault_of_hash h
  | hash160 => exact fault_of_hash h
  | hash256 => exact fault_of_hash h
  | checkSig =>
    exact (fault_of_consumeTwo (pushBool_eq_error_iff.mp h)).imp_right fun ⟨_, _, hv⟩ =>
      ofCredential_of_checkOne hv
  | checkSigVerify =>
    rcases andThen_eq_error_iff.mp h with hcheck | ⟨b, s', -, hensure⟩
    · rcases fault_of_consumeTwo hcheck with hshort | ⟨_, _, hv⟩
      · exact .inl hshort
      · exact .inr (.inl (ofCredential_of_checkOne hv))
    · exact .inr (.inr (eq_verificationFailed_of_ensure (congrArg Outcome.result hensure)))
  | checkMultisig => exact fault_of_checkMany (pushBool_eq_error_iff.mp h)
  | checkMultisigVerify =>
    rcases andThen_eq_error_iff.mp h with hcheck | ⟨b, s', -, hensure⟩
    · rcases fault_of_checkMany hcheck with hshort | hcount | hcredential
      · exact .inl hshort
      · exact .inr (.inl hcount)
      · exact .inr (.inr (.inl hcredential))
    · exact .inr (.inr (.inr (eq_verificationFailed_of_ensure (congrArg Outcome.result hensure))))

end Operation

/-! ## Runs -/

namespace Code

variable {flags : Flags} {checker : SignatureChecker}

/-- **A run fails where one of its tokens does**, all before it having
succeeded, and names it. -/
theorem runTokens_eq_error_iff {ts : List Token} {s r : Stack} {e : ScriptError} :
    runTokens flags checker ts s = ⟨.error e, r⟩ ↔
      ∃ before t after left fault, ts = before ++ t :: after ∧
        runTokens flags checker before s = ⟨.ok (), left⟩ ∧
        t.eval flags checker left = ⟨.error fault, r⟩ ∧ e = .interpreter (some t) fault := by
  constructor
  · intro h
    induction ts generalizing s with
    | nil => cases h
    | cons t ts ih =>
      rw [runTokens, Outcome.andThen_eq_error_iff] at h
      rcases h with hfirst | ⟨_, s', hfirst, hrest⟩
      · obtain ⟨fault, hfault, he⟩ := Outcome.mapError_eq_error_iff.mp hfirst
        exact ⟨[], t, ts, s, fault, rfl, rfl, hfault, he⟩
      · obtain ⟨before, u, after, left, fault, rfl, hrun, hfault, he⟩ := ih hrest
        have hstep := Outcome.mapError_eq_ok_iff.mp hfirst
        exact ⟨t :: before, u, after, left, fault, rfl,
          runTokens_cons_eq_ok_iff.mpr ⟨s', hstep, hrun⟩, hfault, he⟩
  · rintro ⟨before, t, after, left, fault, rfl, hrun, hfault, rfl⟩
    rw [runTokens_append, hrun, Outcome.andThen_ok, runTokens, hfault]
    rfl

/-- So what it says is that a token failed. -/
theorem exists_eq_interpreter_of_run {c : Code} {s r : Stack} {e : ScriptError}
    (h : c.run flags checker s = ⟨.error e, r⟩) : ∃ t fault, e = .interpreter (some t) fault := by
  obtain ⟨-, t, -, -, fault, -, -, -, he⟩ := runTokens_eq_error_iff.mp h
  exact ⟨t, fault, he⟩

/-! ## The two phases -/

/-- **The first phase fails** where the run does, where nothing is left,
and where a name is, the lowest of which is blamed. -/
theorem evalUnlock_eq_error_iff {u : Code} {e : ScriptError} :
    u.evalUnlock flags checker = .error e ↔
      (∃ r, u.run flags checker [] = ⟨.error e, r⟩) ∨
        (u.run flags checker [] = ⟨.ok (), []⟩ ∧ e = .emptyStack) ∨
        ∃ s v, u.run flags checker [] = ⟨.ok (), s⟩ ∧
          s.bottomFirst.find? Value.isOpcode = some v ∧ e = .unconsumedOpcode v.text := by
  unfold evalUnlock
  obtain ⟨result, left⟩ := u.run flags checker []
  cases result with
  | error e' => simp
  | ok a =>
    cases left with
    | nil => simp [Stack.bottomFirst, eq_comm]
    | cons v rest =>
      simp only [List.isEmpty_cons, Bool.false_eq_true, if_false]
      cases hfind : (Stack.bottomFirst (v :: rest)).find? Value.isOpcode with
      | none => simp [hfind]
      | some w => simp [hfind, eq_comm]

/-- **The second phase fails** where the run does, where nothing is left,
and where more is left than the rule on a clean stack allows. -/
theorem evalLock_eq_error_iff {l : Code} {s : Stack} {e : ScriptError} :
    l.evalLock flags checker s = .error e ↔
      (∃ r, l.run flags checker s = ⟨.error e, r⟩) ∨
        (l.run flags checker s = ⟨.ok (), []⟩ ∧ e = .emptyStack) ∨
        ∃ v rest, l.run flags checker s = ⟨.ok (), v :: rest⟩ ∧ v.text ≠ "0" ∧
          flags.cleanStack = true ∧ rest ≠ [] ∧ e = .cleanStack (rest.length + 1) := by
  unfold evalLock
  obtain ⟨result, left⟩ := l.run flags checker s
  cases result with
  | error e' => simp
  | ok a =>
    cases left with
    | nil => simpa using eq_comm
    | cons v rest =>
      simp only [Value.isFalse, beq_iff_eq]
      constructor
      · intro h
        split at h
        · cases h
        · rename_i hzero
          split at h
          · rename_i hclean
            rw [Bool.and_eq_true, Bool.not_eq_true', List.isEmpty_eq_false_iff] at hclean
            cases h
            exact .inr (.inr ⟨v, rest, rfl, hzero, hclean.1, hclean.2, rfl⟩)
          · cases h
      · rintro (⟨r, h⟩ | ⟨h, -⟩ | ⟨v', rest', h, hzero, hclean, hrest, rfl⟩)
        · cases h
        · cases h
        · cases h
          have htest : (flags.cleanStack && !rest.isEmpty) = true := by simp [hclean, hrest]
          rw [if_neg hzero, if_pos htest]

end Code

namespace Spend

variable {flags : Flags} {checker : SignatureChecker}

/-- **An error of the unlock script** is that it does more than push where
it must not, or one of the first phase. -/
theorem eval_eq_error_unlock_iff {spend : Spend} {e : ScriptError} :
    spend.eval flags checker = .error (.unlock, e) ↔
      (¬ spend.unlock.PushRule flags ∧ e = .sigPushOnly) ∨
        spend.unlock.PushRule flags ∧ spend.unlock.evalUnlock flags checker = .error e := by
  rw [Code.pushRule_iff]
  unfold eval
  by_cases hrule : (flags.sigPushOnly && !spend.unlock.isPushOnly) = true
  · simp [hrule, eq_comm]
  · rw [Bool.not_eq_true] at hrule
    simp only [hrule, Bool.false_eq_true, if_false, not_true_eq_false, false_and, true_and,
      false_or]
    cases spend.unlock.evalUnlock flags checker with
    | error e' => simp
    | ok s =>
      simp only [reduceCtorEq, iff_false]
      simp [mapError_eq_error_iff]

/-- **An error of the lock script** is one of the second phase, the first
having come to its end. -/
theorem eval_eq_error_lock_iff {spend : Spend} {e : ScriptError} :
    spend.eval flags checker = .error (.lock, e) ↔
      spend.unlock.PushRule flags ∧ ∃ s, spend.unlock.evalUnlock flags checker = .ok s ∧
        spend.lock.evalLock flags checker s = .error e := by
  rw [Code.pushRule_iff]
  unfold eval
  by_cases hrule : (flags.sigPushOnly && !spend.unlock.isPushOnly) = true
  · simp [hrule]
  · rw [Bool.not_eq_true] at hrule
    simp only [hrule, Bool.false_eq_true, if_false, true_and]
    cases spend.unlock.evalUnlock flags checker with
    | error e' => simp
    | ok s =>
      simp only [Except.ok.injEq, exists_eq_left']
      simp [mapError_eq_error_iff]

end Spend

end SpendScript
