import SpendScript.Proofs.Analysis
import SpendScript.Proofs.LetterCase
import SpendScript.Proofs.Parity
/-!
# Blind to letter case

Put a script and the texts of its stack in lower case, and the run on
texts does the same in lower case (`TextMachine.run_lowered`): each
operation does, since each reads its texts without regard to case and
writes none in capitals. The two that ask whether texts are equal do not,
and a script that uses neither of them cannot tell one case from the
other. So two scripts that are the same in lower case, on stacks that are,
end alike, or stop at the same token with what is the same fault but for
the case of the text in it.
-/

namespace SpendScript

variable {flags : Flags} {checker : SignatureChecker}

/-! ## In lower case -/

/-- A fault with the text that it is about in lower case. -/
def Fault.toLower : Fault → Fault
  | notANumber cause => notANumber cause.toLower
  | invalidEncoding cause => invalidEncoding cause.toLower
  | fault => fault

/-- A token with the text that it pushes in lower case. Names stay as they
are. -/
def Token.toLower : Token → Token
  | push text => push text.toLower
  | operation op => operation op
  | unknown name => unknown name

/-- An error with its token and its fault in lower case. -/
def ScriptError.toLower : ScriptError → ScriptError
  | interpreter token? fault => interpreter (token?.map Token.toLower) fault.toLower
  | e => e

/-- A script with the texts that it pushes in lower case. -/
def Code.toLower (c : Code) : Code :=
  ⟨c.tokens.map Token.toLower⟩

/-- The texts of a stack in lower case, the top first. -/
def Stack.lowered (s : Stack) : List String :=
  (s.map Value.text).map String.toLower

/-- An outcome on texts with all of them in lower case, `lower` being what
that makes of an error. -/
def TextOutcome.lowered {ε α : Type} (lower : ε → ε) (o : TextOutcome ε α) : TextOutcome ε α :=
  ⟨o.result.mapError lower, o.texts.map String.toLower⟩

/-- The token does not ask whether two elements are equal. -/
def Token.IgnoresCase (t : Token) : Prop :=
  t ≠ .operation .equal ∧ t ≠ .operation .equalVerify

namespace TextMachine

/-! ## Readings -/

/-- What was made, in lower case. -/
def lowered (made : Except Fault (List String)) : Except Fault (List String) :=
  (made.map (List.map String.toLower)).mapError Fault.toLower

/-- A text without capitals is made as it is. -/
theorem lowered_ok {t : String} (h : t.toLower = t) : lowered (.ok [t]) = .ok [t] := by
  rw [lowered, Except.map, List.map_singleton, h]
  rfl

/-- A truth value is a digit. -/
theorem not_isAlpha_of_mem_truth (b : Bool) : ∀ c ∈ (truth b).toList, c.isAlpha = false := by
  cases b with
  | false => exact List.forall_mem_singleton.mpr rfl
  | true => exact List.forall_mem_singleton.mpr rfl

theorem lowered_truth (b : Bool) : lowered (.ok [truth b]) = .ok [truth b] :=
  lowered_ok ((Text.toLower_eq_iff (not_isAlpha_of_mem_truth b)).mpr rfl)

theorem lowered_verified (b : Bool) : lowered (verified b) = verified b := by
  cases b with
  | false => rfl
  | true => rfl

/-- A digit alone is a text without case. -/
theorem toLower_beq_truth (t : String) (b : Bool) : (t.toLower == truth b) = (t == truth b) := by
  rw [Bool.eq_iff_iff, beq_iff_eq, beq_iff_eq]
  exact Text.toLower_eq_iff (not_isAlpha_of_mem_truth b)

theorem toLower_beq_one (t : String) : (t.toLower == "1") = (t == "1") :=
  toLower_beq_truth t true

theorem toLower_beq_zero (t : String) : (t.toLower == "0") = (t == "0") :=
  toLower_beq_truth t false

theorem readNumber_toLower (t : String) :
    readNumber t.toLower = (readNumber t).mapError Fault.toLower := by
  rw [readNumber, Numeral.parse_toLower, readNumber]
  cases Numeral.parse t with
  | ok n => rfl
  | error e => rfl

theorem readBytes_toLower (t : String) :
    readBytes t.toLower = (readBytes t).mapError Fault.toLower := by
  rw [readBytes, Hex.decode_toLower, readBytes]
  cases Hex.decode t with
  | ok b => rfl
  | error e => rfl

/-- Bytes that are no credential are none in either case. -/
theorem readCredential_toLower {α : Type} (decode : Bytes → Except CredentialError α) (t : String) :
    readCredential decode t.toLower = (readCredential decode t).mapError Fault.toLower := by
  rw [readCredential, readBytes_toLower, readCredential]
  cases readBytes t with
  | error e => rfl
  | ok b =>
    change (decode b).mapError .malformedCredential =
      ((decode b).mapError .malformedCredential).mapError Fault.toLower
    cases decode b with
    | error e => rfl
    | ok a => rfl

theorem compute_toLower (f : Int → Int → Int) (t u : String) :
    compute f t.toLower u.toLower = lowered (compute f t u) := by
  rw [compute, readNumber_toLower, readNumber_toLower, compute]
  cases readNumber u with
  | error e => rfl
  | ok n =>
    cases readNumber t with
    | error e => rfl
    | ok m =>
      -- Both read the same numbers, and write the same one if it fits.
      change (if Numeral.InRange (f m n) then Except.ok [String.ofList (Numeral.decimal (f m n))]
          else .error .overflow) =
        lowered (if Numeral.InRange (f m n) then .ok [String.ofList (Numeral.decimal (f m n))]
          else .error .overflow)
      split
      · exact (lowered_ok (Numeral.toLower_decimal (f m n))).symm
      · rfl

theorem hashed_toLower (hash : Bytes → Bytes) (t : String) :
    hashed hash t.toLower = lowered (hashed hash t) := by
  rw [hashed, readBytes_toLower, hashed]
  cases readBytes t with
  | error e => rfl
  | ok b => exact (lowered_ok (Hex.toLower_encode (hash b))).symm

theorem checked_toLower (sig key : String) :
    checked flags checker sig.toLower key.toLower =
      (checked flags checker sig key).mapError Fault.toLower := by
  rw [checked, readKey, readSignature, readCredential_toLower, readCredential_toLower, checked,
    readKey, readSignature]
  cases readCredential (PublicKey.decode flags.strictEnc) key with
  | error e => rfl
  | ok k =>
    cases readCredential (Signature.decode flags.lowS) sig with
    | error e => rfl
    | ok d => rfl

/-! ## Operations -/

theorem leave_lowered (made : Except Fault (List String)) (s : List String) :
    leave (lowered made) (s.map String.toLower) = (leave made s).lowered Fault.toLower := by
  cases made with
  | error e => rfl
  | ok ts => simp [leave, lowered, TextOutcome.lowered, Except.map, Except.mapError]

/-- A truth value is pushed in lower case as it is. -/
theorem leave_truth_lowered (b : Bool) (s : List String) :
    leave (.ok [truth b]) (s.map String.toLower) =
      (leave (.ok [truth b]) s).lowered Fault.toLower := by
  rw [← leave_lowered, lowered_truth]

theorem leave_verified_lowered (b : Bool) (s : List String) :
    leave (verified b) (s.map String.toLower) = (leave (verified b) s).lowered Fault.toLower := by
  rw [← leave_lowered, lowered_verified]

theorem onOne_lowered {f : String → Except Fault (List String)}
    (h : ∀ t, f t.toLower = lowered (f t)) (s : List String) :
    onOne f (s.map String.toLower) = (onOne f s).lowered Fault.toLower := by
  cases s with
  | nil => rfl
  | cons t s =>
    rw [List.map_cons, onOne, h, onOne]
    exact leave_lowered (f t) s

theorem onTwo_lowered {f : String → String → Except Fault (List String)}
    (h : ∀ t u, f t.toLower u.toLower = lowered (f t u)) (s : List String) :
    onTwo f (s.map String.toLower) = (onTwo f s).lowered Fault.toLower := by
  match s with
  | [] => rfl
  | [u] => rfl
  | u :: t :: s =>
    rw [List.map_cons, List.map_cons, onTwo, h, onTwo]
    exact leave_lowered (f t u) s

theorem andThen_lowered {ε α β : Type} {lower : ε → ε} {o p : TextOutcome ε α}
    {next next' : α → List String → TextOutcome ε β} (ho : p = o.lowered lower)
    (h : ∀ a s, next' a (s.map String.toLower) = (next a s).lowered lower) :
    p.andThen next' = (o.andThen next).lowered lower := by
  subst ho
  obtain ⟨result, s⟩ := o
  cases result with
  | ok a => exact h a s
  | error e => rfl

theorem readEach_lowered {α : Type} {read : String → Except Fault α}
    (h : ∀ t, read t.toLower = (read t).mapError Fault.toLower) (count : Nat) (s : List String) :
    readEach read count (s.map String.toLower) = (readEach read count s).lowered Fault.toLower := by
  induction count generalizing s with
  | zero => rfl
  | succ count ih =>
    cases s with
    | nil => rfl
    | cons t s =>
      rw [List.map_cons, readEach, h, readEach]
      cases read t with
      | error e => rfl
      | ok a => exact andThen_lowered (ih s) fun _ _ => rfl

theorem readCounted_lowered {α : Type} {negative : Int64 → Fault} {read : String → Except Fault α}
    (hnegative : ∀ n, (negative n).toLower = negative n)
    (h : ∀ t, read t.toLower = (read t).mapError Fault.toLower) (s : List String) :
    readCounted negative read (s.map String.toLower) =
      (readCounted negative read s).lowered Fault.toLower := by
  cases s with
  | nil => rfl
  | cons t s =>
    rw [List.map_cons, readCounted, Numeral.parse_toLower, readCounted, List.length_map]
    cases Numeral.parse t with
    | error e => rfl
    | ok n =>
      simp only [Except.mapError]
      split
      · simp only [TextOutcome.lowered, Except.mapError, hnegative]
      · split
        · rfl
        · exact readEach_lowered h n.toInt.toNat s

theorem checkedMany_lowered (s : List String) :
    checkedMany flags checker (s.map String.toLower) =
      (checkedMany flags checker s).lowered Fault.toLower :=
  andThen_lowered (readCounted_lowered (fun _ => rfl) (readCredential_toLower _) s) fun _ s =>
    andThen_lowered (readCounted_lowered (fun _ => rfl) (readCredential_toLower _) s) fun _ _ => rfl

/-- **An operation does the same in lower case**, unless it asks whether
two texts are equal. -/
theorem step_lowered {op : Operation} (h : (Token.operation op).IgnoresCase) (s : List String) :
    step flags checker op (s.map String.toLower) =
      (step flags checker op s).lowered Fault.toLower := by
  cases op with
  | pushFalse => exact leave_truth_lowered false s
  | pushTrue => exact leave_truth_lowered true s
  | verify =>
    rw [step, step]
    refine onOne_lowered (fun t => ?_) s
    rw [toLower_beq_one, lowered_verified]
  | halt => rfl
  | drop => cases s <;> rfl
  | dup => cases s <;> rfl
  | equal => exact absurd rfl h.1
  | equalVerify => exact absurd rfl h.2
  | not =>
    rw [step, step]
    refine onOne_lowered (fun t => ?_) s
    rw [toLower_beq_zero, lowered_truth]
  | add => exact onTwo_lowered (compute_toLower _) s
  | sub => exact onTwo_lowered (compute_toLower _) s
  | boolAnd =>
    rw [step, step]
    refine onTwo_lowered (fun t u => ?_) s
    rw [toLower_beq_one, toLower_beq_one, lowered_truth]
  | boolOr =>
    rw [step, step]
    refine onTwo_lowered (fun t u => ?_) s
    rw [toLower_beq_one, toLower_beq_one, lowered_truth]
  | ripemd160 => exact onOne_lowered (hashed_toLower _) s
  | sha1 => exact onOne_lowered (hashed_toLower _) s
  | sha256 => exact onOne_lowered (hashed_toLower _) s
  | hash160 => exact onOne_lowered (hashed_toLower _) s
  | hash256 => exact onOne_lowered (hashed_toLower _) s
  | checkSig =>
    refine onTwo_lowered (fun sig key => ?_) s
    rw [checked_toLower]
    cases checked flags checker sig key with
    | error e => rfl
    | ok b => exact (lowered_truth b).symm
  | checkSigVerify =>
    refine onTwo_lowered (fun sig key => ?_) s
    rw [checked_toLower]
    cases checked flags checker sig key with
    | error e => rfl
    | ok b => exact (lowered_verified b).symm
  | checkMultisig => exact andThen_lowered (checkedMany_lowered s) leave_truth_lowered
  | checkMultisigVerify => exact andThen_lowered (checkedMany_lowered s) leave_verified_lowered

/-- And so does a token. -/
theorem stepToken_lowered {t : Token} (h : t.IgnoresCase) (s : List String) :
    stepToken flags checker t.toLower (s.map String.toLower) =
      (stepToken flags checker t s).lowered Fault.toLower := by
  cases t with
  | push text => rfl
  | operation op => exact step_lowered h s
  | unknown name => rfl

/-- **A run does the same in lower case.** -/
theorem run_lowered {ts : List Token} (h : ∀ t ∈ ts, t.IgnoresCase) (s : List String) :
    run flags checker (ts.map Token.toLower) (s.map String.toLower) =
      (run flags checker ts s).lowered ScriptError.toLower := by
  induction ts generalizing s with
  | nil => rfl
  | cons t ts ih =>
    have hrest : ∀ u ∈ ts, u.IgnoresCase := fun u hu => h u (List.mem_cons_of_mem _ hu)
    rw [List.map_cons, run, stepToken_lowered (h t List.mem_cons_self), run]
    obtain ⟨result, left⟩ := stepToken flags checker t s
    cases result with
    | ok a => exact ih hrest left
    | error e => rfl

theorem verdict_lowered (o : TextOutcome ScriptError Unit) :
    verdict flags (o.lowered ScriptError.toLower) =
      (verdict flags o).mapError ScriptError.toLower := by
  obtain ⟨result, texts⟩ := o
  cases result with
  | error e => rfl
  | ok a =>
    cases texts with
    | nil => rfl
    | cons t rest =>
      have hzero : t.toLower = "0" ↔ t = "0" := Text.toLower_eq_iff (not_isAlpha_of_mem_truth false)
      simp only [verdict, TextOutcome.lowered, Except.mapError, List.map_cons, hzero,
        List.isEmpty_map, List.length_map]
      split
      · rfl
      · split
        · rfl
        · rfl

end TextMachine

/-! ## Two runs that are the same in lower case -/

namespace Outcome

variable {ε α : Type} {lower : ε → ε} {o p : Outcome ε α}

/-- What is a success in lower case is the same success, on a stack that is
the same in lower case. -/
theorem ok_of_lowered (h : o.forget.lowered lower = p.forget.lowered lower) {a : α} {r : Stack}
    (ho : o = ⟨.ok a, r⟩) : ∃ r', p = ⟨.ok a, r'⟩ ∧ r.lowered = r'.lowered := by
  subst ho
  obtain ⟨result, r'⟩ := p
  have hresult : result.mapError lower = .ok a := (congrArg TextOutcome.result h).symm
  obtain rfl := SpendScript.mapError_eq_ok_iff.mp hresult
  exact ⟨r', rfl, congrArg TextOutcome.texts h⟩

/-- And what is a failure in lower case is one, with an error that is the
same in lower case. -/
theorem error_of_lowered (h : o.forget.lowered lower = p.forget.lowered lower) {e : ε} {r : Stack}
    (ho : o = ⟨.error e, r⟩) :
    ∃ e' r', p = ⟨.error e', r'⟩ ∧ lower e = lower e' ∧ r.lowered = r'.lowered := by
  subst ho
  obtain ⟨result, r'⟩ := p
  have hresult : result.mapError lower = .error (lower e) := (congrArg TextOutcome.result h).symm
  obtain ⟨e', rfl, he⟩ := SpendScript.mapError_eq_error_iff.mp hresult
  exact ⟨e', r', rfl, he, congrArg TextOutcome.texts h⟩

end Outcome

namespace Token

theorem ignoresCase_toLower {t : Token} : t.toLower.IgnoresCase ↔ t.IgnoresCase := by
  cases t with
  | push text => simp [toLower, IgnoresCase]
  | operation op => rfl
  | unknown name => rfl

theorem IgnoresCase.of_toLower_eq {t u : Token} (ht : t.IgnoresCase) (h : t.toLower = u.toLower) :
    u.IgnoresCase := by
  rw [← ignoresCase_toLower, ← h, ignoresCase_toLower]
  exact ht

/-- A token that fails does not push, and so is the same if it is so in
lower case. -/
theorem eq_of_toLower_eq {t u : Token} {s r : Stack} {fault : Fault}
    (hfault : t.eval flags checker s = ⟨.error fault, r⟩) (h : t.toLower = u.toLower) : t = u := by
  cases t with
  | push text => cases hfault
  | operation op =>
    cases u with
    | push text => cases h
    | operation op' => exact h
    | unknown name => cases h
  | unknown name =>
    cases u with
    | push text => cases h
    | operation op => cases h
    | unknown name' => exact h

/-- **Tokens that are the same in lower case** do the same in lower case. -/
theorem lowered_eval (flags : Flags) (checker : SignatureChecker) {t u : Token}
    (ht : t.IgnoresCase) (h : t.toLower = u.toLower) {s r : Stack}
    (hstack : s.lowered = r.lowered) :
    (t.eval flags checker s).forget.lowered Fault.toLower =
      (u.eval flags checker r).forget.lowered Fault.toLower := by
  rw [TextMachine.forget_evalToken, TextMachine.forget_evalToken,
    ← TextMachine.stepToken_lowered ht, ← TextMachine.stepToken_lowered (ht.of_toLower_eq h), h]
  exact congrArg _ hstack

end Token

namespace Code

/-- **And so do lists of them.** -/
theorem lowered_runTokens (flags : Flags) (checker : SignatureChecker) {ts us : List Token}
    (hts : ∀ t ∈ ts, t.IgnoresCase) (h : ts.map Token.toLower = us.map Token.toLower) {s r : Stack}
    (hstack : s.lowered = r.lowered) :
    (runTokens flags checker ts s).forget.lowered ScriptError.toLower =
      (runTokens flags checker us r).forget.lowered ScriptError.toLower := by
  have hus : ∀ u ∈ us, u.IgnoresCase := by
    intro u hu
    have hmem : u.toLower ∈ ts.map Token.toLower := by
      rw [h]
      exact List.mem_map_of_mem hu
    obtain ⟨t, ht, htu⟩ := List.mem_map.mp hmem
    exact (hts t ht).of_toLower_eq htu
  rw [TextMachine.forget_runTokens, TextMachine.forget_runTokens, ← TextMachine.run_lowered hts,
    ← TextMachine.run_lowered hus, h]
  exact congrArg _ hstack

/-- Two scripts that are the same in lower case stop at the same place:
what comes before it succeeds for both, and the token there is the same
one, as it fails. -/
theorem stopsAt_of_lowered {c d : Code} (hc : ∀ t ∈ c.tokens, t.IgnoresCase)
    (hcode : c.toLower = d.toLower) {s t r : Stack} (hstack : s.lowered = t.lowered)
    {e : ScriptError} (hrun : c.run flags checker s = ⟨.error e, r⟩) :
    ∃ place token fault fault' r',
      c.StopsAt flags checker s place ∧ d.StopsAt flags checker t place ∧
      c.tokens[place]? = some token ∧ d.tokens[place]? = some token ∧
      c.run flags checker s = ⟨.error (.interpreter (some token) fault), r⟩ ∧
      d.run flags checker t = ⟨.error (.interpreter (some token) fault'), r'⟩ ∧
      fault.toLower = fault'.toLower ∧ r.lowered = r'.lowered := by
  obtain ⟨before, token, after, left, fault, hsplit, hbefore, hfault, rfl⟩ :=
    runTokens_eq_error_iff.mp hrun
  -- The other script falls into the same parts.
  have htokens : d.tokens.map Token.toLower =
      before.map Token.toLower ++ token.toLower :: after.map Token.toLower := by
    have hmap : c.tokens.map Token.toLower = d.tokens.map Token.toLower :=
      congrArg Code.tokens hcode
    rw [← hmap, hsplit, List.map_append, List.map_cons]
  obtain ⟨before', rest, hsplit', hbefore', hrest⟩ := List.map_eq_append_iff.mp htokens
  obtain ⟨token', after', rfl, htoken, -⟩ := List.map_eq_cons_iff.mp hrest
  have hlength : before'.length = before.length := by
    simpa using congrArg List.length hbefore'
  have hcbefore : ∀ u ∈ before, u.IgnoresCase := fun u hu => hc u (by simp [hsplit, hu])
  have hctoken : token.IgnoresCase := hc token (by simp [hsplit])
  -- It comes as far, and fails there with the same token.
  obtain ⟨left', hrun', hleft⟩ := Outcome.ok_of_lowered
    (lowered_runTokens flags checker hcbefore hbefore'.symm hstack) hbefore
  obtain ⟨fault', r', hfault', hlower, hr⟩ := Outcome.error_of_lowered
    (Token.lowered_eval flags checker hctoken htoken.symm hleft) hfault
  obtain rfl := Token.eq_of_toLower_eq hfault htoken.symm
  refine ⟨before.length, token, fault, fault', r', stopsAt_of_fault hsplit hbefore hfault, ?_, ?_,
    ?_, hrun, ?_, hlower, hr⟩
  · rw [← hlength]
    exact stopsAt_of_fault hsplit' hrun' hfault'
  · simp [hsplit]
  · simp [hsplit', ← hlength]
  · exact runTokens_eq_error_iff.mpr
      ⟨before', token, after', left', fault', hsplit', hrun', hfault', rfl⟩

/-- As locks they have the same verdict, or errors that are the same in
lower case. -/
theorem mapError_evalLock (flags : Flags) (checker : SignatureChecker) {c d : Code}
    (hc : ∀ t ∈ c.tokens, t.IgnoresCase)
    (hcode : c.toLower = d.toLower) {s t : Stack} (hstack : s.lowered = t.lowered) :
    (c.evalLock flags checker s).mapError ScriptError.toLower =
      (d.evalLock flags checker t).mapError ScriptError.toLower := by
  rw [TextMachine.evalLock_eq_verdict, TextMachine.evalLock_eq_verdict,
    ← TextMachine.verdict_lowered, ← TextMachine.verdict_lowered,
    ← TextMachine.forget_runTokens, ← TextMachine.forget_runTokens,
    lowered_runTokens flags checker hc (congrArg Code.tokens hcode) hstack]

/-- **Letter case is immaterial but to equality.** Let two scripts push the
same texts up to the case of ASCII letters and be the same otherwise, let
neither ask whether two elements are equal, and run them on stacks whose
texts are the same up to case. Both succeed, and leave stacks that are the
same up to case; or both stop at the same place, where they have the same
token, with faults and stacks that are the same up to case. As locks both
give the same verdict, or both give none. -/
theorem run_blind_to_case (flags : Flags) (checker : SignatureChecker) {c d : Code} {s t : Stack}
    (hcode : c.toLower = d.toLower) (hstack : s.lowered = t.lowered)
    (hequal : .operation .equal ∉ c.tokens) (hverify : .operation .equalVerify ∉ c.tokens) :
    ((∃ r r', c.run flags checker s = ⟨.ok (), r⟩ ∧ d.run flags checker t = ⟨.ok (), r'⟩ ∧
        r.lowered = r'.lowered) ∨
      ∃ place token fault fault' r r',
        c.StopsAt flags checker s place ∧ d.StopsAt flags checker t place ∧
        c.tokens[place]? = some token ∧ d.tokens[place]? = some token ∧
        c.run flags checker s = ⟨.error (.interpreter (some token) fault), r⟩ ∧
        d.run flags checker t = ⟨.error (.interpreter (some token) fault'), r'⟩ ∧
        fault.toLower = fault'.toLower ∧ r.lowered = r'.lowered) ∧
      ((∃ b, c.evalLock flags checker s = .ok b ∧ d.evalLock flags checker t = .ok b) ∨
        ∃ e e', c.evalLock flags checker s = .error e ∧ d.evalLock flags checker t = .error e' ∧
          e.toLower = e'.toLower) := by
  have hc : ∀ t ∈ c.tokens, t.IgnoresCase := fun t ht =>
    ⟨fun heq => hequal (heq ▸ ht), fun heq => hverify (heq ▸ ht)⟩
  constructor
  · cases hrun : c.run flags checker s with
    | mk result r =>
      cases result with
      | ok a =>
        obtain ⟨r', hrun', hr⟩ := Outcome.ok_of_lowered
          (lowered_runTokens flags checker hc (congrArg Code.tokens hcode) hstack) hrun
        exact .inl ⟨r, r', rfl, hrun', hr⟩
      | error e =>
        obtain ⟨place, token, fault, fault', r', hplace⟩ := stopsAt_of_lowered hc hcode hstack hrun
        exact .inr ⟨place, token, fault, fault', r, r', hrun ▸ hplace⟩
  · have hlock := mapError_evalLock flags checker hc hcode hstack
    cases hcl : c.evalLock flags checker s with
    | ok b =>
      rw [hcl] at hlock
      exact .inl ⟨b, rfl, mapError_eq_ok_iff.mp hlock.symm⟩
    | error e =>
      rw [hcl] at hlock
      obtain ⟨e', he', hlower⟩ := mapError_eq_error_iff.mp hlock.symm
      exact .inr ⟨e, e', rfl, he', hlower⟩

/-- A sum of two numbers in hexadecimal, then a digest of what has a letter
that is no digit, on bytes and on their text in capitals. The letter is
blamed in the case that it has. -/
theorem run_blind_to_case_of_capitals :
    let c : Code := ⟨[.push "0X1F", .operation .add, .push "ABxY", .operation .sha256]⟩
    let d : Code := ⟨[.push "0x1f", .operation .add, .push "abXy", .operation .sha256]⟩
    let s : Stack := [.literal "0XC", .literal "FF"]
    let t : Stack := [.literal "0xC", .bytes [0xff]]
    c.toLower = d.toLower ∧ s.lowered = t.lowered ∧ .operation .equal ∉ c.tokens ∧
      .operation .equalVerify ∉ c.tokens ∧
      c.run .none .rejectAll s =
        ⟨.error (.interpreter (some (.operation .sha256))
          (.invalidEncoding (.invalidCharacter 120 2))), [.num 43, .literal "FF"]⟩ ∧
      ∃ place token fault fault' r r',
        c.StopsAt .none .rejectAll s place ∧ d.StopsAt .none .rejectAll t place ∧
        c.tokens[place]? = some token ∧ d.tokens[place]? = some token ∧
        c.run .none .rejectAll s = ⟨.error (.interpreter (some token) fault), r⟩ ∧
        d.run .none .rejectAll t = ⟨.error (.interpreter (some token) fault'), r'⟩ ∧
        fault.toLower = fault'.toLower ∧ r.lowered = r'.lowered := by
  intro c d s t
  have hnum : "0X1F".toLower = "0x1f".toLower := Text.toLower_eq_toLower_iff.mpr (by decide)
  have htext : "ABxY".toLower = "abXy".toLower := Text.toLower_eq_toLower_iff.mpr (by decide)
  have hcode : c.toLower = d.toLower := by
    simp only [c, d, toLower, List.map_cons, List.map_nil, Token.toLower, hnum, htext]
  have htop : "0XC".toLower = "0xC".toLower := Text.toLower_eq_toLower_iff.mpr (by decide)
  have hbytes : "FF".toLower = (Hex.encode [0xff]).toLower :=
    Text.toLower_eq_toLower_iff.mpr (by decide)
  have hstack : s.lowered = t.lowered := by
    simp only [s, t, Stack.lowered, List.map_cons, List.map_nil, Value.text, htop, hbytes]
  have hequal : .operation .equal ∉ c.tokens := by decide
  have hverify : .operation .equalVerify ∉ c.tokens := by decide
  have hrun : c.run .none .rejectAll s =
      ⟨.error (.interpreter (some (.operation .sha256))
        (.invalidEncoding (.invalidCharacter 120 2))), [.num 43, .literal "FF"]⟩ := rfl
  refine ⟨hcode, hstack, hequal, hverify, hrun, ?_⟩
  rcases (run_blind_to_case .none .rejectAll hcode hstack hequal hverify).1 with
    ⟨r, r', hok, -⟩ | hstops
  · rw [hrun] at hok
    cases hok
  · exact hstops

-- Equality is left out for a reason: it tells a capital from a small letter.
example :
    (Code.mk [.push "A", .push "a", .operation .equal]).run .none .rejectAll [] =
        ⟨.ok (), [.num 0]⟩ ∧
      (Code.mk [.push "a", .push "a", .operation .equal]).run .none .rejectAll [] =
        ⟨.ok (), [.num 1]⟩ :=
  ⟨rfl, rfl⟩

end Code

end SpendScript
