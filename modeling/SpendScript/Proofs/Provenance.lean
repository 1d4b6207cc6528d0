import SpendScript.Proofs.StackEffect
/-!
# Where elements come from

An element of a stack is a text that some token pushed, or something that
an operation made: a number, or a digest of twenty or thirty-two bytes.
One step keeps this (`Token.from_of_mem_eval`), and so it holds after
every step of a run from the empty stack, the failing one too.

Numbers and digests never have the shape of an operation's name, and
neither has what a script that was read from text pushes. So only a script
made by hand can leave such a text behind.
-/

namespace SpendScript

variable {flags : Flags} {checker : SignatureChecker}

/-- Where an element can come from once some tokens have run. -/
inductive Value.From (ts : List Token) : Value → Prop
  /-- One of them pushed it. -/
  | pushed {text : String} : .push text ∈ ts → From ts (.literal text)
  /-- An operation made it. -/
  | made {v : Value} : v.Made → From ts v

theorem Value.From.mono {v : Value} {ts us : List Token} (h : v.From ts) (hsub : ts ⊆ us) :
    v.From us := by
  cases h with
  | pushed hmem => exact .pushed (hsub hmem)
  | made hmade => exact .made hmade

/-! ## One step -/

/-- What is left when elements were taken off and put on was there before
or was made. -/
theorem Outcome.Exchanges.mem_stack {α : Type} {s : Stack} {taken put : Nat}
    {o : Outcome Fault α} (h : o.Exchanges s taken put) {v : Value} (hv : v ∈ o.stack) :
    v.Made ∨ v ∈ s := by
  cases h with
  | short _ => exact .inr hv
  | refused _ _ => exact .inr (List.mem_of_mem_drop hv)
  | done vs _ _ hvs =>
    rcases List.mem_append.mp hv with hnew | hold
    · exact hvs v hnew
    · exact .inr (List.mem_of_mem_drop hold)

/-- **An operation leaves what was there and what it made.** -/
theorem Operation.mem_stack_eval {op : Operation} {s : Stack} {v : Value}
    (hv : v ∈ (op.eval flags checker s).stack) : v.Made ∨ v ∈ s := by
  by_cases hop : op.IsMultisig
  · cases hend : op.eval flags checker s with
    | mk result r =>
      rw [hend] at hv
      cases result with
      | error fault => exact .inr ((suffix_of_isMultisig hop hend).1.mem hv)
      | ok a =>
        obtain ⟨taken, put, vs, -, -, -, hmade, rfl⟩ := arity_of_isMultisig hop hend
        rcases List.mem_append.mp hv with hnew | hold
        · exact .inl (hmade v hnew)
        · exact .inr (List.mem_of_mem_drop hold)
  · obtain ⟨taken, put, -, heffect⟩ := exchanges_eval flags checker hop s
    exact heffect.mem_stack hv

/-- **A step keeps it**, with the token that ran among those that did. -/
theorem Token.from_of_mem_eval {t : Token} {before : List Token} {s : Stack}
    (hs : ∀ v ∈ s, v.From before) {v : Value} (hv : v ∈ (t.eval flags checker s).stack) :
    v.From (before ++ [t]) := by
  have hold : ∀ w ∈ s, w.From (before ++ [t]) := fun w hw =>
    (hs w hw).mono (List.subset_append_left before [t])
  cases t with
  | push text =>
    rcases List.mem_cons.mp hv with rfl | hmem
    · exact .pushed (by simp)
    · exact hold v hmem
  | operation op =>
    rcases op.mem_stack_eval hv with hmade | hmem
    · exact .made hmade
    · exact hold v hmem
  | unknown name => exact hold v hv

/-! ## Runs -/

namespace Code

/-- **After every step of a run**, from a stack whose elements have come
from tokens that ran before it. -/
theorem from_of_traceTokens {ts before : List Token} {s : Stack} {i : Nat}
    {o : Outcome Fault Unit} (hs : ∀ v ∈ s, v.From before)
    (ho : (traceTokens flags checker ts s)[i]? = some o) :
    ∀ v ∈ o.stack, v.From (before ++ ts.take (i + 1)) := by
  induction ts generalizing before s i with
  | nil => cases ho
  | cons t ts ih =>
    have hstep : ∀ v ∈ (t.eval flags checker s).stack, v.From (before ++ [t]) :=
      fun v hv => Token.from_of_mem_eval hs hv
    rw [traceTokens] at ho
    cases i with
    | zero =>
      have heq : t.eval flags checker s = o := by
        cases hresult : (t.eval flags checker s).result <;> simpa [hresult] using ho
      rw [← heq]
      exact hstep
    | succ i =>
      cases hresult : (t.eval flags checker s).result with
      | error fault => simp [hresult] at ho
      | ok a =>
        simp only [hresult, List.getElem?_cons_succ] at ho
        have hrest := ih hstep ho
        rw [List.append_assoc] at hrest
        exact hrest

/-- A run leaves the stack it began on, if it has no tokens, or else the
one that its last step left. -/
theorem stack_runTokens (flags : Flags) (checker : SignatureChecker) (ts : List Token)
    (s : Stack) :
    (runTokens flags checker ts s).stack = s ∨
      ∃ o ∈ traceTokens flags checker ts s, (runTokens flags checker ts s).stack = o.stack := by
  induction ts generalizing s with
  | nil => exact .inl rfl
  | cons t ts ih =>
    right
    rw [runTokens, traceTokens]
    cases hend : t.eval flags checker s with
    | mk result left =>
      cases result with
      | error fault => exact ⟨_, List.mem_singleton_self _, rfl⟩
      | ok a =>
        rcases ih left with hsame | ⟨o, ho, hlast⟩
        · exact ⟨_, List.mem_cons_self, hsame⟩
        · exact ⟨o, List.mem_cons_of_mem _ ho, hlast⟩

/-- Before a run from the empty stack there are no elements, and so none
to account for. -/
theorem from_of_trace {c : Code} {i : Nat} {o : Outcome Fault Unit}
    (ho : (c.trace flags checker [])[i]? = some o) :
    ∀ v ∈ o.stack, v.From (c.tokens.take (i + 1)) := by
  have hempty : ∀ v ∈ ([] : Stack), v.From [] := fun v hv => absurd hv List.not_mem_nil
  exact from_of_traceTokens hempty ho

/-- What such a run has left by any step has come from its tokens. -/
theorem from_of_mem_trace {c : Code} {o : Outcome Fault Unit} (ho : o ∈ c.trace flags checker [])
    {v : Value} (hv : v ∈ o.stack) : v.From c.tokens := by
  obtain ⟨i, hi⟩ := List.mem_iff_getElem?.mp ho
  exact (from_of_trace hi v hv).mono (List.take_subset _ _)

/-- And what it leaves in the end. -/
theorem from_of_mem_run {c : Code} {s : Stack} {result : Except ScriptError Unit}
    (hrun : c.run flags checker [] = ⟨result, s⟩) {v : Value} (hv : v ∈ s) : v.From c.tokens := by
  have hstack : (runTokens flags checker c.tokens []).stack = s := congrArg Outcome.stack hrun
  rcases stack_runTokens flags checker c.tokens [] with hempty | ⟨o, ho, hlast⟩
  · rw [hstack] at hempty
    rw [hempty] at hv
    cases hv
  · rw [hstack] at hlast
    rw [hlast] at hv
    exact from_of_mem_trace ho hv

/-! ## Names left on the stack -/

/-- Every token is the one that some text stands for. -/
def IsRead (c : Code) : Prop :=
  ∀ t ∈ c.tokens, ∃ text, t = Token.parse text

/-- A script that a text writes is. -/
theorem isRead_parse (text : String) : (parse text).IsRead := by
  intro t ht
  obtain ⟨word, -, rfl⟩ := List.mem_map.mp ht
  exact ⟨String.ofList word, rfl⟩

/-- What such a script pushes has no operation's shape. -/
theorem IsRead.isOpcode_eq_false {c : Code} (hread : c.IsRead) {text : String}
    (h : .push text ∈ c.tokens) : isOpcode text = false := by
  obtain ⟨word, hword⟩ := hread _ h
  unfold Token.parse at hword
  split at hword
  · split at hword
    · cases hword
    · cases hword
  · rename_i hshape
    cases hword
    simpa using hshape

end Code

/-- What was made has no operation's shape. -/
theorem Value.Made.isOpcode_eq_false {v : Value} (h : v.Made) : v.isOpcode = false := by
  cases h with
  | num n => rfl
  | bytes hlen => rfl

/-- **An element with the shape of an operation's name was pushed.** -/
theorem Value.From.eq_literal {v : Value} {ts : List Token} (h : v.From ts)
    (hshape : v.isOpcode = true) : ∃ text, v = .literal text ∧ .push text ∈ ts := by
  cases h with
  | @pushed text hmem => exact ⟨text, rfl, hmem⟩
  | made hmade =>
    rw [hmade.isOpcode_eq_false] at hshape
    cases hshape

namespace Code

theorem IsRead.isOpcode_of_from {c : Code} (hread : c.IsRead) {v : Value}
    (hfrom : v.From c.tokens) : v.isOpcode = false := by
  cases hshape : v.isOpcode with
  | false => rfl
  | true =>
    obtain ⟨text, rfl, hmem⟩ := hfrom.eq_literal hshape
    rw [← hshape]
    exact hread.isOpcode_eq_false hmem

/-- **A name that is blamed was pushed**, and is the lowest on the stack. -/
theorem push_of_unconsumedOpcode {u : Code} {text : String}
    (h : u.evalUnlock flags checker = .error (.unconsumedOpcode text)) :
    .push text ∈ u.tokens ∧ isOpcode text = true ∧
      ∃ above below, u.run flags checker [] = ⟨.ok (), above ++ .literal text :: below⟩ ∧
        ∀ v ∈ below, isOpcode v.text = false := by
  obtain ⟨s, v, hrun, hfind, rfl⟩ : ∃ s v, u.run flags checker [] = ⟨.ok (), s⟩ ∧
      s.bottomFirst.find? Value.isOpcode = some v ∧ text = v.text := by
    rcases evalUnlock_eq_error_iff.mp h with ⟨r, hrun⟩ | ⟨-, he⟩ | ⟨s, v, hrun, hfind, he⟩
    · -- A run that fails blames a token and not what is on the stack.
      obtain ⟨t, fault, he⟩ := exists_eq_interpreter_of_run hrun
      cases he
    · cases he
    · exact ⟨s, v, hrun, hfind, ScriptError.unconsumedOpcode.inj he⟩
  obtain ⟨hshape, lower, upper, hsplit, hlower⟩ := List.find?_eq_some_iff_append.mp hfind
  have hs : s = upper.reverse ++ v :: lower.reverse := by
    rw [← List.reverse_reverse s]
    simp only [Stack.bottomFirst] at hsplit
    simp [hsplit]
  have hfrom : v.From u.tokens := from_of_mem_run hrun (by simp [hs])
  obtain ⟨text, rfl, hmem⟩ := hfrom.eq_literal hshape
  refine ⟨hmem, hshape, upper.reverse, lower.reverse, by rw [hrun, hs]; rfl, fun w hw => ?_⟩
  have hw' := hlower w (List.mem_reverse.mp hw)
  rw [← Value.isOpcode_eq_isOpcode_text]
  simpa using hw'

/-- **Where the elements of a stack come from.** After each step of a run
from the empty stack, the failing one too, an element is a text that one
of the tokens so far pushed, a number, or a digest of twenty or
thirty-two bytes. If every token stands for some text, as it does in a
script that was read, no element ever has the shape of an operation's
name, and neither the first phase nor the verdict on a spend blames one.
And whatever the script, a name that the first phase blames is one that a
token pushed, and the lowest on the stack that was left. -/
theorem elements_pushed_or_made (flags : Flags) (checker : SignatureChecker) (c : Code) :
    (∀ (i : Nat) (o : Outcome Fault Unit), (c.trace flags checker [])[i]? = some o →
      ∀ v ∈ o.stack, v.From (c.tokens.take (i + 1))) ∧
      (∀ text, (parse text).IsRead) ∧
      (c.IsRead →
        (∀ o ∈ c.trace flags checker [], ∀ v ∈ o.stack, isOpcode v.text = false) ∧
        (∀ text, c.evalUnlock flags checker ≠ .error (.unconsumedOpcode text)) ∧
        ∀ lock component text,
          (Spend.mk c lock).eval flags checker ≠ .error (component, .unconsumedOpcode text)) ∧
      ∀ text, c.evalUnlock flags checker = .error (.unconsumedOpcode text) →
        .push text ∈ c.tokens ∧ isOpcode text = true ∧
          ∃ above below, c.run flags checker [] = ⟨.ok (), above ++ .literal text :: below⟩ ∧
            ∀ v ∈ below, isOpcode v.text = false := by
  refine ⟨fun i o ho => from_of_trace ho, isRead_parse, fun hread => ?_,
    fun text h => push_of_unconsumedOpcode h⟩
  have hunlock : ∀ text, c.evalUnlock flags checker ≠ .error (.unconsumedOpcode text) := by
    intro text h
    obtain ⟨hmem, hshape, -⟩ := push_of_unconsumedOpcode h
    rw [hread.isOpcode_eq_false hmem] at hshape
    cases hshape
  refine ⟨fun o ho v hv => ?_, hunlock, fun lock component text h => ?_⟩
  · rw [← Value.isOpcode_eq_isOpcode_text]
    exact hread.isOpcode_of_from (from_of_mem_trace ho hv)
  · cases component with
    | unlock =>
      rcases Spend.eval_eq_error_unlock_iff.mp h with ⟨-, he⟩ | ⟨-, he⟩
      · cases he
      · exact hunlock text he
    | lock =>
      obtain ⟨-, s, -, he⟩ := Spend.eval_eq_error_lock_iff.mp h
      rcases evalLock_eq_error_iff.mp he with ⟨r, hrun⟩ | ⟨-, hkind⟩ | ⟨v, rest, -, -, -, -, hkind⟩
      · obtain ⟨t, fault, hkind⟩ := exists_eq_interpreter_of_run hrun
        cases hkind
      · cases hkind
      · cases hkind

/-- A script made by hand pushes two names. Both are left, and the lower
one is blamed. -/
theorem elements_pushed_or_made_of_two_names :
    let c : Code := ⟨[.push "1", .push "OP_ADD", .push "OP_SUB"]⟩
    c.evalUnlock .none .rejectAll = .error (.unconsumedOpcode "OP_ADD") ∧
      .push "OP_ADD" ∈ c.tokens ∧ isOpcode "OP_ADD" = true ∧
      ∃ above below, c.run .none .rejectAll [] =
          ⟨.ok (), above ++ .literal "OP_ADD" :: below⟩ ∧
        ∀ v ∈ below, isOpcode v.text = false := by
  intro c
  have hblamed : c.evalUnlock .none .rejectAll = .error (.unconsumedOpcode "OP_ADD") := rfl
  exact ⟨hblamed, (elements_pushed_or_made .none .rejectAll c).2.2.2 "OP_ADD" hblamed⟩

end Code

end SpendScript
