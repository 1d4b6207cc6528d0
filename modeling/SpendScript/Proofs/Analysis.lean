import SpendScript.Proofs.Failure
/-!
# Faults found without a run

Looking a script over finds the names that no operation goes by, and a run
fails at each of them that it comes to. The two agree: a run that succeeds
has come to all tokens, so there is no such name; a run that fails at one
has come past all tokens before it, so it is the first
(`analyze_of_run_eq_error`); and since nothing else raises that fault, a
script without such a name never fails with it.

For a spend this carries over to which of the two scripts is named, as the
lock script is run only when the unlock script has come to its end.
-/

namespace SpendScript

variable {flags : Flags} {checker : SignatureChecker}

/-! ## The fault of an unknown name -/

/-- An operation is not unknown. -/
theorem Operation.not_raises_unsupportedOpcode (op : Operation) (name : String) :
    ¬ op.Raises (.unsupportedOpcode name) := by
  have hunderflow : ¬ (Fault.unsupportedOpcode name).IsUnderflow := nofun
  have harithmetic : ¬ (Fault.unsupportedOpcode name).OfArithmetic := nofun
  have hcredential : ¬ (Fault.unsupportedOpcode name).OfCredential := nofun
  have hcount : ¬ (Fault.unsupportedOpcode name).OfCount := nofun
  cases op <;> simp [Raises, hunderflow, harithmetic, hcredential, hcount]

/-- **Only an unknown name raises its fault.** -/
theorem Token.eq_unknown_of_eval {t : Token} {s r : Stack} {name : String}
    (h : t.eval flags checker s = ⟨.error (.unsupportedOpcode name), r⟩) : t = .unknown name := by
  cases t with
  | push text => cases h
  | operation op => exact absurd (Operation.raises_of_eval h) (op.not_raises_unsupportedOpcode name)
  | unknown other =>
    cases h
    rfl

namespace Code

/-- A run that succeeds has come to no unknown name. -/
theorem unknown_not_mem_of_runTokens {ts : List Token} {s r : Stack}
    (h : runTokens flags checker ts s = ⟨.ok (), r⟩) (name : String) : .unknown name ∉ ts := by
  intro hmem
  obtain ⟨before, after, rfl⟩ := List.append_of_mem hmem
  rw [runTokens_append, Outcome.andThen_eq_ok_iff] at h
  obtain ⟨_, left, -, hrest⟩ := h
  obtain ⟨s', hstep, -⟩ := runTokens_cons_eq_ok_iff.mp hrest
  cases hstep

/-! ## What is found -/

/-- The names in a script that no operation goes by, in order. -/
def unknownNames (c : Code) : List String :=
  c.tokens.flatMap fun
    | .unknown name => [name]
    | .push _ => []
    | .operation _ => []

/-- **What is found is those names.** -/
theorem analyze_eq_map_unknownNames (c : Code) :
    c.analyze = c.unknownNames.map Fault.unsupportedOpcode := by
  obtain ⟨ts⟩ := c
  simp only [analyze, unknownNames]
  induction ts with
  | nil => rfl
  | cons t ts ih =>
    rw [List.filterMap_cons, List.flatMap_cons, List.map_append, ← ih]
    cases t with
    | push text => rfl
    | operation op => rfl
    | unknown name => rfl

theorem analyze_eq_nil_iff {c : Code} : c.analyze = [] ↔ ∀ name, .unknown name ∉ c.tokens := by
  rw [analyze, List.filterMap_eq_nil_iff]
  constructor
  · intro h name hmem
    cases h _ hmem
  · intro h t ht
    cases t with
    | push text => rfl
    | operation op => rfl
    | unknown name => exact absurd ht (h name)

/-- A script that runs to its end is found faultless. -/
theorem analyze_of_run_eq_ok {c : Code} {s r : Stack} (h : c.run flags checker s = ⟨.ok (), r⟩) :
    c.analyze = [] :=
  analyze_eq_nil_iff.mpr fun name => unknown_not_mem_of_runTokens h name

/-- **And one that fails at an unknown name is found to have it first.** -/
theorem analyze_of_run_eq_error {c : Code} {s r : Stack} {t : Option Token} {name : String}
    (h : c.run flags checker s = ⟨.error (.interpreter t (.unsupportedOpcode name)), r⟩) :
    ∃ rest, c.analyze = .unsupportedOpcode name :: rest := by
  obtain ⟨before, u, after, left, fault, hsplit, hbefore, hfault, he⟩ :=
    runTokens_eq_error_iff.mp h
  cases he
  obtain rfl := Token.eq_unknown_of_eval hfault
  have hnone : before.filterMap Token.analyze = [] :=
    analyze_eq_nil_iff (c := ⟨before⟩).mpr fun other => unknown_not_mem_of_runTokens hbefore other
  refine ⟨after.filterMap Token.analyze, ?_⟩
  rw [analyze, hsplit, List.filterMap_append, hnone]
  rfl

/-! ## Where a run stops -/

/-- A run stops at a place: the tokens before it succeed, the one there
fails, and that is how the run ends. -/
def StopsAt (flags : Flags) (checker : SignatureChecker) (c : Code) (s : Stack) (place : Nat) :
    Prop :=
  ∃ t left fault r, c.tokens[place]? = some t ∧
    runTokens flags checker (c.tokens.take place) s = ⟨.ok (), left⟩ ∧
    t.eval flags checker left = ⟨.error fault, r⟩ ∧
    c.run flags checker s = ⟨.error (.interpreter (some t) fault), r⟩

/-- A token that fails, all before it having succeeded, is where a run
stops. -/
theorem stopsAt_of_fault {c : Code} {before after : List Token} {t : Token} {s left r : Stack}
    {fault : Fault} (hsplit : c.tokens = before ++ t :: after)
    (hbefore : runTokens flags checker before s = ⟨.ok (), left⟩)
    (hfault : t.eval flags checker left = ⟨.error fault, r⟩) :
    c.StopsAt flags checker s before.length := by
  refine ⟨t, left, fault, r, ?_, ?_, hfault, ?_⟩
  · simp [hsplit]
  · simpa [hsplit] using hbefore
  · exact runTokens_eq_error_iff.mpr
      ⟨before, t, after, left, fault, hsplit, hbefore, hfault, rfl⟩

/-- A run that fails stops at some place. -/
theorem exists_stopsAt {c : Code} {s r : Stack} {e : ScriptError}
    (h : c.run flags checker s = ⟨.error e, r⟩) : ∃ place, c.StopsAt flags checker s place := by
  obtain ⟨before, t, after, left, fault, hsplit, hbefore, hfault, -⟩ :=
    runTokens_eq_error_iff.mp h
  exact ⟨before.length, stopsAt_of_fault hsplit hbefore hfault⟩

/-- **It does not get past an unknown name.** -/
theorem StopsAt.le {c : Code} {s : Stack} {stop place : Nat} (h : c.StopsAt flags checker s stop)
    {name : String} (hplace : c.tokens[place]? = some (.unknown name)) : stop ≤ place := by
  obtain ⟨t, left, fault, r, -, hbefore, -, -⟩ := h
  refine Nat.le_of_not_lt fun hpast => ?_
  have hmem : Token.unknown name ∈ c.tokens.take stop := by
    refine List.mem_of_getElem? (i := place) ?_
    rw [List.getElem?_take_of_lt hpast, hplace]
  exact unknown_not_mem_of_runTokens hbefore name hmem

/-- **And so it stops there or before.** -/
theorem exists_stopsAt_le {c : Code} {place : Nat} {name : String}
    (hplace : c.tokens[place]? = some (.unknown name)) (flags : Flags)
    (checker : SignatureChecker) (s : Stack) :
    ∃ stop ≤ place, c.StopsAt flags checker s stop := by
  cases hrun : c.run flags checker s with
  | mk result r =>
    cases result with
    | ok a => exact absurd (List.mem_of_getElem? hplace) (unknown_not_mem_of_runTokens hrun name)
    | error e =>
      obtain ⟨stop, hstop⟩ := exists_stopsAt hrun
      exact ⟨stop, hstop.le hplace, hstop⟩

end Code

/-! ## Spends -/

namespace Spend

theorem analyze_eq_ok_iff {spend : Spend} :
    spend.analyze = .ok () ↔ spend.unlock.analyze = [] ∧ spend.lock.analyze = [] := by
  unfold analyze
  by_cases hunlock : spend.unlock.analyze = []
  · by_cases hlock : spend.lock.analyze = []
    · simp [hunlock, hlock]
    · simp [hunlock, hlock]
  · simp [hunlock]

/-- A verdict takes both scripts to their ends. -/
theorem analyze_of_eval_eq_ok {spend : Spend} {b : Bool}
    (h : spend.eval flags checker = .ok b) : spend.analyze = .ok () := by
  obtain ⟨-, s, hopen, t, hlock, -⟩ := eval_eq_ok_iff.mp h
  exact analyze_eq_ok_iff.mpr
    ⟨Code.analyze_of_run_eq_ok hopen.1, Code.analyze_of_run_eq_ok hlock⟩

/-- **The script that fails at an unknown name is the one named.** The lock
script is looked over only where the unlock script is faultless, and run
only where that came to its end. -/
theorem analyze_of_eval_eq_error {spend : Spend} {component : Component} {t : Option Token}
    {name : String}
    (h : spend.eval flags checker =
      .error (component, .interpreter t (.unsupportedOpcode name))) :
    ∃ rest, spend.analyze = .error (component, .unsupportedOpcode name :: rest) := by
  cases component with
  | unlock =>
    rcases eval_eq_error_unlock_iff.mp h with ⟨-, he⟩ | ⟨-, hunlock⟩
    · cases he
    · rcases Code.evalUnlock_eq_error_iff.mp hunlock with ⟨r, hrun⟩ | ⟨-, he⟩ | ⟨s, v, -, -, he⟩
      · obtain ⟨rest, hrest⟩ := Code.analyze_of_run_eq_error hrun
        exact ⟨rest, by simp [analyze, hrest]⟩
      · cases he
      · cases he
  | lock =>
    obtain ⟨-, s, hunlock, hlock⟩ := eval_eq_error_lock_iff.mp h
    have hnone : spend.unlock.analyze = [] :=
      Code.analyze_of_run_eq_ok (Code.evalUnlock_eq_ok_iff.mp hunlock).1
    rcases Code.evalLock_eq_error_iff.mp hlock with ⟨r, hrun⟩ | ⟨-, he⟩ | ⟨v, left, -, -, -, -, he⟩
    · obtain ⟨rest, hrest⟩ := Code.analyze_of_run_eq_error hrun
      exact ⟨rest, by simp [analyze, hnone, hrest]⟩
    · cases he
    · cases he

/-- **Looking a spend over agrees with evaluating it.** A spend that has a
verdict is found faultless. If an evaluation fails at an unknown name, the
same script is found to have it, and first. A spend that is found
faultless has no run of either script, on any stack, that fails at an
unknown name. And in any script what is found is its unknown names in
order, each of which no run gets past. -/
theorem analyze_agrees_with_eval (spend : Spend) :
    (∀ flags checker b, spend.eval flags checker = .ok b → spend.analyze = .ok ()) ∧
      (∀ flags checker component t name,
        spend.eval flags checker =
          .error (component, .interpreter t (.unsupportedOpcode name)) →
        ∃ rest, spend.analyze = .error (component, .unsupportedOpcode name :: rest)) ∧
      (spend.analyze = .ok () → ∀ c, c = spend.unlock ∨ c = spend.lock →
        ∀ flags checker s t name,
          (c.run flags checker s).result ≠ .error (.interpreter t (.unsupportedOpcode name))) ∧
      ∀ c : Code, c.analyze = c.unknownNames.map Fault.unsupportedOpcode ∧
        ∀ (place : Nat) (name : String), c.tokens[place]? = some (.unknown name) →
          ∀ flags checker s, ∃ stop ≤ place, c.StopsAt flags checker s stop := by
  refine ⟨fun _ _ _ h => analyze_of_eval_eq_ok h, fun _ _ _ _ _ h => analyze_of_eval_eq_error h,
    fun hnone c hc flags checker s t name hresult => ?_,
    fun c => ⟨c.analyze_eq_map_unknownNames, fun place name hplace =>
      Code.exists_stopsAt_le hplace⟩⟩
  obtain ⟨hunlock, hlock⟩ := analyze_eq_ok_iff.mp hnone
  have hc' : c.analyze = [] := by
    rcases hc with rfl | rfl
    · exact hunlock
    · exact hlock
  cases hrun : c.run flags checker s with
  | mk result r =>
    rw [hrun] at hresult
    cases hresult
    obtain ⟨rest, hrest⟩ := Code.analyze_of_run_eq_error hrun
    rw [hc'] at hrest
    cases hrest

/-- An unknown name in each script, and the one in the lock script behind a
fault of another kind. The run of the unlock script stops at its own. -/
theorem analyze_agrees_with_eval_of_two_unknown :
    let spend : Spend :=
      ⟨⟨[.push "1", .unknown "OP_NOP"]⟩, ⟨[.operation .halt, .unknown "OP_IF"]⟩⟩
    spend.eval .none .rejectAll = .error (.unlock,
        .interpreter (some (.unknown "OP_NOP")) (.unsupportedOpcode "OP_NOP")) ∧
      (∃ rest, spend.analyze = .error (.unlock, .unsupportedOpcode "OP_NOP" :: rest)) ∧
      spend.lock.tokens[1]? = some (.unknown "OP_IF") ∧
      ∃ stop ≤ 1, spend.lock.StopsAt .none .rejectAll [] stop := by
  intro spend
  have hfault : spend.eval .none .rejectAll = .error (.unlock,
      .interpreter (some (.unknown "OP_NOP")) (.unsupportedOpcode "OP_NOP")) := rfl
  have hplace : spend.lock.tokens[1]? = some (.unknown "OP_IF") := rfl
  obtain ⟨-, hfound, -, hcodes⟩ := analyze_agrees_with_eval spend
  exact ⟨hfault, hfound _ _ _ _ _ hfault, hplace,
    (hcodes spend.lock).2 1 "OP_IF" hplace .none .rejectAll []⟩

end Spend

end SpendScript
