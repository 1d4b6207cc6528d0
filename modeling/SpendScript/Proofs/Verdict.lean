import SpendScript.Proofs.Success
import SpendScript.Proofs.Value
import SpendScript.Spend
/-!
# The verdict on a spend

A spend is decided in two phases, with a rule on the unlock script before
them and a rule on the stack after them. Here the decision is put as one
condition: on the unlock script alone (`PushRule`, `Opens`), and on the
final stack of the two scripts run as one (`Decides`). Each phase has an
exact law of its own (`evalUnlock_eq_ok_iff`, `evalLock_eq_ok_iff`), and
the verdict on the whole is read off them.
-/

namespace SpendScript

variable {flags : Flags} {checker : SignatureChecker}

/-- An answer is the only element, and not `0`, exactly when it is yes and
nothing lies below. -/
theorem Value.exists_singleton_ofBool_iff {b : Bool} {rest : Stack} :
    (∃ v : Value, Value.ofBool b :: rest = [v] ∧ v.text ≠ "0") ↔ b = true ∧ rest = [] := by
  cases b with
  | false => simp
  | true =>
    constructor
    · rintro ⟨v, hv, -⟩
      exact ⟨rfl, (List.cons.inj hv).2⟩
    · rintro ⟨-, rfl⟩
      exact ⟨Value.ofBool true, rfl, by simp⟩

namespace Code

/-! ## The condition -/

/-- Where only pushes are allowed to unlock, the script does nothing else. -/
def PushRule (flags : Flags) (u : Code) : Prop :=
  flags.sigPushOnly = true → ∀ t ∈ u.tokens, ∃ text, t = .push text

/-- Run from the empty stack, the script succeeds and leaves something, and
nothing with the shape of an operation's name. -/
def Opens (flags : Flags) (checker : SignatureChecker) (u : Code) (s : Stack) : Prop :=
  u.run flags checker [] = ⟨.ok (), s⟩ ∧ s ≠ [] ∧ ∀ v ∈ s, isOpcode v.text = false

/-- The verdict that a final stack gives: no if its top is `0`, and else
yes, where a clean stack is asked for only if nothing lies below. -/
def Decides (flags : Flags) (s : Stack) (b : Bool) : Prop :=
  ∃ v rest, s = v :: rest ∧
    if v.text = "0" then b = false
    else b = true ∧ (flags.cleanStack = true → s.length = 1)

/-! ## The two phases -/

theorem isPushOnly_eq_true_iff {u : Code} :
    u.isPushOnly = true ↔ ∀ t ∈ u.tokens, ∃ text, t = .push text := by
  rw [isPushOnly, List.all_eq_true]
  refine forall₂_congr fun t _ => ?_
  cases t with
  | push text => simp [Token.isPush]
  | operation op => simp [Token.isPush]
  | unknown name => simp [Token.isPush]

/-- What the check before the run asks for. -/
theorem pushRule_iff {u : Code} :
    PushRule flags u ↔ (flags.sigPushOnly && !u.isPushOnly) = false := by
  rw [PushRule, ← isPushOnly_eq_true_iff]
  cases flags.sigPushOnly <;> cases u.isPushOnly <;> simp

/-- No element has the shape of an operation's name where none is found. -/
theorem find?_isOpcode_eq_none_iff {s : Stack} :
    s.bottomFirst.find? Value.isOpcode = none ↔ ∀ v ∈ s, isOpcode v.text = false := by
  rw [List.find?_eq_none]
  simp only [Stack.bottomFirst, List.mem_reverse, Value.isOpcode_eq_isOpcode_text,
    Bool.not_eq_true]

/-- **The first phase** leaves a stack exactly when the script opens with
it. -/
theorem evalUnlock_eq_ok_iff {u : Code} {s : Stack} :
    u.evalUnlock flags checker = .ok s ↔ u.Opens flags checker s := by
  unfold evalUnlock Opens
  obtain ⟨result, left⟩ := u.run flags checker []
  cases result with
  | error e => simp
  | ok a =>
    rcases left with _ | ⟨v, rest⟩
    · simp only [List.isEmpty_nil, if_true, Outcome.mk.injEq, true_and]
      constructor
      · intro h
        cases h
      · rintro ⟨rfl, hne, -⟩
        exact absurd rfl hne
    · simp only [List.isEmpty_cons, Bool.false_eq_true, if_false, Outcome.mk.injEq, true_and]
      -- The name that is reported is the lowest one; whether there is one does not depend on that.
      cases hfind : (Stack.bottomFirst (v :: rest)).find? Value.isOpcode with
      | none =>
        have hall := find?_isOpcode_eq_none_iff.mp hfind
        constructor
        · intro h
          cases h
          exact ⟨rfl, List.cons_ne_nil _ _, hall⟩
        · rintro ⟨rfl, -, -⟩
          rfl
      | some w =>
        constructor
        · intro h
          cases h
        · rintro ⟨rfl, -, hall⟩
          rw [find?_isOpcode_eq_none_iff.mpr hall] at hfind
          cases hfind

/-- An empty stack decides nothing. -/
theorem not_decides_nil {b : Bool} : ¬ Decides flags [] b := by
  rintro ⟨v, rest, h, -⟩
  cases h

theorem decides_cons_iff {v : Value} {rest : Stack} {b : Bool} :
    Decides flags (v :: rest) b ↔
      if v.text = "0" then b = false else b = true ∧ (flags.cleanStack = true → rest = []) := by
  have hlen : (v :: rest).length = 1 ↔ rest = [] := by simp
  unfold Decides
  rw [hlen]
  constructor
  · rintro ⟨w, left, h, hb⟩
    cases h
    exact hb
  · intro hb
    exact ⟨v, rest, rfl, hb⟩

/-- **The second phase** gives a verdict exactly when the run succeeds and
its stack decides for it. -/
theorem evalLock_eq_ok_iff {l : Code} {s : Stack} {b : Bool} :
    l.evalLock flags checker s = .ok b ↔
      ∃ t, l.run flags checker s = ⟨.ok (), t⟩ ∧ Decides flags t b := by
  unfold evalLock
  obtain ⟨result, left⟩ := l.run flags checker s
  cases result with
  | error e => simp
  | ok a =>
    simp only [Outcome.mk.injEq, true_and, exists_eq_left']
    cases left with
    | nil => simp [not_decides_nil]
    | cons v rest =>
      simp only [decides_cons_iff, Value.isFalse, beq_iff_eq]
      by_cases hzero : v.text = "0"
      · rw [if_pos hzero, if_pos hzero, Except.ok.injEq, eq_comm]
      · rw [if_neg hzero, if_neg hzero]
        by_cases hclean : flags.cleanStack = true ∧ rest ≠ []
        · simp [hclean.1, hclean.2]
        · have hrule : flags.cleanStack = true → rest = [] := fun h =>
            Classical.byContradiction fun hne => hclean ⟨h, hne⟩
          have htest : ¬ (flags.cleanStack && !rest.isEmpty) = true := by
            simpa using hrule
          rw [if_neg htest, Except.ok.injEq, eq_comm]
          exact ⟨fun hb => ⟨hb, hrule⟩, fun hb => hb.1⟩

/-- A script run after another is run on what that one left. -/
theorem run_append_of_opens {u l : Code} {s : Stack} (h : u.Opens flags checker s) :
    (Code.mk (u.tokens ++ l.tokens)).run flags checker [] = l.run flags checker s := by
  have hu : runTokens flags checker u.tokens [] = ⟨.ok (), s⟩ := h.1
  rw [run, runTokens_append, hu, Outcome.andThen_ok, run]

/-- **A script that only pushes opens** with what it pushes, if that is
something and none of it is a name. -/
theorem opens_pushes (flags : Flags) (checker : SignatureChecker) {u : Code} {ts : List String}
    (hu : u.tokens = ts.map Token.push) (hsome : ts ≠ []) (hname : ∀ t ∈ ts, isOpcode t = false) :
    u.PushRule flags ∧ u.Opens flags checker (ts.map Value.literal).reverse := by
  refine ⟨fun _ t ht => ?_, ?_, by simpa using hsome, fun v hv => ?_⟩
  · rw [hu, List.mem_map] at ht
    obtain ⟨text, -, rfl⟩ := ht
    exact ⟨text, rfl⟩
  · rw [run, hu, runTokens_pushes, List.append_nil]
  · rw [List.mem_reverse, List.mem_map] at hv
    obtain ⟨text, htext, rfl⟩ := hv
    exact hname text htext

/-- A lock script that leaves an answer and nothing else gives that answer,
clean stack or not. -/
theorem evalLock_of_answer {l : Code} {s : Stack} {b : Bool}
    (h : l.run flags checker s = ⟨.ok (), [Value.ofBool b]⟩) :
    l.evalLock flags checker s = .ok b := by
  refine evalLock_eq_ok_iff.mpr ⟨_, h, decides_cons_iff.mpr ?_⟩
  cases b with
  | false => rfl
  | true =>
    rw [if_neg (by decide)]
    exact ⟨rfl, fun _ => rfl⟩

end Code

namespace Spend

/-! ## The two phases together -/

/-- Where the rule holds and the unlock script opens, the lock script has
the say. -/
theorem eval_of_opens {spend : Spend} {s : Stack} (hrule : spend.unlock.PushRule flags)
    (hopen : spend.unlock.Opens flags checker s) :
    spend.eval flags checker =
      (spend.lock.evalLock flags checker s).mapError fun e => (.lock, e) := by
  rw [eval, Code.pushRule_iff.mp hrule, Code.evalUnlock_eq_ok_iff.mpr hopen]
  rfl

/-- It has the say on what an unlock script pushes that does nothing
else. -/
theorem eval_of_pushes (flags : Flags) (checker : SignatureChecker) {u l : Code} {ts : List String}
    (hu : u.tokens = ts.map Token.push) (hsome : ts ≠ []) (hname : ∀ t ∈ ts, isOpcode t = false) :
    (Spend.mk u l).eval flags checker =
      (l.evalLock flags checker (ts.map Value.literal).reverse).mapError fun e => (.lock, e) := by
  obtain ⟨hrule, hopen⟩ := Code.opens_pushes flags checker hu hsome hname
  exact eval_of_opens hrule hopen

/-- And where they do not, the unlock script is to blame. -/
theorem eval_of_not_opens {spend : Spend}
    (h : ¬ (spend.unlock.PushRule flags ∧ ∃ s, spend.unlock.Opens flags checker s)) :
    ∃ e, spend.eval flags checker = .error (.unlock, e) := by
  unfold eval
  by_cases hrule : spend.unlock.PushRule flags
  · rw [Code.pushRule_iff.mp hrule]
    cases hunlock : spend.unlock.evalUnlock flags checker with
    | error e => exact ⟨e, rfl⟩
    | ok s => exact absurd ⟨hrule, s, Code.evalUnlock_eq_ok_iff.mp hunlock⟩ h
  · have htest : (flags.sigPushOnly && !spend.unlock.isPushOnly) = true :=
      eq_true_of_ne_false fun hfalse => hrule (Code.pushRule_iff.mpr hfalse)
    exact ⟨.sigPushOnly, if_pos htest⟩

/-- **A spend has a verdict** exactly when the rule holds, the unlock
script opens, and the lock script gives that verdict on what it left. -/
theorem eval_eq_ok_iff {spend : Spend} {b : Bool} :
    spend.eval flags checker = .ok b ↔
      spend.unlock.PushRule flags ∧ ∃ s, spend.unlock.Opens flags checker s ∧
        ∃ t, spend.lock.run flags checker s = ⟨.ok (), t⟩ ∧ Code.Decides flags t b := by
  simp only [← Code.evalLock_eq_ok_iff]
  constructor
  · intro h
    by_cases hopens : spend.unlock.PushRule flags ∧ ∃ s, spend.unlock.Opens flags checker s
    · obtain ⟨hrule, s, hopen⟩ := hopens
      rw [eval_of_opens hrule hopen, mapError_eq_ok_iff] at h
      exact ⟨hrule, s, hopen, h⟩
    · obtain ⟨e, he⟩ := eval_of_not_opens hopens
      rw [he] at h
      cases h
  · rintro ⟨hrule, s, hopen, h⟩
    rw [eval_of_opens hrule hopen, mapError_eq_ok_iff]
    exact h

/-- The unlock script is blamed exactly when the rule fails or it does not
open. -/
theorem exists_eval_eq_error_unlock_iff {spend : Spend} :
    (∃ e, spend.eval flags checker = .error (.unlock, e)) ↔
      ¬ (spend.unlock.PushRule flags ∧ ∃ s, spend.unlock.Opens flags checker s) := by
  constructor
  · rintro ⟨e, he⟩ ⟨hrule, s, hopen⟩
    rw [eval_of_opens hrule hopen] at he
    cases hlock : spend.lock.evalLock flags checker s with
    | ok b =>
      rw [hlock] at he
      cases he
    | error e' =>
      rw [hlock] at he
      cases he
  · exact eval_of_not_opens

/-- The standard flags ask for a clean stack and for nothing of the unlock
script. -/
theorem pushRule_standard (u : Code) : u.PushRule .standard :=
  fun h => absurd h (by decide)

/-- **A spend goes through** exactly when the unlock script opens and the
lock script turns what it left into one element that is not `0`. -/
theorem verify_eq_true_iff {spend : Spend} {message : Bytes} :
    spend.verify message = true ↔
      ∃ s, spend.unlock.Opens .standard (.ofMessage message) s ∧
        ∃ v, spend.lock.run .standard (.ofMessage message) s = ⟨.ok (), [v]⟩ ∧ v.text ≠ "0" := by
  have hverify : spend.verify message = true ↔
      spend.eval .standard (.ofMessage message) = .ok true := by
    unfold verify
    cases spend.eval .standard (.ofMessage message) with
    | ok b => simp
    | error e => simp
  have hdecides : ∀ t, Code.Decides .standard t true ↔ ∃ v, t = [v] ∧ v.text ≠ "0" := fun t => by
    cases t with
    | nil => simp [Code.not_decides_nil]
    | cons v rest =>
      rw [Code.decides_cons_iff]
      constructor
      · intro h
        split at h
        · cases h
        · rename_i hv
          exact ⟨v, by rw [h.2 rfl], hv⟩
      · rintro ⟨w, hw, hv⟩
        cases hw
        rw [if_neg hv]
        exact ⟨rfl, fun _ => rfl⟩
  rw [hverify, eval_eq_ok_iff]
  simp only [pushRule_standard, true_and, hdecides]
  refine exists_congr fun s => and_congr_right fun _ => ?_
  constructor
  · rintro ⟨t, hrun, v, rfl, hv⟩
    exact ⟨v, hrun, hv⟩
  · rintro ⟨v, hrun, hv⟩
    exact ⟨[v], hrun, v, rfl, hv⟩

/-- **The exact verdict.** A spend has the verdict `b` exactly when the
unlock script keeps to the rule on pushes, opens from the empty stack, and
the two scripts run as one leave a stack that decides for `b`. Of the
errors, those of the unlock script are the cases where it breaks the rule
or does not open, and those of the lock script are all others. Under the
standard flags the spend goes through exactly when the unlock script opens
and the one run leaves a single element that is not `0`. -/
theorem eval_exact_verdict (flags : Flags) (checker : SignatureChecker) (spend : Spend) :
    (∀ b, spend.eval flags checker = .ok b ↔
      spend.unlock.PushRule flags ∧ (∃ s, spend.unlock.Opens flags checker s) ∧
        ∃ t, (Code.mk (spend.unlock.tokens ++ spend.lock.tokens)).run flags checker [] =
          ⟨.ok (), t⟩ ∧ Code.Decides flags t b) ∧
      ((∃ e, spend.eval flags checker = .error (.unlock, e)) ↔
        ¬ (spend.unlock.PushRule flags ∧ ∃ s, spend.unlock.Opens flags checker s)) ∧
      ((∃ e, spend.eval flags checker = .error (.lock, e)) ↔
        (spend.unlock.PushRule flags ∧ ∃ s, spend.unlock.Opens flags checker s) ∧
          ¬ ∃ b, spend.eval flags checker = .ok b) ∧
      ∀ message, spend.verify message = true ↔
        (∃ s, spend.unlock.Opens .standard (.ofMessage message) s) ∧
          ∃ v, (Code.mk (spend.unlock.tokens ++ spend.lock.tokens)).run .standard
            (.ofMessage message) [] = ⟨.ok (), [v]⟩ ∧ v.text ≠ "0" := by
  refine ⟨fun b => ?_, exists_eval_eq_error_unlock_iff, ?_, fun message => ?_⟩
  · rw [eval_eq_ok_iff]
    refine and_congr_right fun _ => ?_
    constructor
    · rintro ⟨s, hopen, t, hrun, hb⟩
      exact ⟨⟨s, hopen⟩, t, by rw [Code.run_append_of_opens hopen, hrun], hb⟩
    · rintro ⟨⟨s, hopen⟩, t, hrun, hb⟩
      rw [Code.run_append_of_opens hopen] at hrun
      exact ⟨s, hopen, t, hrun, hb⟩
  · -- An error is of one script or the other, and a verdict is of neither.
    have hopens : (spend.unlock.PushRule flags ∧ ∃ s, spend.unlock.Opens flags checker s) ↔
        ¬ ∃ e, spend.eval flags checker = .error (.unlock, e) := by
      rw [exists_eval_eq_error_unlock_iff, Classical.not_not]
    rw [hopens]
    rcases spend.eval flags checker with ⟨component, e⟩ | b
    · cases component <;> simp
    · simp
  · rw [verify_eq_true_iff]
    constructor
    · rintro ⟨s, hopen, v, hrun, hv⟩
      exact ⟨⟨s, hopen⟩, v, by rw [Code.run_append_of_opens hopen, hrun], hv⟩
    · rintro ⟨⟨s, hopen⟩, v, hrun, hv⟩
      rw [Code.run_append_of_opens hopen] at hrun
      exact ⟨s, hopen, v, hrun, hv⟩

end Spend

end SpendScript
