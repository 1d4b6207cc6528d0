import SpendScript.Code
import SpendScript.Proofs.Value
/-!
# What a success says

A success of anything that runs on a stack fixes the stack it ran on: as
far down as elements were taken off, and what was read from each of them.
This file has one exact law for each way of taking elements off and of
putting results back, up to the operation on many signatures, whose loops
are unrolled into one statement on the elements they took
(`popDecoded_eq_ok_iff`, `popCounted_eq_ok_iff`).
-/

namespace SpendScript

/-- Changing what is said of a failure leaves the successes alone. -/
theorem mapError_eq_ok_iff {ε ε' α : Type} {f : ε → ε'} {x : Except ε α} {a : α} :
    x.mapError f = .ok a ↔ x = .ok a := by
  cases x with
  | error e => exact ⟨nofun, nofun⟩
  | ok b =>
    have hmap : (Except.ok b : Except ε α).mapError f = .ok b := rfl
    rw [hmap, Except.ok.injEq, Except.ok.injEq]

namespace Outcome

variable {ε α β : Type}

theorem andThen_eq_ok_iff {o : Outcome ε α} {next : α → Stack → Outcome ε β} {b : β}
    {r : Stack} :
    o.andThen next = ⟨.ok b, r⟩ ↔ ∃ a s, o = ⟨.ok a, s⟩ ∧ next a s = ⟨.ok b, r⟩ := by
  obtain ⟨result, left⟩ := o
  cases result with
  | error e => simp
  | ok a =>
    rw [andThen_ok]
    constructor
    · intro h
      exact ⟨a, left, rfl, h⟩
    · rintro ⟨a', s, heq, h⟩
      cases heq
      exact h

theorem push_eq_ok_iff {o : Outcome ε Value} {r : Stack} :
    o.push = ⟨.ok (), r⟩ ↔ ∃ v s, o = ⟨.ok v, s⟩ ∧ r = v :: s := by
  rw [push, andThen_eq_ok_iff]
  simp only [mk.injEq, true_and, eq_comm]

theorem pushBool_eq_ok_iff {o : Outcome ε Bool} {r : Stack} :
    o.pushBool = ⟨.ok (), r⟩ ↔ ∃ b s, o = ⟨.ok b, s⟩ ∧ r = Value.ofBool b :: s := by
  rw [pushBool, andThen_eq_ok_iff]
  simp only [mk.injEq, true_and, eq_comm]

theorem mapError_eq_ok_iff {ε' : Type} {f : ε → ε'} {o : Outcome ε α} {a : α} {r : Stack} :
    o.mapError f = ⟨.ok a, r⟩ ↔ o = ⟨.ok a, r⟩ := by
  obtain ⟨result, left⟩ := o
  simp only [mapError, mk.injEq, SpendScript.mapError_eq_ok_iff]

end Outcome

namespace Stack

variable {α : Type}

theorem consumeOne_eq_ok_iff {f : Value → Except Fault α} {s r : Stack} {a : α} :
    s.consumeOne f = ⟨.ok a, r⟩ ↔ ∃ v, s = v :: r ∧ f v = .ok a := by
  cases s with
  | nil => simp [consumeOne]
  | cons v s =>
    simp only [consumeOne, Outcome.mk.injEq, List.cons.injEq]
    constructor
    · rintro ⟨h, rfl⟩
      exact ⟨v, ⟨rfl, rfl⟩, h⟩
    · rintro ⟨_, ⟨rfl, rfl⟩, h⟩
      exact ⟨h, rfl⟩

theorem consumeTwo_eq_ok_iff {f : Value → Value → Except Fault α} {s r : Stack} {a : α} :
    s.consumeTwo f = ⟨.ok a, r⟩ ↔ ∃ v w, s = w :: v :: r ∧ f v w = .ok a := by
  match s with
  | [] => simp [consumeTwo]
  | [w] => simp [consumeTwo]
  | w :: v :: s =>
    simp only [consumeTwo, Outcome.mk.injEq, List.cons.injEq]
    constructor
    · rintro ⟨h, rfl⟩
      exact ⟨v, w, ⟨rfl, rfl, rfl⟩, h⟩
    · rintro ⟨_, _, ⟨rfl, rfl, rfl⟩, h⟩
      exact ⟨h, rfl⟩

end Stack

/-! ## Readings -/

namespace Value

/-- A key or a signature is had from an element's bytes. -/
theorem toCredential_eq_ok_iff {α : Type} {decode : Bytes → Except CredentialError α} {v : Value}
    {a : α} : v.toCredential decode = .ok a ↔ ∃ b, v.toBytes = .ok b ∧ decode b = .ok a := by
  unfold toCredential
  cases v.toBytes with
  | error e => simp
  | ok b => simp [mapError_eq_ok_iff]

end Value

namespace Operation

variable {flags : Flags} {checker : SignatureChecker}

theorem ensure_eq_ok_iff {b : Bool} : ensure b = .ok () ↔ b = true := by
  cases b <;> simp [ensure]

theorem digest_eq_ok_iff {hash : Bytes → Bytes} {v w : Value} :
    digest hash v = .ok w ↔ ∃ b, v.toBytes = .ok b ∧ w = .bytes (hash b) := by
  unfold digest
  cases v.toBytes with
  | error e => simp
  | ok b => simp [eq_comm]

theorem checkOne_eq_ok_iff {sig key : Value} {b : Bool} :
    checkOne flags checker sig key = .ok b ↔
      ∃ k d, key.toKey flags = .ok k ∧ sig.toSignature flags = .ok d ∧ b = checker d k := by
  unfold checkOne
  cases key.toKey flags with
  | error e => simp
  | ok k =>
    cases sig.toSignature flags with
    | error e => simp
    | ok d => simp [eq_comm]

/-! ## Many elements -/

/-- **The elements a loop took off** are the top ones, as many as it was to
take, and each of them was decoded. -/
theorem popDecoded_eq_ok_iff {α : Type} {decode : Value → Except Fault α} {count : Nat}
    {s r : Stack} {as : List α} :
    popDecoded decode count s = ⟨.ok as, r⟩ ↔
      ∃ vs, vs.length = count ∧ s = vs ++ r ∧ vs.map decode = as.map Except.ok := by
  induction count generalizing s r as with
  | zero =>
    simp only [popDecoded, Outcome.mk.injEq, Except.ok.injEq, List.length_eq_zero_iff]
    constructor
    · rintro ⟨rfl, rfl⟩
      exact ⟨[], rfl, rfl, rfl⟩
    · rintro ⟨vs, rfl, rfl, h⟩
      cases as with
      | nil => exact ⟨rfl, rfl⟩
      | cons a as => cases h
  | succ count ih =>
    cases s with
    | nil =>
      simp only [popDecoded, Stack.pop, Outcome.andThen_error, Outcome.mk.injEq, reduceCtorEq,
        false_and, false_iff, not_exists, not_and]
      intro vs hlen happ
      cases vs with
      | nil => cases hlen
      | cons v vs => cases happ
    | cons v s =>
      rw [popDecoded, Stack.pop, Outcome.andThen_ok]
      constructor
      · intro h
        cases hv : decode v with
        | error e =>
          rw [hv] at h
          cases h
        | ok a =>
          simp only [hv, Outcome.andThen_eq_ok_iff, ih] at h
          obtain ⟨as', s', ⟨vs, hlen, rfl, hmap⟩, heq⟩ := h
          cases heq
          exact ⟨v :: vs, by rw [List.length_cons, hlen], rfl, by simp [hv, hmap]⟩
      · -- The first of the elements is the one on top, and the loop goes on with the others.
        rintro ⟨_ | ⟨w, vs⟩, hlen, happ, hmap⟩
        · cases hlen
        · obtain ⟨rfl, rfl⟩ := List.cons.inj happ
          cases as with
          | nil => cases hmap
          | cons a as =>
            obtain ⟨hv, hvs⟩ := List.cons.inj hmap
            simp only [hv, Outcome.andThen_eq_ok_iff, ih]
            exact ⟨as, r, ⟨vs, by simpa using hlen, rfl, hvs⟩, rfl⟩

/-- Elements can all be decoded, to what passes a test, when each can. -/
theorem exists_map_eq_ok_and_all_iff {α : Type} {decode : Value → Except Fault α}
    {test : α → Bool} {vs : List Value} :
    (∃ as : List α, vs.map decode = as.map Except.ok ∧ as.all test = true) ↔
      ∀ v ∈ vs, ∃ a, decode v = .ok a ∧ test a = true := by
  induction vs with
  | nil => simp
  | cons v vs ih =>
    rw [List.forall_mem_cons, ← ih]
    constructor
    · rintro ⟨as, hmap, hall⟩
      cases as with
      | nil => cases hmap
      | cons a as =>
        obtain ⟨hv, hvs⟩ := List.cons.inj hmap
        rw [List.all_cons, Bool.and_eq_true] at hall
        exact ⟨⟨a, hv, hall.1⟩, as, hvs, hall.2⟩
    · rintro ⟨⟨a, hv, ha⟩, as, hvs, hall⟩
      exact ⟨a :: as, by simp [hv, hvs], by simp [ha, hall]⟩

/-- **And with a count on top**, the count is how many they are. -/
theorem popCounted_eq_ok_iff {α : Type} {negative : Int64 → Fault}
    {decode : Value → Except Fault α} {s r : Stack} {as : List α} :
    popCounted negative decode s = ⟨.ok as, r⟩ ↔
      ∃ c n vs, s = c :: (vs ++ r) ∧ c.toNum = .ok n ∧ n.toInt = (vs.length : Int) ∧
        vs.map decode = as.map Except.ok := by
  cases s with
  | nil => simp [popCounted, Stack.popNum, Stack.pop]
  | cons c s =>
    rw [popCounted]
    cases hnum : c.toNum with
    | error e =>
      rw [Stack.popNum_of_toNum_eq_error hnum, Outcome.andThen_error]
      constructor
      · intro h
        cases h
      · rintro ⟨c', n, vs, heq, hn, -⟩
        cases heq
        rw [hnum] at hn
        cases hn
    | ok n =>
      rw [Stack.popNum_of_toNum_eq_ok hnum, Outcome.andThen_ok]
      simp only [Int64.lt_iff_toInt_lt, Int64.toInt_zero, Stack.require]
      constructor
      · intro h
        split at h
        · cases h
        · split at h
          · cases h
          · obtain ⟨vs, hlen, rfl, hmap⟩ := popDecoded_eq_ok_iff.mp h
            exact ⟨c, n, vs, rfl, hnum, by omega, hmap⟩
      · rintro ⟨c', n', vs, heq, hn, hcount, hmap⟩
        cases heq
        rw [hnum] at hn
        cases hn
        -- A count that is a length is not below zero, and there are that many elements.
        have hlen : n.toInt.toNat = vs.length := by omega
        rw [if_neg (by omega), if_pos (by rw [hlen, List.length_append]; omega), hlen]
        exact popDecoded_eq_ok_iff.mpr ⟨vs, rfl, rfl, hmap⟩

end Operation

/-! ## Runs -/

/-- A run succeeds when its first token does, and the rest on what that
left. -/
theorem Code.runTokens_cons_eq_ok_iff {flags : Flags} {checker : SignatureChecker} {t : Token}
    {ts : List Token} {s r : Stack} :
    runTokens flags checker (t :: ts) s = ⟨.ok (), r⟩ ↔
      ∃ s', t.eval flags checker s = ⟨.ok (), s'⟩ ∧
        runTokens flags checker ts s' = ⟨.ok (), r⟩ := by
  rw [runTokens, Outcome.andThen_eq_ok_iff]
  simp only [Outcome.mapError_eq_ok_iff]
  constructor
  · rintro ⟨_, s', h, hrest⟩
    exact ⟨s', h, hrest⟩
  · rintro ⟨s', h, hrest⟩
    exact ⟨(), s', h, hrest⟩

/-- After a token that succeeds a run goes on with the rest. -/
theorem Code.runTokens_cons_of_ok {flags : Flags} {checker : SignatureChecker} {t : Token}
    {s left : Stack} (h : t.eval flags checker s = ⟨.ok (), left⟩) (ts : List Token) :
    runTokens flags checker (t :: ts) s = runTokens flags checker ts left := by
  rw [runTokens, h]
  rfl

/-- And with one that fails it ends, whatever comes after. -/
theorem Code.runTokens_cons_of_error {flags : Flags} {checker : SignatureChecker} {t : Token}
    {s r : Stack} {fault : Fault} (h : t.eval flags checker s = ⟨.error fault, r⟩)
    (ts : List Token) :
    runTokens flags checker (t :: ts) s = ⟨.error (.interpreter (some t) fault), r⟩ := by
  rw [runTokens, h]
  rfl

/-- Pushes succeed, and pile up what they push. -/
theorem Code.runTokens_pushes (flags : Flags) (checker : SignatureChecker) (ts : List String)
    (s : Stack) :
    runTokens flags checker (ts.map Token.push) s =
      ⟨.ok (), (ts.map Value.literal).reverse ++ s⟩ := by
  induction ts generalizing s with
  | nil => rfl
  | cons t ts ih =>
    rw [List.map_cons, runTokens]
    refine (ih (.literal t :: s)).trans ?_
    simp

end SpendScript
