import SpendScript.Proofs.Success
/-!
# Locality

A script works on the top of its stack. What lies below the elements it
takes off is neither read nor changed, with two provisos: a run that ends
for want of elements would go on if there were more of them, and doubling
or dropping on an empty stack does nothing, which with elements below it
does something.

`Stack.Local` says this of whatever runs on a stack. It holds of each way
of taking elements off and is kept by going on (`Local.andThen`), so it
holds of every operation but those two; an induction on the tokens
carries it to runs.
-/

namespace SpendScript

/-! ## Local steps -/

namespace Outcome

variable {ε α : Type}

/-- The same end, with more elements below those that were left. -/
def onto (o : Outcome ε α) (base : Stack) : Outcome ε α :=
  ⟨o.result, o.stack ++ base⟩

/-- It ended for want of elements. -/
def Underflows (o : Outcome Fault α) : Prop :=
  ∃ needed available, o.result = .error (.stackUnderflow needed available)

end Outcome

namespace Stack

variable {α β : Type}

/-- What is run on a stack does not see the elements below it, unless it
is for want of them that it ends. -/
def Local (f : Stack → Outcome Fault α) : Prop :=
  ∀ s base, ¬ (f s).Underflows → f (s ++ base) = (f s).onto base

/-- **Going on keeps locality.** -/
theorem Local.andThen {f : Stack → Outcome Fault α} {next : α → Stack → Outcome Fault β}
    (hf : Local f) (hnext : ∀ a, Local (next a)) : Local fun s => (f s).andThen next := by
  intro s base h
  have hfirst := hf s base
  cases hs : f s with
  | mk result left =>
    simp only [hs] at h hfirst ⊢
    cases result with
    | error e =>
      have henough : ¬ (Outcome.mk (.error e) left : Outcome Fault α).Underflows := by
        rintro ⟨needed, available, he⟩
        cases he
        exact h ⟨needed, available, rfl⟩
      rw [hfirst henough]
      rfl
    | ok a =>
      have henough : ¬ (Outcome.mk (.ok a) left : Outcome Fault α).Underflows := by
        rintro ⟨needed, available, he⟩
        cases he
      rw [hfirst henough]
      exact hnext a left base h

/-- A result that leaves the stack alone. -/
theorem local_const (r : Except Fault α) : Local fun s => ⟨r, s⟩ :=
  fun _ _ _ => rfl

/-- A push. -/
theorem local_cons (v : Value) : Local fun s => (⟨.ok (), v :: s⟩ : Outcome Fault Unit) :=
  fun _ _ _ => rfl

theorem local_pop : Local pop := by
  intro s base h
  cases s with
  | nil => exact absurd ⟨1, 0, rfl⟩ h
  | cons v s => rfl

theorem local_popNum : Local popNum :=
  local_pop.andThen fun v => local_const (v.toNum.mapError .notANumber)

theorem local_consumeOne (f : Value → Except Fault α) : Local (consumeOne f) := by
  intro s base h
  cases s with
  | nil => exact absurd ⟨1, 0, rfl⟩ h
  | cons v s => rfl

theorem local_consumeTwo (f : Value → Value → Except Fault α) : Local (consumeTwo f) := by
  intro s base h
  match s with
  | [] => exact absurd ⟨2, 0, rfl⟩ h
  | [w] => exact absurd ⟨2, 1, rfl⟩ h
  | w :: v :: s => rfl

/-- Pushing what was computed. -/
theorem Local.push {f : Stack → Outcome Fault Value} (hf : Local f) : Local fun s => (f s).push :=
  hf.andThen local_cons

theorem Local.pushBool {f : Stack → Outcome Fault Bool} (hf : Local f) :
    Local fun s => (f s).pushBool :=
  hf.andThen fun b => local_cons (Value.ofBool b)

end Stack

/-! ## Operations -/

namespace Operation

open Stack

variable {flags : Flags} {checker : SignatureChecker}

/-- A loop over as many elements as it was told to take. -/
theorem local_popDecoded {α : Type} (decode : Value → Except Fault α) (count : Nat) :
    Local (popDecoded decode count) := by
  induction count with
  | zero => exact local_const (.ok [])
  | succ count ih =>
    refine local_pop.andThen fun v => ?_
    cases decode v with
    | error e => exact local_const (.error e)
    | ok a => exact ih.andThen fun as => local_const (.ok (a :: as))

/-- And a count with them: where it asks for no more than there are, more
below make no difference. -/
theorem local_popCounted {α : Type} (negative : Int64 → Fault) (decode : Value → Except Fault α) :
    Local (popCounted negative decode) := by
  refine local_popNum.andThen fun n => ?_
  by_cases hneg : n < 0
  · simp only [if_pos hneg]
    exact local_const (.error (negative n))
  · simp only [if_neg hneg]
    intro s base h
    by_cases hcount : n.toInt.toNat ≤ s.length
    · have hmore : n.toInt.toNat ≤ (s ++ base).length := by
        rw [List.length_append]
        omega
      simp only [require, if_pos hcount, if_pos hmore] at h ⊢
      exact local_popDecoded decode _ s base h
    · refine absurd ⟨n.toInt.toNat, s.length, ?_⟩ h
      simp only [require, if_neg hcount]

theorem local_checkMany : Local (checkMany flags checker) :=
  (local_popCounted _ _).andThen fun _ => (local_popCounted _ _).andThen fun _ => local_const _

/-- **An operation works on the top of the stack**, unless it is one of
the two that do nothing on an empty one. -/
theorem local_eval {op : Operation} (hdup : op ≠ .dup) (hdrop : op ≠ .drop) :
    Local (op.eval flags checker) := by
  cases op with
  | dup => exact absurd rfl hdup
  | drop => exact absurd rfl hdrop
  | pushFalse => exact local_cons _
  | pushTrue => exact local_cons _
  | halt => exact local_const _
  | verify => exact local_consumeOne _
  | equalVerify => exact local_consumeTwo _
  | equal => exact (local_consumeTwo _).pushBool
  | not => exact (local_consumeOne _).pushBool
  | add => exact (local_consumeTwo _).push
  | sub => exact (local_consumeTwo _).push
  | boolAnd => exact (local_consumeTwo _).pushBool
  | boolOr => exact (local_consumeTwo _).pushBool
  | ripemd160 => exact (local_consumeOne _).push
  | sha1 => exact (local_consumeOne _).push
  | sha256 => exact (local_consumeOne _).push
  | hash160 => exact (local_consumeOne _).push
  | hash256 => exact (local_consumeOne _).push
  | checkSig => exact (local_consumeTwo _).pushBool
  | checkSigVerify => exact (local_consumeTwo _).andThen fun answer => local_const (ensure answer)
  | checkMultisig => exact local_checkMany.pushBool
  | checkMultisigVerify => exact local_checkMany.andThen fun answer => local_const (ensure answer)

end Operation

/-! ## Runs -/

variable {flags : Flags} {checker : SignatureChecker}

/-- A token works on the top of the stack, and so do the two operations
that are left out above where the stack is not empty. -/
theorem Token.eval_append {t : Token} {s : Stack}
    (hempty : t = .operation .dup ∨ t = .operation .drop → s ≠ [])
    (henough : ¬ (t.eval flags checker s).Underflows) (base : Stack) :
    t.eval flags checker (s ++ base) = (t.eval flags checker s).onto base := by
  cases t with
  | push text => rfl
  | unknown name => rfl
  | operation op =>
    by_cases hop : op = .dup ∨ op = .drop
    · obtain ⟨v, rest, rfl⟩ : ∃ v rest, s = v :: rest :=
        List.exists_cons_of_ne_nil (hempty (by simpa using hop))
      rcases hop with rfl | rfl
      · rfl
      · rfl
    · have hlocal : Stack.Local (op.eval flags checker) :=
        Operation.local_eval (fun h => hop (.inl h)) fun h => hop (.inr h)
      exact hlocal s base henough

namespace Code

/-- A run comes to a token, with the stack that those before it left. -/
def Reaches (flags : Flags) (checker : SignatureChecker) (ts : List Token) (s : Stack)
    (t : Token) (left : Stack) : Prop :=
  ∃ before after, ts = before ++ t :: after ∧ runTokens flags checker before s = ⟨.ok (), left⟩

/-- A run comes to its first token, and then to those that the run of the
rest comes to. -/
theorem reaches_cons_iff {t u : Token} {ts : List Token} {s left : Stack} :
    Reaches flags checker (t :: ts) s u left ↔
      (u = t ∧ left = s) ∨
        ∃ s', t.eval flags checker s = ⟨.ok (), s'⟩ ∧ Reaches flags checker ts s' u left := by
  constructor
  · rintro ⟨_ | ⟨w, before⟩, after, hts, hrun⟩
    · cases hts
      cases hrun
      exact .inl ⟨rfl, rfl⟩
    · obtain ⟨rfl, rfl⟩ := List.cons.inj hts
      obtain ⟨s', hstep, hrest⟩ := runTokens_cons_eq_ok_iff.mp hrun
      exact .inr ⟨s', hstep, before, after, rfl, hrest⟩
  · rintro (⟨rfl, rfl⟩ | ⟨s', hstep, before, after, rfl, hrun⟩)
    · exact ⟨[], ts, rfl, rfl⟩
    · exact ⟨t :: before, after, rfl, runTokens_cons_eq_ok_iff.mpr ⟨s', hstep, hrun⟩⟩

/-- It comes to no tokens but its own. -/
theorem Reaches.mem {t : Token} {ts : List Token} {s left : Stack}
    (h : Reaches flags checker ts s t left) : t ∈ ts := by
  obtain ⟨before, after, rfl, -⟩ := h
  simp

/-- **A run works on the top of the stack.** -/
theorem runTokens_append_base {ts : List Token} {s : Stack}
    (hempty : ∀ t left, Reaches flags checker ts s t left →
      t = .operation .dup ∨ t = .operation .drop → left ≠ [])
    (henough : ∀ t needed available, (runTokens flags checker ts s).result ≠
      .error (.interpreter t (.stackUnderflow needed available))) (base : Stack) :
    runTokens flags checker ts (s ++ base) = (runTokens flags checker ts s).onto base := by
  induction ts generalizing s with
  | nil => rfl
  | cons t ts ih =>
    have hfirst : ¬ (t.eval flags checker s).Underflows := by
      rintro ⟨needed, available, he⟩
      refine henough (some t) needed available ?_
      rw [runTokens, Outcome.mapError, he]
      rfl
    have hstep :=
      Token.eval_append (hempty t s (reaches_cons_iff.mpr (.inl ⟨rfl, rfl⟩))) hfirst base
    cases heval : t.eval flags checker s with
    | mk result left =>
      rw [heval] at hstep
      simp only [runTokens, hstep, heval] at henough ⊢
      cases result with
      | error e => rfl
      | ok a =>
        -- The rest runs on what the first token left, and comes to nothing that the whole does not.
        refine ih (fun u r hreach => hempty u r ?_) henough
        exact reaches_cons_iff.mpr (.inr ⟨left, heval, hreach⟩)

/-- **What a script does not use it neither reads nor changes.** Let a run
not end for want of elements, and come to no doubling and no dropping on
an empty stack. Then with any elements below the stack it ends in the same
way, with the same error at the same token if it fails, and leaves what it
left before on top of those same elements. -/
theorem run_on_elements_below (flags : Flags) (checker : SignatureChecker) (c : Code) (s : Stack)
    (henough : ∀ t needed available, (c.run flags checker s).result ≠
      .error (.interpreter t (.stackUnderflow needed available)))
    (hempty : ∀ t left, Reaches flags checker c.tokens s t left →
      t = .operation .dup ∨ t = .operation .drop → left ≠ []) (base : Stack) :
    c.run flags checker (s ++ base) =
      ⟨(c.run flags checker s).result, (c.run flags checker s).stack ++ base⟩ :=
  runTokens_append_base hempty henough base

/-- Twice one is not `1`, and a script that says so fails. Whatever lies
below the one, it fails at the same token and leaves that as it was. -/
theorem run_on_elements_below_of_failed_sum :
    let c : Code := ⟨[.operation .dup, .operation .add, .operation .verify]⟩
    (∀ t needed available, (c.run .none .rejectAll [.literal "1"]).result ≠
      .error (.interpreter t (.stackUnderflow needed available))) ∧
      (∀ t left, Reaches .none .rejectAll c.tokens [.literal "1"] t left →
        t = .operation .dup ∨ t = .operation .drop → left ≠ []) ∧
      ∀ base, c.run .none .rejectAll ([.literal "1"] ++ base) =
        ⟨.error (.interpreter (some (.operation .verify)) .verificationFailed), base⟩ := by
  intro c
  have hrun : c.run .none .rejectAll [.literal "1"] =
      ⟨.error (.interpreter (some (.operation .verify)) .verificationFailed), []⟩ := rfl
  have henough : ∀ t needed available, (c.run .none .rejectAll [.literal "1"]).result ≠
      .error (.interpreter t (.stackUnderflow needed available)) := by
    intro t needed available h
    rw [hrun] at h
    cases h
  have hempty : ∀ t left, Reaches .none .rejectAll c.tokens [.literal "1"] t left →
      t = .operation .dup ∨ t = .operation .drop → left ≠ [] := by
    intro t left hreach hop
    rcases reaches_cons_iff.mp hreach with ⟨-, rfl⟩ | ⟨s', -, hrest⟩
    · exact List.cons_ne_nil _ _
    · -- Only the first token doubles, and none drops.
      have hmem := hrest.mem
      rcases hop with rfl | rfl
      · exact absurd hmem (by decide)
      · exact absurd hmem (by decide)
  refine ⟨henough, hempty, fun base => ?_⟩
  rw [run_on_elements_below .none .rejectAll c [.literal "1"] henough hempty base, hrun]
  rfl

end Code

end SpendScript
