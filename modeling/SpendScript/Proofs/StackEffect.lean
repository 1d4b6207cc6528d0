import SpendScript.Proofs.Failure
/-!
# The effect on the stack

An operation takes elements off and puts elements on, and `arity` says how
many: for all but the two on many signatures it is fixed, but for two that
do nothing on an empty stack, and for those the stack itself says it. A
success has that effect. A failure puts nothing on. One for want of
elements leaves the stack as it was, and any other leaves it with the
elements off.

All of it is one law on an end of a step, `Outcome.Exchanges`, that each
way of taking elements off has and each way of putting a result on keeps.
The operation on many signatures takes elements off in stages, and a
failure may come at any of them; of it `Outcome.Recedes` holds.
-/

namespace SpendScript

/-! ## Arities -/

/-- The count at a place: the number that the element there denotes, if it
is not below zero. -/
def Stack.countAt? (s : Stack) (place : Nat) : Option Nat :=
  match s[place]? with
  | none => none
  | some v =>
    match v.toNum with
    | .error _ => none
    | .ok n => if n < 0 then none else some n.toInt.toNat

/-- How many keys and how many signatures a stack asks to have checked. The
one count is on top, and the other below the keys. -/
def Stack.counts? (s : Stack) : Option (Nat × Nat) :=
  match s.countAt? 0 with
  | none => none
  | some keys => (s.countAt? (keys + 1)).map fun signatures => (keys, signatures)

namespace Operation

/-- It is one of the two that check many signatures. -/
def IsMultisig (op : Operation) : Prop :=
  op = .checkMultisig ∨ op = .checkMultisigVerify

/-- How many elements an operation takes off a stack and puts on it. There
is no saying where the stack holds no counts and they are called for. -/
def arity (op : Operation) (s : Stack) : Option (Nat × Nat) :=
  match op with
  | pushFalse | pushTrue => some (0, 1)
  | verify => some (1, 0)
  | halt => some (0, 0)
  | drop => if s = [] then some (0, 0) else some (1, 0)
  | dup => if s = [] then some (0, 0) else some (0, 1)
  | equal | add | sub | boolAnd | boolOr | checkSig => some (2, 1)
  | equalVerify | checkSigVerify => some (2, 0)
  | not | ripemd160 | sha1 | sha256 | hash160 | hash256 => some (1, 1)
  | checkMultisig => s.counts?.map fun (keys, signatures) => (keys + signatures + 2, 1)
  | checkMultisigVerify => s.counts?.map fun (keys, signatures) => (keys + signatures + 2, 0)

end Operation

/-! ## Taking off and putting on -/

/-- An element that an operation makes: a number, or a digest. -/
inductive Value.Made : Value → Prop
  | num (n : Int64) : Made (.num n)
  | bytes {b : Bytes} : b.length = 20 ∨ b.length = 32 → Made (.bytes b)

theorem Value.made_ofBool (b : Bool) : (ofBool b).Made := by
  cases b with
  | false => exact .num 0
  | true => exact .num 1

namespace Outcome

variable {α β : Type} {s : Stack} {taken put : Nat}

/-- The end of a step that takes elements off a stack and puts others on
it, after a look at whether there are enough. -/
inductive Exchanges (s : Stack) (taken put : Nat) : Outcome Fault α → Prop
  /-- There are too few, and none is off. -/
  | short : s.length < taken → Exchanges s taken put ⟨.error (.stackUnderflow taken s.length), s⟩
  /-- They are off and of no use. -/
  | refused {fault : Fault} : taken ≤ s.length → ¬ fault.IsUnderflow →
      Exchanges s taken put ⟨.error fault, s.drop taken⟩
  /-- They are off, and what is on was made or was there before. -/
  | done {a : α} (vs : List Value) : taken ≤ s.length → vs.length = put →
      (∀ v ∈ vs, v.Made ∨ v ∈ s) → Exchanges s taken put ⟨.ok a, vs ++ s.drop taken⟩

namespace Exchanges

/-- One element that was made is on. -/
theorem of_made {a : α} {v : Value} (hlen : taken ≤ s.length) (hmade : v.Made) :
    (Outcome.mk (.ok a) (v :: s.drop taken)).Exchanges s taken 1 := by
  refine .done [v] hlen rfl fun w hw => ?_
  rw [List.mem_singleton.mp hw]
  exact .inl hmade

/-- **Once the elements are off, what is put on is for the next step to
say.** -/
theorem andThen {o : Outcome Fault α} {next : α → Stack → Outcome Fault β}
    (h : o.Exchanges s taken 0)
    (hnext : ∀ a, taken ≤ s.length → o = ⟨.ok a, s.drop taken⟩ →
      (next a (s.drop taken)).Exchanges s taken put) :
    (o.andThen next).Exchanges s taken put := by
  cases h with
  | short hlen => exact .short hlen
  | refused hlen hfault => exact .refused hlen hfault
  | @done a vs hlen hput _ =>
    obtain rfl := List.length_eq_zero_iff.mp hput
    exact hnext a hlen rfl

theorem push {o : Outcome Fault Value} (h : o.Exchanges s taken 0)
    (hmade : ∀ v r, o = ⟨.ok v, r⟩ → v.Made) : o.push.Exchanges s taken 1 :=
  h.andThen fun v hlen hv => .of_made hlen (hmade v _ hv)

theorem pushBool {o : Outcome Fault Bool} (h : o.Exchanges s taken 0) :
    o.pushBool.Exchanges s taken 1 :=
  h.andThen fun b hlen _ => .of_made hlen (Value.made_ofBool b)

/-- An answer that is held to. -/
theorem ensure {o : Outcome Fault Bool} (h : o.Exchanges s taken 0) :
    (o.andThen fun answer s => ⟨Operation.ensure answer, s⟩).Exchanges s taken 0 := by
  refine h.andThen fun answer hlen _ => ?_
  cases answer with
  | true => exact .done [] hlen rfl (List.forall_mem_nil _)
  | false => exact .refused hlen nofun

end Exchanges

end Outcome

/-- A result that is not for want of elements. -/
def Sated {α : Type} (r : Except Fault α) : Prop :=
  ∀ fault, r = .error fault → ¬ fault.IsUnderflow

theorem sated_ok {α : Type} (a : α) : Sated (.ok a : Except Fault α) := by
  intro fault h
  cases h

theorem sated_error {α : Type} {fault : Fault} (hfault : ¬ fault.IsUnderflow) :
    Sated (.error fault : Except Fault α) := by
  intro _ h
  cases h
  exact hfault

namespace Stack

variable {α : Type}

/-- Nothing read off an element is for want of others. -/
theorem exchanges_consumeOne {f : Value → Except Fault α} (hf : ∀ v, Sated (f v)) (s : Stack) :
    (s.consumeOne f).Exchanges s 1 0 := by
  cases s with
  | nil => exact .short Nat.one_pos
  | cons v s =>
    have hlen : 1 ≤ (v :: s).length := by simp
    rw [consumeOne]
    cases hv : f v with
    | error fault => exact .refused hlen (hf v fault hv)
    | ok a => exact .done [] hlen rfl (List.forall_mem_nil _)

theorem exchanges_consumeTwo {f : Value → Value → Except Fault α} (hf : ∀ v w, Sated (f v w))
    (s : Stack) : (s.consumeTwo f).Exchanges s 2 0 := by
  match s with
  | [] => exact .short Nat.two_pos
  | [w] => exact .short Nat.one_lt_two
  | w :: v :: s =>
    have hlen : 2 ≤ (w :: v :: s).length := by simp
    rw [consumeTwo]
    cases hv : f v w with
    | error fault => exact .refused hlen (hf v w fault hv)
    | ok a => exact .done [] hlen rfl (List.forall_mem_nil _)

end Stack

/-! ## Operations of a fixed arity -/

theorem Fault.OfCredential.not_isUnderflow {fault : Fault} (h : fault.OfCredential) :
    ¬ fault.IsUnderflow := by
  rintro ⟨needed, available, rfl⟩
  cases h

theorem Value.sated_toCredential (decode : Bytes → Except CredentialError α) (v : Value) :
    Sated (v.toCredential decode) :=
  fun _ h => (ofCredential_of_toCredential h).not_isUnderflow

namespace Operation

open Stack Outcome

variable {flags : Flags} {checker : SignatureChecker}

theorem sated_ensure (b : Bool) : Sated (ensure b) := by
  intro fault h
  rw [eq_verificationFailed_of_ensure h]
  exact nofun

theorem sated_arithmetic (f : Int → Int → Int) (v w : Value) : Sated (arithmetic f v w) := by
  rintro fault h ⟨needed, available, rfl⟩
  cases ofArithmetic_of_arithmetic h

theorem sated_digest (hash : Bytes → Bytes) (v : Value) : Sated (digest hash v) := by
  intro fault h
  obtain ⟨cause, rfl⟩ := invalidEncoding_of_digest h
  exact nofun

theorem sated_checkOne (sig key : Value) : Sated (checkOne flags checker sig key) :=
  fun _ h => (ofCredential_of_checkOne h).not_isUnderflow

theorem exchanges_constant (b : Bool) (s : Stack) :
    (Outcome.mk (.ok ()) (Value.ofBool b :: s)).Exchanges s 0 1 :=
  .of_made (Nat.zero_le _) (Value.made_ofBool b)

/-- An answer on two elements, whatever they are. -/
theorem exchanges_answer (f : Value → Value → Bool) (s : Stack) :
    (s.consumeTwo fun v w => .ok (f v w)).pushBool.Exchanges s 2 1 :=
  (exchanges_consumeTwo (fun _ _ => sated_ok _) s).pushBool

/-- A sum or difference is a number. -/
theorem exchanges_arithmetic (f : Int → Int → Int) (s : Stack) :
    (s.consumeTwo (arithmetic f)).push.Exchanges s 2 1 := by
  refine (exchanges_consumeTwo (sated_arithmetic f) s).push fun v r h => ?_
  obtain ⟨x, y, -, hv⟩ := consumeTwo_eq_ok_iff.mp h
  unfold arithmetic number at hv
  split at hv
  · cases hv
  · split at hv
    · cases hv
    · split at hv
      · cases hv
        exact .num _
      · cases hv

/-- A digest is as long as its function makes it. -/
theorem exchanges_digest {hash : Bytes → Bytes}
    (hlen : ∀ b, (hash b).length = 20 ∨ (hash b).length = 32) (s : Stack) :
    (s.consumeOne (digest hash)).push.Exchanges s 1 1 := by
  refine (exchanges_consumeOne (sated_digest hash) s).push fun v r h => ?_
  obtain ⟨x, -, hv⟩ := consumeOne_eq_ok_iff.mp h
  obtain ⟨b, -, rfl⟩ := digest_eq_ok_iff.mp hv
  exact .bytes (hlen b)

/-- **An operation has the effect that its arity says**, if it is none of
those on many signatures. -/
theorem exchanges_eval (flags : Flags) (checker : SignatureChecker) {op : Operation}
    (hop : ¬ op.IsMultisig) (s : Stack) :
    ∃ taken put, op.arity s = some (taken, put) ∧
      (op.eval flags checker s).Exchanges s taken put := by
  cases op with
  | pushFalse => exact ⟨0, 1, rfl, exchanges_constant false s⟩
  | pushTrue => exact ⟨0, 1, rfl, exchanges_constant true s⟩
  | halt => exact ⟨0, 0, rfl, .refused (Nat.zero_le _) nofun⟩
  | drop =>
    cases s with
    | nil => exact ⟨0, 0, rfl, .done [] (Nat.zero_le _) rfl (List.forall_mem_nil _)⟩
    | cons v s => exact ⟨1, 0, rfl, .done [] (by simp) rfl (List.forall_mem_nil _)⟩
  | dup =>
    cases s with
    | nil => exact ⟨0, 0, rfl, .done [] (Nat.zero_le _) rfl (List.forall_mem_nil _)⟩
    | cons v s => exact ⟨0, 1, rfl, .done [v] (Nat.zero_le _) rfl (by simp)⟩
  | verify => exact ⟨1, 0, rfl, exchanges_consumeOne (fun _ => sated_ensure _) s⟩
  | equalVerify => exact ⟨2, 0, rfl, exchanges_consumeTwo (fun _ _ => sated_ensure _) s⟩
  | not => exact ⟨1, 1, rfl, (exchanges_consumeOne (fun _ => sated_ok _) s).pushBool⟩
  | equal => exact ⟨2, 1, rfl, exchanges_answer _ s⟩
  | boolAnd => exact ⟨2, 1, rfl, exchanges_answer _ s⟩
  | boolOr => exact ⟨2, 1, rfl, exchanges_answer _ s⟩
  | add => exact ⟨2, 1, rfl, exchanges_arithmetic _ s⟩
  | sub => exact ⟨2, 1, rfl, exchanges_arithmetic _ s⟩
  | ripemd160 => exact ⟨1, 1, rfl, exchanges_digest (fun b => .inl (Hash.length_ripemd160 b)) s⟩
  | sha1 => exact ⟨1, 1, rfl, exchanges_digest (fun b => .inl (Hash.length_sha1 b)) s⟩
  | sha256 => exact ⟨1, 1, rfl, exchanges_digest (fun b => .inr (Hash.length_sha256 b)) s⟩
  | hash160 => exact ⟨1, 1, rfl, exchanges_digest (fun b => .inl (Hash.length_ripemd160 _)) s⟩
  | hash256 => exact ⟨1, 1, rfl, exchanges_digest (fun b => .inr (Hash.length_sha256 _)) s⟩
  | checkSig => exact ⟨2, 1, rfl, (exchanges_consumeTwo sated_checkOne s).pushBool⟩
  | checkSigVerify => exact ⟨2, 0, rfl, (exchanges_consumeTwo sated_checkOne s).ensure⟩
  | checkMultisig => exact absurd (.inl rfl) hop
  | checkMultisigVerify => exact absurd (.inr rfl) hop

end Operation

/-! ## Many signatures -/

namespace Outcome

variable {α β : Type} {s : Stack}

/-- Elements are off and none is on, and if it was for want of elements
that it ended, it says how many are left. -/
structure Recedes (s : Stack) (o : Outcome Fault α) : Prop where
  suffix : o.stack <:+ s
  short : ∀ needed available, o.result = .error (.stackUnderflow needed available) →
    available < needed ∧ available = o.stack.length

namespace Recedes

/-- **Going on only takes more off.** -/
theorem andThen {o : Outcome Fault α} {next : α → Stack → Outcome Fault β} (ho : o.Recedes s)
    (hnext : ∀ a r, (next a r).Recedes r) : (o.andThen next).Recedes s := by
  obtain ⟨result, left⟩ := o
  cases result with
  | error fault =>
    refine ⟨ho.suffix, fun needed available h => ?_⟩
    cases h
    exact ho.short needed available rfl
  | ok a =>
    have hrest := hnext a left
    exact ⟨hrest.suffix.trans ho.suffix, hrest.short⟩

/-- A result with the stack as it is. -/
theorem of_result {r : Except Fault α} (h : Sated r) (s : Stack) : (Outcome.mk r s).Recedes s :=
  ⟨List.suffix_rfl, fun needed available hr => absurd ⟨needed, available, rfl⟩ (h _ hr)⟩

/-- What it says of a failure. -/
theorem of_error {fault : Fault} {r : Stack}
    (h : (Outcome.mk (.error fault) r : Outcome Fault α).Recedes s) :
    r <:+ s ∧ ∀ needed available, fault = .stackUnderflow needed available →
      available < needed ∧ available = r.length := by
  refine ⟨h.suffix, fun needed available hfault => h.short needed available ?_⟩
  rw [hfault]

end Recedes

end Outcome

namespace Stack

theorem recedes_pop (s : Stack) : s.pop.Recedes s := by
  cases s with
  | nil => exact ⟨List.suffix_rfl, fun _ _ h => by cases h; exact ⟨Nat.one_pos, rfl⟩⟩
  | cons v s => exact ⟨List.suffix_cons v s, fun _ _ h => nomatch h⟩

theorem recedes_popNum (s : Stack) : s.popNum.Recedes s := by
  refine (recedes_pop s).andThen fun v r => .of_result ?_ r
  intro fault h
  cases hnum : v.toNum with
  | error e =>
    rw [hnum] at h
    cases h
    exact nofun
  | ok n =>
    rw [hnum] at h
    cases h

theorem countAt?_eq_some {s : Stack} {place count : Nat} {v : Value} {n : Int64}
    (hv : s[place]? = some v) (hnum : v.toNum = .ok n) (hcount : n.toInt = (count : Int)) :
    s.countAt? place = some count := by
  have hneg : ¬ n < 0 := by
    rw [Int64.lt_iff_toInt_lt, Int64.toInt_zero]
    omega
  simp only [countAt?, hv, hnum, if_neg hneg, Option.some.injEq]
  omega

end Stack

namespace Operation

open Stack Outcome

variable {flags : Flags} {checker : SignatureChecker}

theorem recedes_popDecoded {α : Type} {decode : Value → Except Fault α}
    (hdecode : ∀ v, Sated (decode v)) (count : Nat) (s : Stack) :
    (popDecoded decode count s).Recedes s := by
  induction count generalizing s with
  | zero => exact .of_result (sated_ok []) s
  | succ count ih =>
    refine (recedes_pop s).andThen fun v r => ?_
    cases hv : decode v with
    | error fault => exact .of_result (sated_error (hdecode v fault hv)) r
    | ok a => exact (ih r).andThen fun as r => .of_result (sated_ok _) r

/-- The count is off when the elements are found to be too few, and so the
fault tells how many there are without it. -/
theorem recedes_popCounted {α : Type} {negative : Int64 → Fault}
    (hnegative : ∀ n, ¬ (negative n).IsUnderflow) {decode : Value → Except Fault α}
    (hdecode : ∀ v, Sated (decode v)) (s : Stack) :
    (popCounted negative decode s).Recedes s := by
  refine (recedes_popNum s).andThen fun n r => ?_
  by_cases hneg : n < 0
  · rw [if_pos hneg]
    exact .of_result (sated_error (hnegative n)) r
  · rw [if_neg hneg]
    by_cases hcount : n.toInt.toNat ≤ r.length
    · simp only [require, if_pos hcount]
      exact recedes_popDecoded hdecode _ r
    · simp only [require, if_neg hcount]
      refine ⟨List.suffix_rfl, fun needed available h => ?_⟩
      cases h
      exact ⟨by omega, rfl⟩

theorem recedes_checkMany (flags : Flags) (checker : SignatureChecker) (s : Stack) :
    (checkMany flags checker s).Recedes s := by
  have hkeys : ∀ n, ¬ (Fault.negativeKeyCount n).IsUnderflow := fun n ⟨_, _, h⟩ => nomatch h
  have hsigs : ∀ n, ¬ (Fault.negativeSignatureCount n).IsUnderflow := fun n ⟨_, _, h⟩ => nomatch h
  refine (recedes_popCounted hkeys (Value.sated_toCredential _) s).andThen fun keys r => ?_
  refine (recedes_popCounted hsigs (Value.sated_toCredential _) r).andThen fun sigs r' => ?_
  exact .of_result (sated_ok _) r'

/-- **A check of many signatures takes off** the two counts that it reads,
and as many elements as they say. -/
theorem counts?_of_checkMany {s r : Stack} {b : Bool}
    (h : checkMany flags checker s = ⟨.ok b, r⟩) :
    ∃ keys signatures, s.counts? = some (keys, signatures) ∧
      keys + signatures + 2 ≤ s.length ∧ r = s.drop (keys + signatures + 2) := by
  rw [checkMany, andThen_eq_ok_iff] at h
  obtain ⟨keys, s', hkeys, h⟩ := h
  rw [andThen_eq_ok_iff] at h
  obtain ⟨sigs, s'', hsigs, h⟩ := h
  cases h
  obtain ⟨c, m, vs, rfl, hc, hm, -⟩ := popCounted_eq_ok_iff.mp hkeys
  obtain ⟨d, n, ws, rfl, hd, hn, -⟩ := popCounted_eq_ok_iff.mp hsigs
  have hfirst : Stack.countAt? (c :: (vs ++ d :: (ws ++ r))) 0 = some vs.length :=
    countAt?_eq_some rfl hc hm
  have hsecond : Stack.countAt? (c :: (vs ++ d :: (ws ++ r))) (vs.length + 1) = some ws.length :=
    countAt?_eq_some (by simp) hd hn
  refine ⟨vs.length, ws.length, ?_, ?_, ?_⟩
  · simp only [counts?, hfirst, hsecond, Option.map_some]
  · simp only [List.length_cons, List.length_append]
    omega
  · have hsplit : c :: (vs ++ d :: (ws ++ r)) = (c :: (vs ++ d :: ws)) ++ r := by simp
    have hlen : (c :: (vs ++ d :: ws)).length = vs.length + ws.length + 2 := by
      simp only [List.length_cons, List.length_append]
      omega
    rw [hsplit, ← hlen, List.drop_left]

/-- **A failed check of many signatures** leaves some of the stack, from
the bottom up. -/
theorem suffix_of_isMultisig {op : Operation} (hop : op.IsMultisig) {s r : Stack} {fault : Fault}
    (h : op.eval flags checker s = ⟨.error fault, r⟩) :
    r <:+ s ∧ ∀ needed available, fault = .stackUnderflow needed available →
      available < needed ∧ available = r.length := by
  have hmany := recedes_checkMany flags checker s
  rcases hop with rfl | rfl
  · rw [pushBool_eq_error_iff.mp h] at hmany
    exact hmany.of_error
  · have hall : (Operation.checkMultisigVerify.eval flags checker s).Recedes s :=
      hmany.andThen fun answer r => .of_result (sated_ensure answer) r
    rw [h] at hall
    exact hall.of_error

/-- And a success takes off the counts and what they count. -/
theorem arity_of_isMultisig {op : Operation} (hop : op.IsMultisig) {s r : Stack}
    (h : op.eval flags checker s = ⟨.ok (), r⟩) :
    ∃ taken put vs, op.arity s = some (taken, put) ∧ taken ≤ s.length ∧ vs.length = put ∧
      (∀ v ∈ vs, v.Made) ∧ r = vs ++ s.drop taken := by
  rcases hop with rfl | rfl
  · obtain ⟨b, left, hcheck, rfl⟩ := pushBool_eq_ok_iff.mp h
    obtain ⟨keys, signatures, hcounts, hlen, rfl⟩ := counts?_of_checkMany hcheck
    refine ⟨keys + signatures + 2, 1, [Value.ofBool b], ?_, hlen, rfl, fun v hv => ?_, rfl⟩
    · simp only [arity, hcounts, Option.map_some]
    · rw [List.mem_singleton.mp hv]
      exact Value.made_ofBool b
  · obtain ⟨b, left, hcheck, hensure⟩ := andThen_eq_ok_iff.mp h
    obtain ⟨keys, signatures, hcounts, hlen, rfl⟩ := counts?_of_checkMany hcheck
    refine ⟨keys + signatures + 2, 0, [], ?_, hlen, rfl, List.forall_mem_nil _, ?_⟩
    · simp only [arity, hcounts, Option.map_some]
    · exact (congrArg Outcome.stack hensure).symm

/-! ## Every operation -/

/-- **The effect of an operation on the stack.** A success takes as many
elements off and puts as many on as the arity says. A failure leaves some
of the stack, from the bottom up. If it is for want of elements it says
how many are left, which are too few, and unless many signatures are
checked it has left all. Any other has taken off what the arity says,
again unless many signatures are checked; and stopping takes nothing
off. -/
theorem eval_stack_effect (flags : Flags) (checker : SignatureChecker) (op : Operation)
    (s : Stack) :
    (∀ r, op.eval flags checker s = ⟨.ok (), r⟩ →
      ∃ taken put vs, op.arity s = some (taken, put) ∧ taken ≤ s.length ∧ vs.length = put ∧
        r = vs ++ s.drop taken) ∧
      ∀ fault r, op.eval flags checker s = ⟨.error fault, r⟩ →
        r <:+ s ∧
        (∀ needed available, fault = .stackUnderflow needed available →
          available < needed ∧ available = r.length ∧ (¬ op.IsMultisig → r = s)) ∧
        (¬ fault.IsUnderflow → ¬ op.IsMultisig →
          ∃ taken put, op.arity s = some (taken, put) ∧ taken ≤ s.length ∧ r = s.drop taken) ∧
        (op = .halt → r = s) := by
  by_cases hop : op.IsMultisig
  · refine ⟨fun r h => ?_, fun fault r h => ?_⟩
    · obtain ⟨taken, put, vs, harity, hlen, hput, -, hr⟩ := arity_of_isMultisig hop h
      exact ⟨taken, put, vs, harity, hlen, hput, hr⟩
    · obtain ⟨hsuffix, hshort⟩ := suffix_of_isMultisig hop h
      refine ⟨hsuffix, fun needed available hfault => ?_, fun _ h => absurd hop h, ?_⟩
      · obtain ⟨hlt, hlen⟩ := hshort needed available hfault
        exact ⟨hlt, hlen, fun h => absurd hop h⟩
      · rintro rfl
        exact absurd hop nofun
  · obtain ⟨taken, put, harity, heffect⟩ := exchanges_eval flags checker hop s
    refine ⟨fun r h => ?_, fun fault r h => ?_⟩
    · rw [h] at heffect
      cases heffect with
      | done vs hlen hput _ => exact ⟨taken, put, vs, harity, hlen, hput, rfl⟩
    · rw [h] at heffect
      cases heffect with
      | short hlen =>
        refine ⟨List.suffix_rfl, ?_, fun h => absurd ⟨_, _, rfl⟩ h, fun _ => rfl⟩
        rintro needed available ⟨⟩
        exact ⟨hlen, rfl, fun _ => rfl⟩
      | refused hlen hfault =>
        refine ⟨List.drop_suffix _ _, ?_, fun _ _ => ⟨taken, put, harity, hlen, rfl⟩, ?_⟩
        · rintro needed available rfl
          exact absurd ⟨_, _, rfl⟩ hfault
        · rintro rfl
          cases harity
          rfl

/-- No keys and two signatures are asked for, and there is but one. The
counts are off by then, and the one is left. -/
theorem eval_stack_effect_of_missing_signature :
    let s : Stack := [.literal "0", .literal "2", .literal "aa"]
    Operation.checkMultisig.eval .none .rejectAll s =
        ⟨.error (.stackUnderflow 2 1), [.literal "aa"]⟩ ∧
      [.literal "aa"] <:+ s ∧ 1 < 2 ∧ 1 = [Value.literal "aa"].length := by
  intro s
  have hfault : Operation.checkMultisig.eval .none .rejectAll s =
      ⟨.error (.stackUnderflow 2 1), [.literal "aa"]⟩ := rfl
  obtain ⟨hsuffix, hshort, -⟩ :=
    (eval_stack_effect .none .rejectAll .checkMultisig s).2 _ _ hfault
  obtain ⟨hlt, hlen, -⟩ := hshort 2 1 rfl
  exact ⟨hfault, hsuffix, hlt, hlen⟩

end Operation

end SpendScript
