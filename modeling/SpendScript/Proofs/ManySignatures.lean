import SpendScript.Proofs.StackEffect
/-!
# The check of many signatures, step by step

The operation on many signatures takes off a count and as many keys, and
then a count and as many signatures. Both halves are one procedure, and
`Counted` lists the ways in which it can end, in the order in which they
are tried. The list is exact (`popCounted_eq_iff`), which comes down to
one law on the loop: once there are enough elements it stops at the first
that cannot be decoded and for no other reason (`popDecoded_eq_error_iff`).
So is the list for the whole operation, `Concludes`.

The operation on one signature decodes in another order, after all its
elements are off. With both counts one the two come to the same all the
same, since the key comes first in both.
-/

namespace SpendScript

namespace Operation

open Stack Outcome

variable {α : Type} {negative : Int64 → Fault} {decode : Value → Except Fault α}
variable {flags : Flags} {checker : SignatureChecker}

/-! ## The loop -/

/-- **With enough elements a loop stops at the first that cannot be
decoded**, and leaves what lies below it. -/
theorem popDecoded_eq_error_iff {count : Nat} {s r : Stack} {fault : Fault}
    (henough : count ≤ s.length) :
    popDecoded decode count s = ⟨.error fault, r⟩ ↔
      ∃ above v, s = above ++ v :: r ∧ above.length < count ∧
        (∀ w ∈ above, ∃ a, decode w = .ok a) ∧ decode v = .error fault := by
  induction count generalizing s with
  | zero =>
    constructor
    · intro h
      cases h
    · rintro ⟨above, v, -, hlt, -⟩
      exact absurd hlt (Nat.not_lt_zero _)
  | succ count ih =>
    obtain ⟨top, s, rfl⟩ : ∃ top rest, s = top :: rest :=
      List.exists_cons_of_length_pos (by omega)
    have hrest : count ≤ s.length := by simpa using henough
    rw [popDecoded, pop, andThen_ok]
    -- The top element stops the loop, or it is one of those above the element that does.
    cases htop : decode top with
    | error e =>
      constructor
      · intro h
        cases h
        exact ⟨[], top, rfl, Nat.succ_pos _, List.forall_mem_nil _, htop⟩
      · -- Nothing can lie above the top, since the top cannot be decoded.
        rintro ⟨_ | ⟨w, above⟩, v, heq, -, hgood, hbad⟩
        · obtain ⟨rfl, rfl⟩ := List.cons.inj heq
          rw [htop] at hbad
          cases hbad
          rfl
        · obtain ⟨rfl, -⟩ := List.cons.inj heq
          obtain ⟨a, ha⟩ := hgood top List.mem_cons_self
          rw [htop] at ha
          cases ha
    | ok a =>
      have hloop : ((popDecoded decode count s).andThen fun as s => ⟨.ok (a :: as), s⟩) =
          ⟨.error fault, r⟩ ↔ popDecoded decode count s = ⟨.error fault, r⟩ := by
        rw [andThen_eq_error_iff]
        simp
      rw [hloop, ih hrest]
      constructor
      · rintro ⟨above, v, rfl, hlt, hgood, hbad⟩
        refine ⟨top :: above, v, rfl, by simpa using hlt, ?_, hbad⟩
        exact List.forall_mem_cons.mpr ⟨⟨a, htop⟩, hgood⟩
      · rintro ⟨_ | ⟨w, above⟩, v, heq, hlt, hgood, hbad⟩
        · obtain ⟨rfl, -⟩ := List.cons.inj heq
          rw [htop] at hbad
          cases hbad
        · obtain ⟨rfl, rfl⟩ := List.cons.inj heq
          obtain ⟨-, hgood⟩ := List.forall_mem_cons.mp hgood
          exact ⟨above, v, rfl, by simpa using hlt, hgood, hbad⟩

/-- So its pops never find the stack empty. -/
theorem sated_popDecoded (hdecode : ∀ v, Sated (decode v)) {count : Nat} {s : Stack}
    (henough : count ≤ s.length) : Sated (popDecoded decode count s).result := by
  intro fault hfault
  have hend : popDecoded decode count s = ⟨.error fault, (popDecoded decode count s).stack⟩ := by
    rw [← hfault]
  obtain ⟨-, v, -, -, -, hbad⟩ := (popDecoded_eq_error_iff henough).mp hend
  exact hdecode v fault hbad

/-! ## A count and what it counts -/

/-- How taking a count off, and then as many elements as it says, can end.
Each case is tried after those above it have been ruled out. -/
inductive Counted (negative : Int64 → Fault) (decode : Value → Except Fault α) :
    Stack → Outcome Fault (List α) → Prop
  /-- There is no element to be the count. -/
  | empty : Counted negative decode [] ⟨.error (.stackUnderflow 1 0), []⟩
  /-- The top element is no number. -/
  | notANumber {c : Value} {s : Stack} {e : NumeralError} : c.toNum = .error e →
      Counted negative decode (c :: s) ⟨.error (.notANumber e), s⟩
  /-- It is a number below zero. -/
  | below {c : Value} {s : Stack} {n : Int64} : c.toNum = .ok n → n.toInt < 0 →
      Counted negative decode (c :: s) ⟨.error (negative n), s⟩
  /-- Fewer elements are left than it says. -/
  | short {c : Value} {s : Stack} {n : Int64} {count : Nat} : c.toNum = .ok n →
      n.toInt = (count : Int) → s.length < count →
      Counted negative decode (c :: s) ⟨.error (.stackUnderflow count s.length), s⟩
  /-- There are enough, and this one of them cannot be decoded, but all
  above it can. -/
  | undecoded {c v : Value} {above rest : Stack} {n : Int64} {count : Nat} {fault : Fault} :
      c.toNum = .ok n → n.toInt = (count : Int) → count ≤ (above ++ v :: rest).length →
      above.length < count → (∀ w ∈ above, ∃ a, decode w = .ok a) → decode v = .error fault →
      Counted negative decode (c :: (above ++ v :: rest)) ⟨.error fault, rest⟩
  /-- There are enough and all of them can. -/
  | decoded {c : Value} (vs : Stack) {rest : Stack} {n : Int64} {as : List α} : c.toNum = .ok n →
      n.toInt = (vs.length : Int) → vs.map decode = as.map Except.ok →
      Counted negative decode (c :: (vs ++ rest)) ⟨.ok as, rest⟩

theorem popCounted_of_error {c : Value} {e : NumeralError} (hc : c.toNum = .error e) (s : Stack) :
    popCounted negative decode (c :: s) = ⟨.error (.notANumber e), s⟩ := by
  rw [popCounted, popNum_of_toNum_eq_error hc, andThen_error]

theorem popCounted_of_neg {c : Value} {n : Int64} (hc : c.toNum = .ok n) (hneg : n.toInt < 0)
    (s : Stack) : popCounted negative decode (c :: s) = ⟨.error (negative n), s⟩ := by
  have hlt : n < 0 := by
    rw [Int64.lt_iff_toInt_lt, Int64.toInt_zero]
    exact hneg
  rw [popCounted, popNum_of_toNum_eq_ok hc, andThen_ok, if_pos hlt]

/-- What comes after a count that is not below zero. -/
theorem popCounted_of_count {c : Value} {n : Int64} {count : Nat} (hc : c.toNum = .ok n)
    (hcount : n.toInt = (count : Int)) (s : Stack) :
    popCounted negative decode (c :: s) =
      if count ≤ s.length then popDecoded decode count s
      else ⟨.error (.stackUnderflow count s.length), s⟩ := by
  have hlt : ¬ n < 0 := by
    rw [Int64.lt_iff_toInt_lt, Int64.toInt_zero]
    omega
  have hnat : n.toInt.toNat = count := by omega
  rw [popCounted, popNum_of_toNum_eq_ok hc, andThen_ok, if_neg hlt]
  simp only [hnat, require]
  by_cases henough : count ≤ s.length
  · simp only [if_pos henough]
  · simp only [if_neg henough]

/-- It ends in one of the listed ways. -/
theorem counted_popCounted (negative : Int64 → Fault) (decode : Value → Except Fault α)
    (s : Stack) : Counted negative decode s (popCounted negative decode s) := by
  cases s with
  | nil => exact .empty
  | cons c s =>
    cases hc : c.toNum with
    | error e =>
      rw [popCounted_of_error hc]
      exact .notANumber hc
    | ok n =>
      by_cases hneg : n.toInt < 0
      · rw [popCounted_of_neg hc hneg]
        exact .below hc hneg
      · -- From here on the number is a count, and the loop takes over where there are enough.
        have hcount : n.toInt = (n.toInt.toNat : Int) := by omega
        rw [popCounted_of_count hc hcount]
        by_cases henough : n.toInt.toNat ≤ s.length
        · rw [if_pos henough]
          cases hloop : popDecoded decode n.toInt.toNat s with
          | mk result rest =>
            cases result with
            | error fault =>
              obtain ⟨above, v, rfl, hlt, hgood, hbad⟩ := (popDecoded_eq_error_iff henough).mp hloop
              exact .undecoded hc hcount henough hlt hgood hbad
            | ok as =>
              obtain ⟨vs, hlen, rfl, hmap⟩ := popDecoded_eq_ok_iff.mp hloop
              exact .decoded vs hc (by omega) hmap
        · rw [if_neg henough]
          exact .short hc hcount (by omega)

/-- **The list of its ends is exact.** -/
theorem popCounted_eq_iff {s : Stack} {o : Outcome Fault (List α)} :
    popCounted negative decode s = o ↔ Counted negative decode s o := by
  constructor
  · rintro rfl
    exact counted_popCounted negative decode s
  · intro h
    cases h with
    | empty => rfl
    | notANumber hc => exact popCounted_of_error hc _
    | below hc hneg => exact popCounted_of_neg hc hneg _
    | short hc hcount hshort => rw [popCounted_of_count hc hcount, if_neg (by omega)]
    | undecoded hc hcount henough hlt hgood hbad =>
      rw [popCounted_of_count hc hcount, if_pos henough]
      exact (popDecoded_eq_error_iff henough).mpr ⟨_, _, rfl, hlt, hgood, hbad⟩
    | decoded vs hc hcount hmap =>
      exact popCounted_eq_ok_iff.mpr ⟨_, _, vs, rfl, hc, hcount, hmap⟩

/-! ## The whole operation -/

/-- On top of a stack lie keys and then signatures, each behind their
count, and all of them can be decoded. -/
def Presents (flags : Flags) (s : Stack) (keys : List PublicKey) (sigs : List Signature)
    (rest : Stack) : Prop :=
  ∃ left, Counted .negativeKeyCount (Value.toKey flags) s ⟨.ok keys, left⟩ ∧
    Counted .negativeSignatureCount (Value.toSignature flags) left ⟨.ok sigs, rest⟩

/-- Every signature is right under some key. -/
def AllRight (checker : SignatureChecker) (keys : List PublicKey) (sigs : List Signature) : Prop :=
  ∀ sig ∈ sigs, ∃ key ∈ keys, checker sig key = true

/-- How a check of many signatures can end, again in the order in which
the cases are tried. -/
inductive Concludes (flags : Flags) (checker : SignatureChecker) :
    Stack → Outcome Fault Unit → Prop
  /-- The keys cannot be had. -/
  | keys {s r : Stack} {fault : Fault} :
      Counted .negativeKeyCount (Value.toKey flags) s ⟨.error fault, r⟩ →
      Concludes flags checker s ⟨.error fault, r⟩
  /-- They can, and the signatures cannot. -/
  | signatures {s left r : Stack} {ks : List PublicKey} {fault : Fault} :
      Counted .negativeKeyCount (Value.toKey flags) s ⟨.ok ks, left⟩ →
      Counted .negativeSignatureCount (Value.toSignature flags) left ⟨.error fault, r⟩ →
      Concludes flags checker s ⟨.error fault, r⟩
  /-- All can, and the signatures are right. -/
  | yes {s rest : Stack} {ks : List PublicKey} {sigs : List Signature} :
      Presents flags s ks sigs rest → AllRight checker ks sigs →
      Concludes flags checker s ⟨.ok (), .num 1 :: rest⟩
  /-- All can, and some signature is not. -/
  | no {s rest : Stack} {ks : List PublicKey} {sigs : List Signature} :
      Presents flags s ks sigs rest → ¬ AllRight checker ks sigs →
      Concludes flags checker s ⟨.ok (), .num 0 :: rest⟩

theorem allRight_iff {keys : List PublicKey} {sigs : List Signature} :
    (sigs.all fun sig => keys.any fun key => checker sig key) = true ↔
      AllRight checker keys sigs := by
  simp only [List.all_eq_true, List.any_eq_true, AllRight]

/-- **What can be decoded is put to the checker**, and the answer is pushed
in its place. -/
theorem eval_checkMultisig_of_presents {s rest : Stack} {keys : List PublicKey}
    {sigs : List Signature} (h : Presents flags s keys sigs rest) :
    checkMultisig.eval flags checker s =
      ⟨.ok (), Value.ofBool (sigs.all fun sig => keys.any fun key => checker sig key) :: rest⟩ := by
  obtain ⟨left, hkeys, hsigs⟩ := h
  rw [eval, checkMany, popCounted_eq_iff.mpr hkeys, andThen_ok, popCounted_eq_iff.mpr hsigs]
  rfl

theorem eval_checkMultisig_of_allRight {s rest : Stack} {keys : List PublicKey}
    {sigs : List Signature} (h : Presents flags s keys sigs rest)
    (hright : AllRight checker keys sigs) :
    checkMultisig.eval flags checker s = ⟨.ok (), .num 1 :: rest⟩ := by
  rw [eval_checkMultisig_of_presents h, allRight_iff.mpr hright]
  rfl

theorem eval_checkMultisig_of_not_allRight {s rest : Stack} {keys : List PublicKey}
    {sigs : List Signature} (h : Presents flags s keys sigs rest)
    (hwrong : ¬ AllRight checker keys sigs) :
    checkMultisig.eval flags checker s = ⟨.ok (), .num 0 :: rest⟩ := by
  have hno : (sigs.all fun sig => keys.any fun key => checker sig key) = false := by
    rw [← Bool.not_eq_true, allRight_iff]
    exact hwrong
  rw [eval_checkMultisig_of_presents h, hno]
  rfl

/-- It ends in one of the listed ways. -/
theorem concludes_eval (s : Stack) :
    Concludes flags checker s (checkMultisig.eval flags checker s) := by
  have hkeys := counted_popCounted .negativeKeyCount (Value.toKey flags) s
  cases hfirst : popCounted .negativeKeyCount (Value.toKey flags) s with
  | mk result left =>
    rw [hfirst] at hkeys
    cases result with
    | error fault =>
      rw [eval, checkMany, hfirst]
      exact .keys hkeys
    | ok ks =>
      have hsigs := counted_popCounted .negativeSignatureCount (Value.toSignature flags) left
      cases hsecond : popCounted .negativeSignatureCount (Value.toSignature flags) left with
      | mk result rest =>
        rw [hsecond] at hsigs
        cases result with
        | error fault =>
          rw [eval, checkMany, hfirst, andThen_ok, hsecond]
          exact .signatures hkeys hsigs
        | ok sigs =>
          have hpresents : Presents flags s ks sigs rest := ⟨left, hkeys, hsigs⟩
          by_cases hright : AllRight checker ks sigs
          · rw [eval_checkMultisig_of_allRight hpresents hright]
            exact .yes hpresents hright
          · rw [eval_checkMultisig_of_not_allRight hpresents hright]
            exact .no hpresents hright

/-- **And this list is exact too.** -/
theorem eval_checkMultisig_eq_iff {s : Stack} {o : Outcome Fault Unit} :
    checkMultisig.eval flags checker s = o ↔ Concludes flags checker s o := by
  constructor
  · rintro rfl
    exact concludes_eval s
  · intro h
    cases h with
    | keys hkeys =>
      rw [eval, checkMany, popCounted_eq_iff.mpr hkeys]
      rfl
    | signatures hkeys hsigs =>
      rw [eval, checkMany, popCounted_eq_iff.mpr hkeys, andThen_ok, popCounted_eq_iff.mpr hsigs]
      rfl
    | yes hpresents hright => exact eval_checkMultisig_of_allRight hpresents hright
    | no hpresents hwrong => exact eval_checkMultisig_of_not_allRight hpresents hwrong

/-- The order of keys and signatures does not matter, nor how often each of
them comes. -/
theorem allRight_congr {keys keys' : List PublicKey} {sigs sigs' : List Signature}
    (hkeys : ∀ key, key ∈ keys ↔ key ∈ keys') (hsigs : ∀ sig, sig ∈ sigs ↔ sig ∈ sigs') :
    AllRight checker keys sigs ↔ AllRight checker keys' sigs' := by
  simp only [AllRight, hkeys, hsigs]

/-- **The protocol of the check of many signatures.** On every stack it ends
in one of the ways listed, and each of them takes just what the list says.
A success takes off two counts and what they count, and pushes one element
on what lies below. Where there are as many elements as a count says, no
pop of the loop over them finds the stack empty. And if the keys on two
stacks are the same but for order and repetition, and so are the
signatures, the answer on them is the same. -/
theorem checkMultisig_follows_protocol (flags : Flags) (checker : SignatureChecker) :
    (∀ (s : Stack) (o : Outcome Fault Unit),
      checkMultisig.eval flags checker s = o ↔ Concludes flags checker s o) ∧
      (∀ s r : Stack, checkMultisig.eval flags checker s = ⟨.ok (), r⟩ →
        ∃ n k v, s.counts? = some (n, k) ∧ n + k + 2 ≤ s.length ∧ r = v :: s.drop (n + k + 2)) ∧
      (∀ (count : Nat) (s : Stack), count ≤ s.length →
        Sated (popDecoded (Value.toKey flags) count s).result ∧
          Sated (popDecoded (Value.toSignature flags) count s).result) ∧
      ∀ (s s' rest rest' : Stack) (keys keys' : List PublicKey) (sigs sigs' : List Signature),
        Presents flags s keys sigs rest → Presents flags s' keys' sigs' rest' →
        (∀ key, key ∈ keys ↔ key ∈ keys') → (∀ sig, sig ∈ sigs ↔ sig ∈ sigs') →
        ∃ v, checkMultisig.eval flags checker s = ⟨.ok (), v :: rest⟩ ∧
          checkMultisig.eval flags checker s' = ⟨.ok (), v :: rest'⟩ := by
  refine ⟨fun s o => eval_checkMultisig_eq_iff, fun s r h => ?_, fun count s henough => ?_,
    fun s s' rest rest' keys keys' sigs sigs' h h' hkeys hsigs => ?_⟩
  · obtain ⟨b, left, hcheck, rfl⟩ := pushBool_eq_ok_iff.mp h
    obtain ⟨n, k, hcounts, hlen, rfl⟩ := counts?_of_checkMany hcheck
    exact ⟨n, k, Value.ofBool b, hcounts, hlen, rfl⟩
  · exact ⟨sated_popDecoded (Value.sated_toCredential _) henough,
      sated_popDecoded (Value.sated_toCredential _) henough⟩
  · have hsame : AllRight checker keys sigs ↔ AllRight checker keys' sigs' :=
      allRight_congr hkeys hsigs
    by_cases hright : AllRight checker keys sigs
    · exact ⟨.num 1, eval_checkMultisig_of_allRight h hright,
        eval_checkMultisig_of_allRight h' (hsame.mp hright)⟩
    · exact ⟨.num 0, eval_checkMultisig_of_not_allRight h hright,
        eval_checkMultisig_of_not_allRight h' fun hright' => hright (hsame.mpr hright')⟩

/-- A key given twice and a signature given once, against the key once and
the signature twice: whatever the checker says, it is said of both. -/
theorem checkMultisig_follows_protocol_of_repetitions :
    let key : PublicKey := ⟨Curve.Point.generator.x, Curve.Point.generator.y, by decide⟩
    let k : Value := .bytes key.uncompressed
    let sig : Value := .literal "3006020101020101"
    let s : Stack := [.literal "2", k, k, .literal "1", sig]
    let s' : Stack := [.literal "1", k, .literal "0x2", sig, sig, .literal "x"]
    Presents .none s [key, key] [⟨1, 1⟩] [] ∧
      Presents .none s' [key] [⟨1, 1⟩, ⟨1, 1⟩] [.literal "x"] ∧
      ∀ checker, ∃ v, checkMultisig.eval .none checker s = ⟨.ok (), [v]⟩ ∧
        checkMultisig.eval .none checker s' = ⟨.ok (), [v, .literal "x"]⟩ := by
  intro key k sig s s'
  have hparse : PublicKey.parse? key.uncompressed = some key := by decide +kernel
  have hkey : k.toKey .none = .ok key := by
    refine Value.toCredential_eq_ok_iff.mpr ⟨key.uncompressed, rfl, ?_⟩
    rw [PublicKey.decode, hparse]
    rfl
  have hsig : (Value.literal "3006020101020101").toSignature .none = .ok ⟨1, 1⟩ := rfl
  have hone : (Value.literal "1").toNum = .ok 1 := rfl
  have htwo : (Value.literal "2").toNum = .ok 2 := rfl
  have hhex : (Value.literal "0x2").toNum = .ok 2 := rfl
  have h : Presents .none s [key, key] [⟨1, 1⟩] [] := by
    refine ⟨[.literal "1", sig], .decoded [k, k] htwo rfl ?_, .decoded [sig] hone rfl ?_⟩
    · simp [hkey]
    · simp [sig, hsig]
  have h' : Presents .none s' [key] [⟨1, 1⟩, ⟨1, 1⟩] [.literal "x"] := by
    refine ⟨[.literal "0x2", sig, sig, .literal "x"], .decoded [k] hone rfl ?_,
      .decoded [sig, sig] hhex rfl ?_⟩
    · simp [hkey]
    · simp [sig, hsig]
  refine ⟨h, h', fun checker => ?_⟩
  obtain ⟨-, -, -, hsame⟩ := checkMultisig_follows_protocol .none checker
  exact hsame s s' [] [.literal "x"] _ _ _ _ h h' (by simp) (by simp)

end Operation

/-! ## One signature and one key -/

namespace Outcome

variable {ε α β : Type}

/-- Two steps end alike: both succeed and leave the same stack, or both
fail for the same reason. -/
inductive Concurs : Outcome ε α → Outcome ε α → Prop
  | succeeded (a : α) (s : Stack) : Concurs ⟨.ok a, s⟩ ⟨.ok a, s⟩
  | failed (e : ε) (s s' : Stack) : Concurs ⟨.error e, s⟩ ⟨.error e, s'⟩

theorem Concurs.refl (o : Outcome ε α) : o.Concurs o := by
  obtain ⟨result, s⟩ := o
  cases result with
  | ok a => exact .succeeded a s
  | error e => exact .failed e s s

/-- And so they do when the same comes after them. -/
theorem Concurs.andThen {o p : Outcome ε α} (h : o.Concurs p) (next : α → Stack → Outcome ε β) :
    (o.andThen next).Concurs (p.andThen next) := by
  cases h with
  | succeeded a s => exact .refl _
  | failed e s s' => exact .failed e s s'

end Outcome

namespace Operation

open Stack Outcome

/-- A count of one takes one element off. -/
theorem popCounted_one {α : Type} {negative : Int64 → Fault} {decode : Value → Except Fault α}
    {c : Value} (hc : c.toNum = .ok 1) (v : Value) (s : Stack) :
    popCounted negative decode (c :: v :: s) =
      ⟨(decode v).map fun a => [a], s⟩ := by
  have hone : (1 : Int64).toInt = ((1 : Nat) : Int) := rfl
  rw [popCounted_of_count hc hone, if_pos (by simp), popDecoded, pop, andThen_ok]
  cases decode v with
  | error e => rfl
  | ok a => rfl

/-- **The question is the same.** The key is decoded before the signature in
both; where it cannot be, the one has both off the stack already and the
other has not come to the signature yet. -/
theorem concurs_checkOne_checkMany (flags : Flags) (checker : SignatureChecker) {c₁ c₂ : Value}
    (h₁ : c₁.toNum = .ok 1) (h₂ : c₂.toNum = .ok 1) (sig key : Value) (base : Stack) :
    (consumeTwo (checkOne flags checker) (key :: sig :: base)).Concurs
      (checkMany flags checker (c₂ :: key :: c₁ :: sig :: base)) := by
  rw [checkMany, popCounted_one h₂, consumeTwo, checkOne]
  cases key.toKey flags with
  | error fault => exact .failed fault _ _
  | ok k =>
    have hkeys : (Except.ok k : Except Fault PublicKey).map (fun a => [a]) = .ok [k] := rfl
    rw [hkeys, andThen_ok, popCounted_one h₁]
    cases sig.toSignature flags with
    | error fault => exact .failed fault _ _
    | ok d =>
      have hany : ([d].all fun d => [k].any fun k => checker d k) = checker d k := by simp
      have hsigs : (Except.ok d : Except Fault Signature).map (fun a => [a]) = .ok [d] := rfl
      simp only [hsigs, andThen_ok, hany]
      exact .succeeded _ _

/-- **One signature and one key are a case of many.** On top of any elements
let there be a signature and a key, and let them be there again with a
count of one on each, however the ones are spelled. The operation on one
signature on the first stack and the one on many on the second end alike:
both succeed and leave the same, or both fail with the same fault, also
where more than one thing is wrong. And so do their verifying forms. -/
theorem checkSig_is_one_of_one (flags : Flags) (checker : SignatureChecker) (base : Stack)
    (sig key c₁ c₂ : Value) (h₁ : c₁.toNum = .ok 1) (h₂ : c₂.toNum = .ok 1) :
    (checkSig.eval flags checker (key :: sig :: base)).Concurs
        (checkMultisig.eval flags checker (c₂ :: key :: c₁ :: sig :: base)) ∧
      (checkSigVerify.eval flags checker (key :: sig :: base)).Concurs
        (checkMultisigVerify.eval flags checker (c₂ :: key :: c₁ :: sig :: base)) := by
  have hquestion := concurs_checkOne_checkMany flags checker h₁ h₂ sig key base
  refine ⟨?_, hquestion.andThen fun answer s => ⟨ensure answer, s⟩⟩
  exact hquestion.andThen fun answer s => ⟨.ok (), Value.ofBool answer :: s⟩

/-- The key is no key and the signature is not even hexadecimal. Both
operations blame the key, with the ones in two spellings. -/
theorem checkSig_is_one_of_one_of_malformed :
    (Value.literal "0b01").toNum = .ok 1 ∧ (Value.literal "+1").toNum = .ok 1 ∧
      checkSig.eval .none .rejectAll [.literal "00", .literal "zz"] =
        ⟨.error (.malformedCredential .malformedKey), []⟩ ∧
      ∃ r, checkMultisig.eval .none .rejectAll
          [.literal "+1", .literal "00", .literal "0b01", .literal "zz"] =
        ⟨.error (.malformedCredential .malformedKey), r⟩ := by
  have h₁ : (Value.literal "0b01").toNum = .ok 1 := rfl
  have h₂ : (Value.literal "+1").toNum = .ok 1 := rfl
  have hone : checkSig.eval .none .rejectAll [.literal "00", .literal "zz"] =
      ⟨.error (.malformedCredential .malformedKey), []⟩ := rfl
  refine ⟨h₁, h₂, hone, ?_⟩
  obtain ⟨hconcurs, -⟩ :=
    checkSig_is_one_of_one .none .rejectAll [] (.literal "zz") (.literal "00") _ _ h₁ h₂
  rw [hone] at hconcurs
  cases hmany : checkMultisig.eval .none .rejectAll
      [.literal "+1", .literal "00", .literal "0b01", .literal "zz"] with
  | mk result r =>
    rw [hmany] at hconcurs
    cases hconcurs with
    | failed => exact ⟨r, rfl⟩

end Operation

end SpendScript
