import Mathlib.Data.List.Induction
import SpendScript.Proofs.Grammar
/-!
# Canonical numerals

A number is written in one way: `0`, or its digits from the first that is
not zero, behind a minus sign or nothing. `Canonical` says this of a text
without the writer, and the texts that the writer makes are exactly those
(`canonical_iff_exists_render`). What carries it is that decimal digits
which do not start with a zero are the digits of the number they denote
(`toDigits_ofDigitChars`): no text but one denotes it without a plus sign,
a marker of the base or a zero in front.

So reading a text and writing its number brings every numeral into this
form, and leaves alone those that have it and no others.
-/

namespace SpendScript

namespace Numeral

/-! ## The form -/

/-- The sign in front of the digits of a number, where there is one. -/
def minus (negative : Bool) : List Char :=
  if negative then ['-'] else []

/-- What a number is written as. -/
inductive Canonical : String → Prop
  /-- Zero has no sign. -/
  | zero : Canonical "0"
  /-- All others start with a digit that is not zero. -/
  | digits (negative : Bool) {d : Char} {ds : List Char} : d ≠ '0' →
      (∀ c ∈ d :: ds, Radix.decimal.IsDigit c) → InRange (denoted negative .decimal (d :: ds)) →
      Canonical (String.ofList (minus negative ++ d :: ds))

/-! ## Decimal digits -/

/-- The digits of the decimal base are the digits of ASCII. -/
theorem isDigit_decimal_iff {c : Char} : Radix.decimal.IsDigit c ↔ c.isDigit = true := by
  constructor
  · intro h
    have hascii : c.toNat < 128 :=
      Nat.lt_of_not_le fun hle => not_isDigit_of_le hle .decimal h
    have hall : ∀ n < 128, Radix.decimal.IsDigit (Char.ofNat n) →
        (Char.ofNat n).isDigit = true := by
      decide +kernel
    obtain ⟨n, hn, rfl⟩ := Text.exists_eq_ofNat hascii
    exact hall n hn h
  · intro h
    by_contra hnot
    have hnone := digit?_decimal h
    rw [digit?_eq, if_neg hnot] at hnone
    cases hnone

/-- A digit is the one that is written for its value. -/
theorem digitChar_of_isDigit {c : Char} (h : c.isDigit = true) :
    c.toNat - '0'.toNat < 10 ∧ Nat.digitChar (c.toNat - '0'.toNat) = c := by
  have hrange : '0'.toNat ≤ c.toNat ∧ c.toNat ≤ 57 := by
    simp only [Char.isDigit, Bool.and_eq_true, decide_eq_true_eq] at h
    exact ⟨UInt32.le_iff_toNat_le.mp h.1, UInt32.le_iff_toNat_le.mp h.2⟩
  have hlt : c.toNat - '0'.toNat < 10 := by
    simp only [Char.reduceToNat] at hrange ⊢
    omega
  have hall : ∀ n < 10, Nat.digitChar n = Char.ofNat ('0'.toNat + n) := by decide
  have hc := hall _ hlt
  rw [Nat.add_sub_cancel' hrange.1, Char.ofNat_toNat] at hc
  exact ⟨hlt, hc⟩

/-- What digits behind a sign denote, taken together from the first on. -/
theorem denoted_decimal (negative : Bool) {cs : List Char} (h : ∀ c ∈ cs, c.isDigit = true) :
    denoted negative .decimal cs =
      if negative then -(Nat.ofDigitChars 10 cs 0 : Int) else Nat.ofDigitChars 10 cs 0 := by
  have hvalues : cs.map Radix.digitValue = cs.map fun c => c.toNat - 48 := by
    have hread := digitValues?_of_isDigit fun c hc => isDigit_decimal_iff.mpr (h c hc)
    rw [digitValues?_decimal h] at hread
    exact (Option.some.inj hread).symm
  rw [denoted, ← magnitude_eq_ofDigits, hvalues, magnitude_decimal]

/-- The digits of a number other than zero do not start with one. -/
theorem toDigits_eq_cons {n : ℕ} (h : 0 < n) :
    ∃ d ds, Nat.toDigits 10 n = d :: ds ∧ d ≠ '0' := by
  induction n using Nat.strong_induction_on with
  | _ n ih =>
    by_cases hsmall : n < 10
    · refine ⟨n.digitChar, [], Nat.toDigits_of_lt_base hsmall, fun hzero => ?_⟩
      rw [Nat.digitChar_eq_zero] at hzero
      omega
    · -- The last digit is put behind those of a tenth of the number.
      obtain ⟨d, ds, hdigits, hd⟩ := ih (n / 10) (by omega) (by omega)
      refine ⟨d, ds ++ [(n % 10).digitChar], ?_, hd⟩
      rw [Nat.toDigits_of_base_le (by decide) (by omega), hdigits, List.cons_append]

/-- And where they do not, it is not zero. -/
theorem pos_of_toDigits_eq_cons {n : ℕ} {d : Char} {ds : List Char}
    (h : Nat.toDigits 10 n = d :: ds) (hd : d ≠ '0') : 0 < n := by
  refine Nat.pos_of_ne_zero fun hzero => ?_
  rw [hzero, Nat.toDigits_zero] at h
  exact hd (List.cons.inj h).1.symm

/-- **Digits that do not start with a zero** are those of the number that
they denote. -/
theorem toDigits_ofDigitChars {d : Char} {ds : List Char} (hd : d ≠ '0')
    (h : ∀ c ∈ d :: ds, c.isDigit = true) :
    Nat.toDigits 10 (Nat.ofDigitChars 10 (d :: ds) 0) = d :: ds := by
  induction ds using List.reverseRecOn with
  | nil =>
    obtain ⟨hlt, hchar⟩ := digitChar_of_isDigit (h d List.mem_cons_self)
    rw [Nat.ofDigitChars_cons, Nat.ofDigitChars_nil, Nat.mul_zero, Nat.zero_add,
      Nat.toDigits_of_lt_base hlt, hchar]
  | append_singleton es c ih =>
    have hfront : ∀ x ∈ d :: es, x.isDigit = true := fun x hx =>
      h x (List.mem_append_left [c] hx)
    have hback := ih hfront
    obtain ⟨hlt, hchar⟩ := digitChar_of_isDigit (h c (by simp))
    -- The number in front is not zero, so the last digit is put behind its digits.
    rw [← List.cons_append, Nat.ofDigitChars_append, Nat.ofDigitChars_cons, Nat.ofDigitChars_nil,
      ← Nat.toDigits_append_toDigits (by decide) (pos_of_toDigits_eq_cons hback hd) hlt, hback,
      Nat.toDigits_of_lt_base hlt, hchar]

/-! ## Written and canonical -/

/-- Digits that do not start with a zero are written, with their sign, for
the number that they denote. -/
theorem decimal_denoted (negative : Bool) {d : Char} {ds : List Char} (hd : d ≠ '0')
    (h : ∀ c ∈ d :: ds, c.isDigit = true) :
    decimal (denoted negative .decimal (d :: ds)) = minus negative ++ d :: ds := by
  have hdigits := toDigits_ofDigitChars hd h
  have hpos := pos_of_toDigits_eq_cons hdigits hd
  rw [denoted_decimal negative h, decimal, minus]
  cases negative with
  | true =>
    simp only [if_true]
    rw [if_pos (by omega), Int.natAbs_neg, Int.natAbs_natCast, hdigits]
    rfl
  | false =>
    simp only [Bool.false_eq_true, if_false]
    rw [if_neg (by omega), Int.natAbs_natCast, hdigits]
    rfl

/-- What is written for a number is canonical. -/
theorem canonical_render (n : Int64) : Canonical (render n) := by
  by_cases hzero : n.toInt = 0
  · have htext : render n = "0" := by
      rw [render, hzero]
      decide
    rw [htext]
    exact .zero
  · obtain ⟨d, ds, hdigits, hd⟩ := toDigits_eq_cons (n := n.toInt.natAbs) (by omega)
    have hall : ∀ c ∈ d :: ds, c.isDigit = true := hdigits ▸ isDigit_of_mem_toDigits
    have hvalue : denoted (decide (n.toInt < 0)) .decimal (d :: ds) = n.toInt := by
      rw [denoted_decimal _ hall, ← hdigits, Nat.ofDigitChars_ten_toDigits, signed_natAbs]
    have hrange : InRange (denoted (decide (n.toInt < 0)) .decimal (d :: ds)) := by
      rw [hvalue]
      exact inRange_toInt n
    rw [render, ← hvalue, decimal_denoted _ hd hall]
    exact .digits _ hd (fun c hc => isDigit_decimal_iff.mpr (hall c hc)) hrange

/-- **And what is canonical is written for a number.** -/
theorem canonical_iff_exists_render {text : String} : Canonical text ↔ ∃ n, text = render n := by
  constructor
  · intro h
    cases h with
    | zero => exact ⟨0, by decide⟩
    | @digits negative d ds hd hdigits hrange =>
      refine ⟨Int64.ofInt (denoted negative .decimal (d :: ds)), ?_⟩
      have hall := fun c hc => isDigit_decimal_iff.mp (hdigits c hc)
      rw [render, toInt_ofInt_of_inRange hrange, decimal_denoted negative hd hall]
  · rintro ⟨n, rfl⟩
    exact canonical_render n

/-! ## Reading and writing again -/

/-- The canonical text of the number that a text denotes. -/
def normalized (text : String) : Except NumeralError String :=
  (parse text).map render

/-- What is written once is not changed any more. -/
theorem normalized_render (n : Int64) : normalized (render n) = .ok (render n) := by
  rw [normalized, parse_render]
  rfl

/-- **Only canonical texts are left alone.** -/
theorem normalized_eq_self_iff {text : String} : normalized text = .ok text ↔ Canonical text := by
  rw [canonical_iff_exists_render]
  constructor
  · intro h
    unfold normalized at h
    cases hparse : parse text with
    | error e =>
      rw [hparse] at h
      cases h
    | ok n =>
      rw [hparse] at h
      exact ⟨n, (Except.ok.inj h).symm⟩
  · rintro ⟨n, rfl⟩
    exact normalized_render n

theorem normalized_bind_normalized (text : String) :
    (normalized text >>= normalized) = normalized text := by
  unfold normalized
  cases parse text with
  | error e => rfl
  | ok n => exact normalized_render n

instance (text : String) : Decidable (Canonical text) :=
  decidable_of_iff (normalized text = .ok text) normalized_eq_self_iff

/-- **Canonical decimals.** Every number is read back from what is written
for it, so no two are written alike. The texts that are written are the
canonical ones: `0`, and the digits of a number in range, the first of
which is not zero, behind a minus sign or nothing. Reading a text and
writing its number once is the same as doing it twice, and it leaves the
canonical texts alone and no others. -/
theorem canonical_decimals :
    (∀ n : Int64, parse (render n) = .ok n) ∧
      (∀ m n : Int64, render m = render n ↔ m = n) ∧
      (∀ text : String, (∃ n, text = render n) ↔ Canonical text) ∧
      (∀ text : String, (normalized text >>= normalized) = normalized text) ∧
      ∀ text : String, normalized text = .ok text ↔ Canonical text :=
  ⟨parse_render, fun _ _ => render_inj, fun _ => canonical_iff_exists_render.symm,
    normalized_bind_normalized, fun _ => normalized_eq_self_iff⟩

-- The lowest number there is, and texts that are one too low or denote a number in another way.
example : Canonical "-9223372036854775808" ∧ ¬ Canonical "-9223372036854775809" ∧
    ¬ Canonical "-0" ∧ ¬ Canonical "+1" ∧ ¬ Canonical "007" ∧ ¬ Canonical "0x10" := by
  decide

end Numeral

end SpendScript
