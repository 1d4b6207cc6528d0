import SpendScript.Proofs.Grammar
import SpendScript.Proofs.Success
import SpendScript.Proofs.WrittenForm
/-!
# Sums and differences

Two operations compute, and they compute with integers: the numbers of two
elements are read off them, the upper one first, and the result is an
element if it fits. It never wraps, so taking back what was added gives
the number from before, and fails only where adding it did.

A number that is given back is written in its canonical form, however it
was spelled when it was pushed. All spellings are made of the characters
of `Numeral.alphabet`. No blank is one of them, and the names of
operations are not made of them, so a numeral in a script pushes itself.
-/

namespace SpendScript

/-! ## Numerals as words -/

namespace Numeral

/-- The characters that a numeral can have. -/
def alphabet : List Char :=
  ['+', '-', 'x', 'X', 'o', 'O', '0', '1', '2', '3', '4', '5', '6', '7', '8', '9', 'a', 'b', 'c',
    'd', 'e', 'f', 'A', 'B', 'C', 'D', 'E', 'F']

theorem mem_alphabet_of_isDigit {radix : Radix} {c : Char} (h : radix.IsDigit c) :
    c ∈ alphabet := by
  have hascii : c.toNat < 128 :=
    Nat.lt_of_not_le fun hle => not_isDigit_of_le hle radix h
  -- All bases have their digits from the same few characters.
  have hall : ∀ n < 128, (Char.ofNat n).toLower ∈ Radix.symbols → Char.ofNat n ∈ alphabet := by
    decide +kernel
  obtain ⟨n, hn, rfl⟩ := Text.exists_eq_ofNat hascii
  exact hall n hn (List.mem_of_mem_take h)

theorem mem_alphabet_of_marked {cs digits : List Char} {radix : Radix}
    (h : Marked cs radix digits) (hdigits : ∀ c ∈ digits, c ∈ alphabet) :
    ∀ c ∈ cs, c ∈ alphabet := by
  have hmark : ∀ {x : Char}, x ∈ alphabet → ∀ c ∈ '0' :: x :: digits, c ∈ alphabet := by
    intro x hx
    exact List.forall_mem_cons.mpr ⟨by decide, List.forall_mem_cons.mpr ⟨hx, hdigits⟩⟩
  cases h with
  | hexadecimal _ hx => exact hmark (by rcases hx with rfl | rfl <;> decide)
  | octal _ hx => exact hmark (by rcases hx with rfl | rfl <;> decide)
  | binary _ hx => exact hmark (by rcases hx with rfl | rfl <;> decide)
  | decimal _ => exact hdigits

theorem mem_alphabet_of_signed {cs unsigned : List Char} {negative : Bool}
    (h : Signed cs negative unsigned) (hunsigned : ∀ c ∈ unsigned, c ∈ alphabet) :
    ∀ c ∈ cs, c ∈ alphabet := by
  cases h with
  | minus => exact List.forall_mem_cons.mpr ⟨by decide, hunsigned⟩
  | plus => exact List.forall_mem_cons.mpr ⟨by decide, hunsigned⟩
  | bare _ _ => exact hunsigned

/-- **A text that is read as a number** has something in it, and no
characters but these. -/
theorem mem_alphabet_of_parse {text : String} {n : Int64} (h : parse text = .ok n) :
    text ≠ "" ∧ ∀ c ∈ text.toList, c ∈ alphabet := by
  have htext : text ≠ "" := by
    rintro rfl
    cases h
  obtain ⟨⟨negative, radix, digits⟩, hparts, -⟩ := existsUnique_hasParts text.toList
  have hdigits : ∀ c ∈ digits, radix.IsDigit c := by
    intro c hc
    by_contra hnot
    rw [parse_of_not_digits htext hparts (.inr ⟨c, hc, hnot⟩)] at h
    cases h
  obtain ⟨unsigned, hsigned, hmarked⟩ := hparts
  refine ⟨htext, mem_alphabet_of_signed hsigned (mem_alphabet_of_marked hmarked ?_)⟩
  exact fun c hc => mem_alphabet_of_isDigit (hdigits c hc)

/-- So it is a word and no name of an operation, for the second letter of
the mark is missing: it can be pushed by a script that is written down. -/
theorem writable_push_of_parse {text : String} {n : Int64} (h : parse text = .ok n) :
    (Token.push text).Writable := by
  obtain ⟨htext, hmem⟩ := mem_alphabet_of_parse h
  refine ⟨⟨fun hnil => htext (String.toList_eq_nil_iff.mp hnil), fun c hc => ?_⟩, ?_⟩
  · have hblank : (alphabet.all fun c => !Text.isBlank c) = true := by decide
    simpa using List.all_eq_true.mp hblank c (hmem c hc)
  · have hmark : 'P' ∉ text.toList := fun hP => absurd (hmem 'P' hP) (by decide)
    unfold isOpcode
    split
    · rename_i heq
      exact absurd (by simp [heq]) hmark
    · rfl

end Numeral

/-! ## The operations -/

namespace Operation

open Numeral

/-- The operations that compute, and what: the lower element comes first. -/
inductive Computes : Operation → (Int → Int → Int) → Prop
  | add : Computes .add (· + ·)
  | sub : Computes .sub (· - ·)

namespace Computes

variable {flags : Flags} {checker : SignatureChecker}
variable {op : Operation} {f : Int → Int → Int} {v w : Value} {x y : Int64} {e : NumeralError}

theorem eval_eq (h : op.Computes f) (v w : Value) (base : Stack) :
    op.eval flags checker (w :: v :: base) = (Outcome.mk (arithmetic f v w) base).push := by
  cases h with
  | add => rfl
  | sub => rfl

/-- **The upper element is read first**, and blamed whatever the lower one
is. -/
theorem eval_of_upper (h : op.Computes f) (hw : w.toNum = .error e) (v : Value) (base : Stack) :
    op.eval flags checker (w :: v :: base) = ⟨.error (.notANumber e), base⟩ := by
  rw [h.eval_eq, arithmetic, hw]
  rfl

theorem eval_of_lower (h : op.Computes f) (hw : w.toNum = .ok y) (hv : v.toNum = .error e)
    (base : Stack) :
    op.eval flags checker (w :: v :: base) = ⟨.error (.notANumber e), base⟩ := by
  simp only [h.eval_eq, arithmetic, hw, hv]
  rfl

/-- **A result that fits is pushed.** -/
theorem eval_of_inRange (h : op.Computes f) (hv : v.toNum = .ok x) (hw : w.toNum = .ok y)
    (hin : InRange (f x.toInt y.toInt)) (base : Stack) :
    op.eval flags checker (w :: v :: base) =
      ⟨.ok (), .num (Int64.ofInt (f x.toInt y.toInt)) :: base⟩ := by
  simp only [h.eval_eq, arithmetic, hw, hv, number, fit?, if_pos hin]
  rfl

/-- **And one that does not is a fault.** -/
theorem eval_of_not_inRange (h : op.Computes f) (hv : v.toNum = .ok x) (hw : w.toNum = .ok y)
    (hout : ¬ InRange (f x.toInt y.toInt)) (base : Stack) :
    op.eval flags checker (w :: v :: base) = ⟨.error .overflow, base⟩ := by
  simp only [h.eval_eq, arithmetic, hw, hv, number, fit?, if_neg hout]
  rfl

end Computes

/-- Two operations of which the second takes back what the first does, and
what the first computes. -/
inductive Undone : Operation → Operation → (Int → Int → Int) → Prop
  | addSub : Undone .add .sub (· + ·)
  | subAdd : Undone .sub .add (· - ·)

theorem Undone.exists_inverse {op back : Operation} {f : Int → Int → Int}
    (h : Undone op back f) :
    op.Computes f ∧ ∃ g, back.Computes g ∧ ∀ x y, g (f x y) y = x := by
  cases h with
  | addSub => exact ⟨.add, _, .sub, Int.add_sub_cancel⟩
  | subAdd => exact ⟨.sub, _, .add, Int.sub_add_cancel⟩

end Operation

/-! ## There and back -/

namespace Code

open Numeral

variable {flags : Flags} {checker : SignatureChecker}
variable {op back : Operation} {f : Int → Int → Int} {a b : String} {x y : Int64}

/-- Computes with two numbers, and then takes the second of them back. -/
def thereAndBack (op back : Operation) (a b : String) : Code :=
  ⟨[.push a, .push b, .operation op, .push b, .operation back]⟩

/-- It is what its words write, if they are numerals. -/
theorem parse_thereAndBack (op back : Operation) (ha : Numeral.parse a = .ok x)
    (hb : Numeral.parse b = .ok y) :
    parse (Text.unwords [a, b, op.name, b, back.name]) = thereAndBack op back a b := by
  have hpushA : (Token.push a).Writable := writable_push_of_parse ha
  have hpushB : (Token.push b).Writable := writable_push_of_parse hb
  refine parse_text_of_writable (c := thereAndBack op back a b) fun t ht => ?_
  simp only [thereAndBack, List.mem_cons, List.not_mem_nil, or_false] at ht
  rcases ht with rfl | rfl | rfl | rfl | rfl
  · exact hpushA
  · exact hpushB
  · trivial
  · exact hpushB
  · trivial

/-- **If the first result fits, so does the second**: it is the number from
before. -/
theorem run_thereAndBack_of_inRange (h : op.Undone back f) (ha : Numeral.parse a = .ok x)
    (hb : Numeral.parse b = .ok y) (hin : InRange (f x.toInt y.toInt)) (base : Stack) :
    (thereAndBack op back a b).run flags checker base = ⟨.ok (), .num x :: base⟩ := by
  obtain ⟨hop, g, hback, hinverse⟩ := h.exists_inverse
  have hx : (Value.literal a).toNum = .ok x := ha
  have hy : (Value.literal b).toNum = .ok y := hb
  have hthere : op.eval flags checker (.literal b :: .literal a :: base) =
      ⟨.ok (), .num (Int64.ofInt (f x.toInt y.toInt)) :: base⟩ := hop.eval_of_inRange hx hy hin base
  have hvalue : g (Int64.ofInt (f x.toInt y.toInt)).toInt y.toInt = x.toInt := by
    rw [toInt_ofInt_of_inRange hin, hinverse]
  have hfits : InRange (g (Int64.ofInt (f x.toInt y.toInt)).toInt y.toInt) := by
    rw [hvalue]
    exact inRange_toInt x
  -- The result is on the stack as a number, and is read back without its text.
  have hresult : (Value.num (Int64.ofInt (f x.toInt y.toInt))).toNum =
      .ok (Int64.ofInt (f x.toInt y.toInt)) := rfl
  have hreturn : back.eval flags checker
      (.literal b :: .num (Int64.ofInt (f x.toInt y.toInt)) :: base) =
        ⟨.ok (), .num x :: base⟩ := by
    rw [hback.eval_of_inRange hresult hy hfits, hvalue, Int64.ofInt_toInt]
  rw [run, thereAndBack, runTokens_cons_of_ok (t := .push a) rfl,
    runTokens_cons_of_ok (t := .push b) rfl, runTokens_cons_of_ok (t := .operation op) hthere,
    runTokens_cons_of_ok (t := .push b) rfl, runTokens_cons_of_ok (t := .operation back) hreturn]
  rfl

/-- If it does not, the run ends there. -/
theorem run_thereAndBack_of_not_inRange (h : op.Undone back f) (ha : Numeral.parse a = .ok x)
    (hb : Numeral.parse b = .ok y) (hout : ¬ InRange (f x.toInt y.toInt)) (base : Stack) :
    (thereAndBack op back a b).run flags checker base =
      ⟨.error (.interpreter (some (.operation op)) .overflow), base⟩ := by
  obtain ⟨hop, -⟩ := h.exists_inverse
  have hx : (Value.literal a).toNum = .ok x := ha
  have hy : (Value.literal b).toNum = .ok y := hb
  have hthere : op.eval flags checker (.literal b :: .literal a :: base) =
      ⟨.error .overflow, base⟩ := hop.eval_of_not_inRange hx hy hout base
  rw [run, thereAndBack, runTokens_cons_of_ok (t := .push a) rfl,
    runTokens_cons_of_ok (t := .push b) rfl, runTokens_cons_of_error (t := .operation op) hthere]

/-- **Arithmetic is exact, and can be taken back.** A sum or difference of
the two top elements, whatever they came about by, fails if the upper is no
number, and then if the lower is none, with what is wrong with it as a
numeral. Otherwise it leaves the number that is the sum or difference of
the two as integers if that fits in 64 bits with a sign, and fails if it
does not; and what lies below is left in any case. So let a script add a
number to another and then take it off again, or the other way round, each
written in any way that a number can be. If the first result fits it
succeeds and leaves the canonical text of the number it started with, and
if not it fails at the first operation. -/
theorem arithmetic_exact_and_undone (flags : Flags) (checker : SignatureChecker) (base : Stack) :
    (∀ (op : Operation) (f : Int → Int → Int), op.Computes f → ∀ v w : Value,
      (∀ e, w.toNum = .error e →
        op.eval flags checker (w :: v :: base) = ⟨.error (.notANumber e), base⟩) ∧
      (∀ y e, w.toNum = .ok y → v.toNum = .error e →
        op.eval flags checker (w :: v :: base) = ⟨.error (.notANumber e), base⟩) ∧
      ∀ x y, v.toNum = .ok x → w.toNum = .ok y →
        (InRange (f x.toInt y.toInt) →
          ∃ n : Int64, n.toInt = f x.toInt y.toInt ∧
            op.eval flags checker (w :: v :: base) = ⟨.ok (), .num n :: base⟩) ∧
        (¬ InRange (f x.toInt y.toInt) →
          op.eval flags checker (w :: v :: base) = ⟨.error .overflow, base⟩)) ∧
      ∀ (op back : Operation) (f : Int → Int → Int), op.Undone back f →
        ∀ (a b : String) (x y : Int64), Numeral.parse a = .ok x → Numeral.parse b = .ok y →
          parse (Text.unwords [a, b, op.name, b, back.name]) = thereAndBack op back a b ∧
          (InRange (f x.toInt y.toInt) →
            ∃ v, (thereAndBack op back a b).run flags checker base = ⟨.ok (), v :: base⟩ ∧
              v.text = render x) ∧
          (¬ InRange (f x.toInt y.toInt) →
            (thereAndBack op back a b).run flags checker base =
              ⟨.error (.interpreter (some (.operation op)) .overflow), base⟩) := by
  refine ⟨fun op f hop v w => ⟨fun e hw => hop.eval_of_upper hw v base,
      fun y e hw hv => hop.eval_of_lower hw hv base,
      fun x y hv hw => ⟨fun hin => ?_, fun hout => ?_⟩⟩,
    fun op back f h a b x y ha hb => ⟨parse_thereAndBack op back ha hb,
      fun hin => ?_, fun hout => ?_⟩⟩
  · exact ⟨_, toInt_ofInt_of_inRange hin, hop.eval_of_inRange hv hw hin base⟩
  · exact hop.eval_of_not_inRange hv hw hout base
  · exact ⟨.num x, run_thereAndBack_of_inRange h ha hb hin base, rfl⟩
  · exact run_thereAndBack_of_not_inRange h ha hb hout base

/-- The highest number, in hexadecimal, and minus one, in binary. Adding the
one to the other can be taken back, and taking it off overflows. -/
theorem arithmetic_exact_and_undone_of_highest :
    let a := "0x7FFFFFFFFFFFFFFF"
    let b := "-0b1"
    Numeral.parse a = .ok 9223372036854775807 ∧ Numeral.parse b = .ok (-1) ∧
      InRange (9223372036854775807 + -1) ∧ ¬ InRange (9223372036854775807 - -1) ∧
      (∃ v, (thereAndBack .add .sub a b).run .none .rejectAll [] = ⟨.ok (), [v]⟩ ∧
        v.text = render 9223372036854775807) ∧
      (thereAndBack .sub .add a b).run .none .rejectAll [] =
        ⟨.error (.interpreter (some (.operation .sub)) .overflow), []⟩ ∧
      Operation.sub.eval .none .rejectAll [.literal "-0b1", .literal "0x7FFFFFFFFFFFFFFF"] =
        ⟨.error .overflow, []⟩ := by
  intro a b
  have ha : Numeral.parse "0x7FFFFFFFFFFFFFFF" = .ok 9223372036854775807 := rfl
  have hb : Numeral.parse "-0b1" = .ok (-1) := rfl
  have hin : InRange (9223372036854775807 + -1) := by decide
  have hout : ¬ InRange (9223372036854775807 - -1) := by decide
  obtain ⟨hstep, hrun⟩ := arithmetic_exact_and_undone .none .rejectAll []
  obtain ⟨-, hback, -⟩ := hrun .add .sub _ .addSub a b _ _ ha hb
  obtain ⟨-, -, hfail⟩ := hrun .sub .add _ .subAdd a b _ _ ha hb
  obtain ⟨-, -, hexact⟩ := hstep .sub _ .sub (.literal a) (.literal b)
  exact ⟨ha, hb, hin, hout, hback hin, hfail hout, (hexact _ _ ha hb).2 hout⟩

end Code

end SpendScript
